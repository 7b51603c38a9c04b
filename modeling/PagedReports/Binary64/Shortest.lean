import PagedReports.Binary64.Basic

/-!
# Shortest decimal text

A finite floating-point number is written with the fewest decimal digits that no other
floating-point number is nearer to, never with an exponent.
-/

namespace PagedReports.Binary64

/-- The fractions that a floating-point number stands for: those from `low` to `high`, all
over one denominator, with the ends only if `closed`. -/
structure Interval where
  /-- The lower end. -/
  low : Nat
  /-- The number itself. -/
  mid : Nat
  /-- The upper end. -/
  high : Nat
  /-- The denominator. -/
  den : Nat
  /-- Whether the ends belong to it. -/
  closed : Bool
  deriving DecidableEq, Repr

/-- The interval of a positive number `m · 2 ^ e`. The gap below a power of two is half the gap
above it. -/
def Interval.around (m : Nat) (e : Int) : Interval :=
  let scale := Ratio.ofBinary 1 (e - 2)
  let below := if m = 0x10000000000000 ∧ -1074 < e then 1 else 2
  ⟨(4 * m - below) * scale.num, 4 * m * scale.num, (4 * m + 2) * scale.num, scale.den,
    m % 2 == 0⟩

/-- Whether `digits · 10 ^ exponent` lies in an interval. -/
def Interval.contains (i : Interval) (digits : Nat) (exponent : Int) : Bool :=
  let point := digits * i.den * Nat.pow 10 exponent.toNat
  let low := i.low * Nat.pow 10 (-exponent).toNat
  let high := i.high * Nat.pow 10 (-exponent).toNat
  if i.closed then low ≤ point && point ≤ high else low < point && point < high

/-- The multiple of `10 ^ exponent` in an interval that is nearest to its number; of two equally
near ones, the larger. -/
def Interval.nearest? (i : Interval) (exponent : Int) : Option Nat :=
  let scaled := (Ratio.mk i.mid i.den).scaleDown exponent
  let below := scaled.num / scaled.den
  let rest := scaled.num % scaled.den
  match i.contains below exponent, i.contains (below + 1) exponent with
  | true, true => some (if 2 * rest < scaled.den then below else below + 1)
  | true, false => some below
  | false, true => some (below + 1)
  | false, false => none

/-- The fewest digits, and the power of ten they count. Seventeen digits always suffice. -/
def shortestDigits (m : Nat) (e : Int) : Nat × Int :=
  let i := Interval.around m e
  let top := (Ratio.mk i.mid i.den).magnitude
  ((List.range 17).findSome? fun (n : Nat) =>
    (i.nearest? (top - (n + 1))).map fun d => (d, top - (n + 1))).getD (0, 0)

/-- Without a zero at the end, when there are digits after the decimal point. -/
def dropZero (d : Nat × Int) : Nat × Int :=
  if d.2 < 0 ∧ d.1 % 10 = 0 then (d.1 / 10, d.2 + 1) else d

/-- The shortest decimal text of a floating-point number. -/
def shortest (x : Float) : String :=
  match shape x with
  | .nan => "NaN"
  | .infinite negative => if negative then "-inf" else "inf"
  | .finite negative m e =>
    let digits := if m = 0 then "0" else
      let d := dropZero (shortestDigits m e)
      positional d.1 d.2
    if negative then "-" ++ digits else digits

end PagedReports.Binary64
