import PagedReports.Text.Numeral

/-!
# 64-bit floating-point numbers

A `Float` taken apart into a sign and `mantissa · 2 ^ exponent`, and what follows from that by
exact arithmetic: its order among all numbers and its whole part.
-/

namespace PagedReports.Binary64

/-- What a floating-point number stands for. -/
inductive Shape where
  /-- No number. -/
  | nan
  /-- A number beyond all others. -/
  | infinite (negative : Bool)
  /-- The number `mantissa · 2 ^ exponent`. -/
  | finite (negative : Bool) (mantissa : Nat) (exponent : Int)
  deriving DecidableEq, Repr

/-- What the bits of a floating-point number stand for. -/
def shapeOfBits (bits : Nat) : Shape :=
  let negative := bits / 0x8000000000000000 % 2 == 1
  let exponent : Nat := bits / 0x10000000000000 % 2048
  let fraction : Nat := bits % 0x10000000000000
  if exponent = 2047 then if fraction = 0 then .infinite negative else .nan
  else if exponent = 0 then .finite negative fraction (-1074)
  else .finite negative (0x10000000000000 + fraction) ((exponent : Int) - 1075)

/-- What a floating-point number stands for. -/
def shape (x : Float) : Shape := shapeOfBits x.toBits.toNat

/-- The number with its sign. -/
def signed (negative : Bool) (n : Nat) : Int := if negative then -n else n

/-- A place on the line of all numbers: infinite numbers lie at its ends, and between them a
number lies at its multiple of the smallest positive floating-point number. -/
structure Place where
  /-- Minus one, zero or one for the two ends and what is between. -/
  part : Int
  /-- The multiple. -/
  steps : Int
  deriving DecidableEq, Repr

/-- The place of a whole number. -/
def Place.ofInt (n : Int) : Place := ⟨0, n * Nat.pow 2 1074⟩

/-- The place of a floating-point number; what is no number comes first of all. -/
def place (x : Float) : Place :=
  match shape x with
  | .nan => ⟨-2, 0⟩
  | .infinite negative => ⟨signed negative 1, 0⟩
  | .finite negative m e => ⟨0, signed negative (m * Nat.pow 2 (e + 1074).toNat)⟩

/-- The order of two places. -/
def Place.compare : Place → Place → Ordering := compareLex (compareOn part) (compareOn steps)

/-- The whole part of a floating-point number, moved into the range of signed 64-bit numbers;
zero for what is no number. -/
def truncate (x : Float) : Int64 :=
  match shape x with
  | .nan => 0
  | .infinite negative => if negative then Int64.minValue else Int64.maxValue
  | .finite negative m e =>
    let whole := if 0 ≤ e then m * Nat.pow 2 e.toNat else m / Nat.pow 2 (-e).toNat
    let n := signed negative whole
    if n < -0x8000000000000000 then Int64.minValue
    else if 0x8000000000000000 ≤ n then Int64.maxValue
    else Int64.ofInt n

/-- A positive number as a fraction. -/
structure Ratio where
  /-- The numerator. -/
  num : Nat
  /-- The denominator. -/
  den : Nat
  deriving DecidableEq, Repr

/-- The fraction `m · 2 ^ e`. -/
def Ratio.ofBinary (m : Nat) (e : Int) : Ratio :=
  if 0 ≤ e then ⟨m * Nat.pow 2 e.toNat, 1⟩ else ⟨m, Nat.pow 2 (-e).toNat⟩

/-- The fraction divided by a power of ten. -/
def Ratio.scaleDown (r : Ratio) (e : Int) : Ratio :=
  if 0 ≤ e then ⟨r.num, r.den * Nat.pow 10 e.toNat⟩ else ⟨r.num * Nat.pow 10 (-e).toNat, r.den⟩

/-- How many digits a fraction has before its decimal point; negative for zeros after it. -/
def Ratio.magnitude (r : Ratio) : Int :=
  let e : Int := (Nat.repr r.num).length - (Nat.repr r.den).length
  let unit := r.scaleDown e
  if unit.den ≤ unit.num then e + 1 else e

/-- The digits of a whole number followed by zeros, or with a decimal point before the last
`-exponent` of them. -/
def positional (digits : Nat) (exponent : Int) : String :=
  let ds := (Nat.repr digits).toList
  if 0 ≤ exponent then String.ofList (ds ++ List.replicate exponent.toNat '0')
  else
    let places := (-exponent).toNat
    let padded := List.replicate (places + 1 - ds.length) '0' ++ ds
    let whole := padded.take (padded.length - places)
    String.ofList (whole ++ '.' :: padded.drop (padded.length - places))

end PagedReports.Binary64
