import PagedReports.Binary64.Basic

/-!
# Extended precision

Positive numbers `mantissa · 2 ^ exponent` with 64 significant bits. A power of ten is brought
into such a number or taken out of it by products, and each product is rounded: to the nearest
number, and halfway between two of them to the one with the even mantissa. At the end a number
is rounded once more, to a `Float`.
-/

namespace PagedReports.Binary64

/-- How many binary digits a number has. -/
def bitLength (n : Nat) : Nat := if n = 0 then 0 else n.log2 + 1

/-- How often `2 ^ shift` goes into a number, rounded to the nearest; a half goes to the even
neighbour. -/
def roundShift (n shift : Nat) : Nat :=
  let unit := Nat.pow 2 shift
  let below := n / unit
  let rest := n % unit
  if 2 * rest < unit then below
  else if unit < 2 * rest then below + 1
  else below + below % 2

/-- A number of extended precision. -/
structure Extended where
  /-- The significant bits. -/
  mantissa : Nat
  /-- The power of two that they count. -/
  exponent : Int
  deriving DecidableEq, Repr

namespace Extended

/-- The number nearest to `n · 2 ^ e`. -/
def round (n : Nat) (e : Int) : Extended :=
  let shift := bitLength n - 64
  ⟨roundShift n shift, e + shift⟩

/-- The rounded product. -/
def mul (x y : Extended) : Extended :=
  round (x.mantissa * y.mantissa) (x.exponent + y.exponent)

/-- The number nearest to a fraction. Below the bits that count, one more bit says whether
anything is left. -/
def ofRatio (r : Ratio) : Extended :=
  let shift := bitLength r.den + 66
  let scaled := r.num * Nat.pow 2 shift
  round (2 * (scaled / r.den) + if scaled % r.den = 0 then 0 else 1) (-(shift + 1))

/-- The number nearest to a power of ten. -/
def powerOfTen (e : Int) : Extended := ofRatio ((Ratio.mk 1 1).scaleDown (-e))

/-- Whether the second number is at least as large as the first. -/
def le (x y : Extended) : Bool :=
  let e := min x.exponent y.exponent
  x.mantissa * Nat.pow 2 (x.exponent - e).toNat ≤ y.mantissa * Nat.pow 2 (y.exponent - e).toNat

/-- The whole part. -/
def truncate (x : Extended) : Nat :=
  if 0 ≤ x.exponent then x.mantissa * Nat.pow 2 x.exponent.toNat
  else x.mantissa / Nat.pow 2 (-x.exponent).toNat

/-- So many products with a factor. -/
def times (factor : Extended) : Nat → Extended → Extended
  | 0, x => x
  | n + 1, x => times factor n (x.mul factor)

/-- The products that make `x · 10 ^ e`: first those with the hundredth power of ten, then those
with the tenth, then those with ten itself. -/
def scale (x : Extended) (e : Int) : Extended :=
  let n := e.natAbs
  let unit : Int := if e < 0 then -1 else 1
  times (powerOfTen unit) (n % 10)
    (times (powerOfTen (10 * unit)) (n / 10 % 10) (times (powerOfTen (100 * unit)) (n / 100) x))

/-- Products with a factor as long as a test holds, but at most so many, and how many. -/
def timesWhile (test : Extended → Bool) (factor : Extended) : Nat → Extended → Extended × Nat
  | 0, x => (x, 0)
  | n + 1, x =>
    if test x then
      let y := timesWhile test factor n (x.mul factor)
      (y.1, y.2 + 1)
    else (x, 0)

/-- The largest finite `Float`. -/
def largest : Extended := ⟨0x1FFFFFFFFFFFFF, 971⟩

/-- The `Float` nearest to a number; infinity beyond the largest one. -/
def toFloat (x : Extended) : Float :=
  if x.mantissa = 0 then 0.0
  else if !x.le largest then 1.0 / 0.0
  else
    let unit := max (x.exponent + bitLength x.mantissa - 53) (-1074)
    let steps :=
      if unit ≤ x.exponent then x.mantissa * Nat.pow 2 (x.exponent - unit).toNat
      else roundShift x.mantissa (unit - x.exponent).toNat
    Float.ofBits (UInt64.ofNat ((unit + 1074).toNat * 0x10000000000000 + steps))

end Extended

end PagedReports.Binary64
