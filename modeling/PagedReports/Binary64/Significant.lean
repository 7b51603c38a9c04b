import PagedReports.Binary64.Extended

/-!
# Fifteen significant digits

How a floating-point number is written when a text column takes it in: rounded to fifteen
digits, with at least one digit after the point, and with an exponent when the number is below
a ten-thousandth or has more than fifteen digits before the point. The digits are found with
extended precision.
-/

namespace PagedReports.Binary64

open Extended

/-- The whole part of a positive number after it has been brought between `10 ^ 17` and
`10 ^ 19`, and the power of ten that was taken out for that. -/
def leadingDigits (x : Extended) : Nat × Int :=
  let atLeast (e : Int) (y : Extended) : Bool := (powerOfTen e).le y
  if atLeast 19 x then
    let a := timesWhile (atLeast 119) (powerOfTen (-100)) 4 x
    let b := timesWhile (atLeast 29) (powerOfTen (-10)) 12 a.1
    let c := timesWhile (atLeast 19) (powerOfTen (-1)) 12 b.1
    (c.1.truncate, 100 * a.2 + 10 * b.2 + c.2)
  else
    let a := timesWhile (fun y => !atLeast (-97) y) (powerOfTen 100) 4 x
    let b := timesWhile (fun y => !atLeast 7 y) (powerOfTen 10) 12 a.1
    let c := timesWhile (fun y => !atLeast 17 y) (powerOfTen 1) 12 b.1
    (c.1.truncate, -(100 * a.2 + 10 * b.2 + c.2 : Int))

/-- A positive number as fifteen digits and the power of ten of the last one. The sixteenth
digit decides: from five on, the fifteenth goes up. -/
def fifteenDigits (x : Extended) : Nat × Int :=
  let d := leadingDigits x
  let count := (Nat.repr d.1).length
  let digits := (d.1 / Nat.pow 10 (count - 16) + 5) / 10
  let exponent := d.2 + count - 15
  if digits = 1000000000000000 then (100000000000000, exponent + 1) else (digits, exponent)

/-- The characters without zeros at their end, but with at least one character. -/
def dropZeros (cs : List Char) : List Char :=
  match (cs.reverse.dropWhile (· == '0')).reverse with
  | [] => ['0']
  | kept => kept

/-- The exponent with its sign and at least two digits. -/
def exponentText (e : Int) : String :=
  let digits := Nat.repr e.natAbs
  (if e < 0 then "e-" else "e+") ++ (if digits.length < 2 then "0" ++ digits else digits)

/-- The text of a positive number. -/
def significantText (x : Extended) : String :=
  let d := fifteenDigits x
  let ds := (Nat.repr d.1).toList
  let leading := d.2 + 14
  if leading < -4 ∨ 14 < leading then
    String.ofList (ds.take 1 ++ '.' :: dropZeros (ds.drop 1)) ++ exponentText leading
  else if leading < 0 then
    String.ofList ('0' :: '.' :: (List.replicate (-leading - 1).toNat '0' ++ dropZeros ds))
  else
    String.ofList (ds.take (leading.toNat + 1) ++ '.' :: dropZeros (ds.drop (leading.toNat + 1)))

/-- The text that a text column keeps for a floating-point number. -/
def significant (x : Float) : String :=
  match shape x with
  | .nan => ""
  | .infinite negative => if negative then "-Inf" else "Inf"
  | .finite negative m e =>
    let digits := if m = 0 then "0.0" else significantText ⟨m, e⟩
    if negative && m != 0 then "-" ++ digits else digits

end PagedReports.Binary64
