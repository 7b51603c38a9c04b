import PagedReports.Binary64.Extended
import PagedReports.Sql.Value

/-!
# Numerals

The decimal number at the start of a text. Its digits are collected as long as they fit, the
power of ten is moved into them as far as they stay whole and fit, and what is left of it is
multiplied in with extended precision. So the number that a text stands for is near to what is
written, and not always the nearest `Float`.
-/

namespace PagedReports.Sql

/-- A blank of numeric text. -/
def isNumericBlank (c : Char) : Bool := c == ' ' || (9 ≤ c.toNat && c.toNat ≤ 13)

/-- A decimal number at the start of a text. -/
structure Numeral where
  /-- A minus sign stands before it. -/
  negative : Bool
  /-- The digits before its point. -/
  whole : List Char
  /-- The digits after its point. -/
  fraction : List Char
  /-- The power of ten that is written. -/
  exponent : Int
  /-- Neither a point nor an exponent is written. -/
  isWhole : Bool
  /-- The number is finished, and only blanks come after it. -/
  isAll : Bool
  deriving DecidableEq, Repr

/-- Reads an exponent; nothing if no digit follows the letter. -/
def readExponent? : List Char → Option (Int × List Char)
  | '-' :: cs => exponentDigits? cs (-1)
  | '+' :: cs => exponentDigits? cs 1
  | cs => exponentDigits? cs 1
where
  /-- Reads the digits of an exponent. -/
  exponentDigits? (cs : List Char) (sign : Int) : Option (Int × List Char) :=
    match cs.takeWhile Char.isDigit with
    | [] => none
    | ds => some (sign * min (Nat.ofDigitChars 10 ds 0) 10000, cs.dropWhile Char.isDigit)

/-- Reads the number at the start of a text. -/
def readNumeral (cs : List Char) : Numeral :=
  let cs := cs.dropWhile isNumericBlank
  let negative := cs.head? == some '-'
  let cs := match cs with
    | '-' :: rest => rest
    | '+' :: rest => rest
    | cs => cs
  let whole := cs.takeWhile Char.isDigit
  let afterWhole := cs.dropWhile Char.isDigit
  let hasPoint := afterWhole.head? == some '.'
  let fraction := if hasPoint then (afterWhole.drop 1).takeWhile Char.isDigit else []
  let afterFraction := if hasPoint then (afterWhole.drop 1).dropWhile Char.isDigit else afterWhole
  let hasExponent := afterFraction.head? == some 'e' || afterFraction.head? == some 'E'
  let exponent? :=
    if hasExponent then readExponent? (afterFraction.drop 1) else some (0, afterFraction)
  match exponent? with
  | none => ⟨negative, whole, fraction, 0, false, false⟩
  | some (e, rest) =>
    ⟨negative, whole, fraction, e, !hasPoint && !hasExponent,
      (whole ≠ [] || fraction ≠ []) && rest.all isNumericBlank⟩

/-- Digits are collected until they make this number. -/
def collectLimit : Nat := 1844674407370955160

/-- Appends digits to a number until it reaches the limit, and counts the digits left over. -/
def collect : Nat → List Char → Nat × Nat
  | n, [] => (n, 0)
  | n, c :: cs =>
    if n < collectLimit then collect (10 * n + (c.toNat - 48)) cs else (n, cs.length + 1)

/-- Zeros that a power of ten brings to the end of a number, as long as it stays below 64 bits,
and the rest of the power. -/
def appendZeros : Nat → Nat → Nat × Nat
  | n, 0 => (n, 0)
  | n, e + 1 => if n ≤ collectLimit then appendZeros (10 * n) e else (n, e + 1)

/-- Zeros that a negative power of ten takes from the end of a number, and the rest of the
power. -/
def removeZeros : Nat → Nat → Nat × Nat
  | n, 0 => (n, 0)
  | n, e + 1 => if n % 10 = 0 then removeZeros (n / 10) e else (n, e + 1)

namespace Numeral

/-- The collected digits, and the power of ten of the last one. -/
def collected (n : Numeral) : Nat × Int :=
  let whole := collect 0 n.whole
  let both := collect whole.1 n.fraction
  (both.1, n.exponent + whole.2 - (n.fraction.length - both.2))

/-- A whole number times a power of ten, as a floating-point number. -/
def scaled (n : Nat) (e : Int) : Float :=
  if 0 ≤ e then
    let p := appendZeros n e.toNat
    ((Binary64.Extended.round p.1 0).scale p.2).toFloat
  else
    let p := removeZeros n (-e).toNat
    ((Binary64.Extended.round p.1 0).scale (-p.2)).toFloat

/-- The floating-point number that a numeral stands for. -/
def toFloat (n : Numeral) : Float :=
  let c := n.collected
  let x := if c.1 = 0 then 0.0 else scaled c.1 c.2
  if n.negative then -x else x

end Numeral

/-- A value as a floating-point number: a text counts as the number at its start. -/
def Value.toFloat : Value → Float
  | integer n => Float.ofInt n.toInt
  | real x => x
  | text s => (readNumeral s.toList).toFloat
  | blob bytes => (readNumeral (bytes.map fun b => Char.ofNat b.toNat)).toFloat
  | null => 0.0

end PagedReports.Sql
