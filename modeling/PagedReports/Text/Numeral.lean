import PagedReports.Text.Blank

/-!
# Decimal numerals of 64-bit numbers

Numbers are written with the fewest decimal digits. A reader takes an optional sign and at least
one digit, and refuses a value outside its range.
-/

namespace PagedReports.Text

/-- The value of a non-empty run of ASCII digits. -/
def digitsValue? (cs : List Char) : Option Nat :=
  if cs ≠ [] ∧ cs.all Char.isDigit then some (Nat.ofDigitChars 10 cs 0) else none

/-- The value, when a 64-bit unsigned number can hold it. -/
def unsigned? (n : Nat) : Option UInt64 :=
  if n < 0x10000000000000000 then some (UInt64.ofNat n) else none

/-- The value, when a 64-bit signed number can hold it. -/
def signed? (n : Int) : Option Int64 :=
  if -0x8000000000000000 ≤ n ∧ n < 0x8000000000000000 then some (Int64.ofInt n) else none

/-- Reads an unsigned number: digits, after an optional plus sign. -/
def readUnsigned? (s : String) : Option UInt64 :=
  let digits := match s.toList with
    | '+' :: rest => rest
    | cs => cs
  (digitsValue? digits).bind unsigned?

/-- Reads a signed number: digits, after an optional sign. -/
def readSigned? (s : String) : Option Int64 :=
  match s.toList with
  | '-' :: rest => (digitsValue? rest).bind fun n => signed? (-n)
  | '+' :: rest => (digitsValue? rest).bind fun n => signed? n
  | cs => (digitsValue? cs).bind fun n => signed? n

/-- The numeral of an unsigned number. -/
def unsignedText (n : UInt64) : String := Nat.repr n.toNat

/-- The numeral of a signed number. -/
def signedText (n : Int64) : String :=
  if n.toInt < 0 then "-" ++ Nat.repr n.toInt.natAbs else Nat.repr n.toInt.natAbs

end PagedReports.Text
