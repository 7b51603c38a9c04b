import PagedReports.Text.Utf8

/-!
# Form encoding

A query string is a list of name and value pairs: pairs stand between `&`, a name ends at the
first `=`, a space is written `+`, and a byte that is neither a letter, a digit nor one of
`*-._` is written as a percent sign and two hexadecimal digits. `render` writes pairs and
`parse` reads them; reading never fails.
-/

namespace PagedReports.Text.Form

/-- A byte that is written as itself. -/
def isPlain (b : UInt8) : Bool :=
  let n := b.toNat
  (48 ≤ n && n ≤ 57) || (65 ≤ n && n ≤ 90) || (97 ≤ n && n ≤ 122) ||
    n == 42 || n == 45 || n == 46 || n == 95

/-- The upper-case hexadecimal digit of a number below sixteen. -/
def hexDigit (n : Nat) : Char := if n < 10 then Char.ofNat (48 + n) else Char.ofNat (55 + n)

/-- The written form of one byte. -/
def encodeByte (b : UInt8) : List Char :=
  if isPlain b then [Char.ofNat b.toNat]
  else if b.toNat = 32 then ['+']
  else ['%', hexDigit (b.toNat / 16), hexDigit (b.toNat % 16)]

/-- The written form of a name or a value. -/
def encodeChars (s : String) : List Char := (Utf8.encode s).flatMap encodeByte

/-- The written form of a pair. -/
def pairChars (p : String × String) : List Char := encodeChars p.1 ++ '=' :: encodeChars p.2

/-- The query string of a list of pairs. -/
def render (pairs : List (String × String)) : String :=
  String.ofList (List.intercalate ['&'] (pairs.map pairChars))

/-- The value of a hexadecimal digit. -/
def hexValue? (b : UInt8) : Option Nat :=
  let n := b.toNat
  if 48 ≤ n ∧ n ≤ 57 then some (n - 48)
  else if 65 ≤ n ∧ n ≤ 70 then some (n - 55)
  else if 97 ≤ n ∧ n ≤ 102 then some (n - 87)
  else none

/-- A plus sign stands for a space. -/
def unplus (b : UInt8) : UInt8 := if b.toNat = 43 then 32 else b

/-- The bytes that percent signs and hexadecimal digits stand for. A percent sign that two
hexadecimal digits do not follow stands for itself. -/
def percentDecode : List UInt8 → List UInt8
  | b :: h :: l :: tail =>
    if b.toNat = 37 then
      match hexValue? h, hexValue? l with
      | some h', some l' => UInt8.ofNat (h' * 16 + l') :: percentDecode tail
      | _, _ => b :: percentDecode (h :: l :: tail)
    else b :: percentDecode (h :: l :: tail)
  | rest => rest

/-- The text of a written name or value. -/
def decode (bytes : List UInt8) : String := Utf8.decode (percentDecode (bytes.map unplus))

/-- The pair of one piece between `&`. -/
def pair (piece : List UInt8) : String × String :=
  (decode (piece.takeWhile (· != 61)), decode ((piece.dropWhile (· != 61)).drop 1))

/-- The pairs of a query string, in order. Empty pieces are passed over. -/
def parse (query : String) : List (String × String) :=
  (((Utf8.encode query).splitOn 38).filter (· ≠ [])).map pair

end PagedReports.Text.Form
