import PagedReports.Binary64.Shortest

/-!
# Values

What a column holds: nothing, a signed 64-bit number, a floating-point number, a text or bytes.
All values stand in one order: nothing first, then numbers by size, then texts, then bytes.
-/

namespace PagedReports.Sql

/-- What a column holds. -/
inductive Value where
  /-- Nothing. -/
  | null
  /-- A signed 64-bit number. -/
  | integer (n : Int64)
  /-- A floating-point number. -/
  | real (x : Float)
  /-- A text. -/
  | text (s : String)
  /-- Bytes. -/
  | blob (bytes : List UInt8)
  deriving DecidableEq

namespace Value

/-- The class of a value in the order of all values. -/
def rank : Value → Nat
  | null => 0
  | integer _ | real _ => 1
  | text _ => 2
  | blob _ => 3

/-- Where a number lies among the numbers. -/
def place : Value → Binary64.Place
  | integer n => Binary64.Place.ofInt n.toInt
  | real x => Binary64.place x
  | _ => ⟨0, 0⟩

/-- The characters of a text. -/
def textKey : Value → String
  | text s => s
  | _ => ""

/-- The bytes of a blob. -/
def blobKey : Value → List UInt8
  | blob bytes => bytes
  | _ => []

/-- The order of values by class, and within a class by what it holds. -/
def compareByClass : Value → Value → Ordering :=
  compareLex (compareOn rank)
    (compareLex (fun a b => a.place.compare b.place)
      (compareLex (compareOn textKey) (compareOn blobKey)))

/-- The order of all values. Texts compare by their characters, which is also the order of
their bytes. A whole number and an equal floating-point number compare as equal. -/
def compare : Value → Value → Ordering
  | integer m, integer n => Ord.compare m.toInt n.toInt
  | a, b => compareByClass a b

/-- The name of a value's kind. -/
def kindName : Value → String
  | null => "Null"
  | integer _ => "Integer"
  | real _ => "Real"
  | text _ => "Text"
  | blob _ => "Blob"

/-- A value as a whole number: a floating-point number loses its fraction, a text is read, and
anything else is zero. -/
def toInteger : Value → Int64
  | integer n => n
  | real x => Binary64.truncate x
  | text s => (Text.readSigned? (Text.trim s)).getD 0
  | _ => 0

/-- A value as a text; empty when it holds neither a text nor a number. -/
def toText : Value → String
  | text s => s
  | integer n => Text.signedText n
  | real x => Binary64.shortest x
  | _ => ""

end Value

/-- A row of a query's result, addressed by position. -/
abbrev Record := List Value

namespace Record

/-- The whole number at a position. -/
def int (r : Record) (i : Nat) : Int64 := (r.getD i .null).toInteger

/-- The text at a position. -/
def text (r : Record) (i : Nat) : String := (r.getD i .null).toText

end Record

end PagedReports.Sql
