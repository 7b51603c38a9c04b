import PagedReports.Binary64.Significant
import PagedReports.Database.Schema
import PagedReports.Sql.Sum

/-!
# Affinity

A column takes a value in as the kind it prefers, if nothing is lost by that: a text column turns
numbers into texts, and a number column turns texts that are numbers, and floating-point numbers
that are whole, into whole numbers. Any other value is kept as it is.
-/

namespace PagedReports

open Sql

/-- A value as it is handed over: what is no number is nothing. -/
def Sql.Value.handedOver : Value → Value
  | .real x => Sum.ofFloat x
  | v => v

/-- A floating-point number as a whole number, if it is one and not at the end of the range. -/
def wholeOf? (x : Float) : Option Int64 :=
  let n := Binary64.truncate x
  if Binary64.place x = Binary64.Place.ofInt n.toInt ∧ n ≠ Int64.minValue ∧ n ≠ Int64.maxValue then
    some n
  else none

/-- A floating-point number as a whole number, if it is one. -/
def preferWhole (x : Float) : Value :=
  match wholeOf? x with
  | some n => .integer n
  | none => .real x

/-- The value of a numeral: a whole number where it can be one. -/
def numeralValue (n : Numeral) : Value :=
  let exact : Option Int64 :=
    if n.isWhole then
      Text.signed? (if n.negative then -(Nat.ofDigitChars 10 n.whole 0 : Int)
        else Nat.ofDigitChars 10 n.whole 0)
    else none
  match exact with
  | some i => .integer i
  | none => preferWhole n.toFloat

namespace Affinity

/-- A value as a column with an affinity takes it in. -/
def apply : Affinity → Value → Value
  | .text, .integer n => .text (Text.signedText n)
  | .text, .real x => .text (Binary64.significant x)
  | .integer, .real x => preferWhole x
  | .integer, .text s =>
    let n := readNumeral s.toList
    if n.isAll then numeralValue n else .text s
  | _, v => v

end Affinity

end PagedReports
