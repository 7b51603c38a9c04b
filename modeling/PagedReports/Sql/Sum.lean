import PagedReports.Error
import PagedReports.Sql.Numeral

/-!
# Sums

The sum of a column. Whole numbers are added exactly, and leaving the 64-bit range is an error.
From the first value on that is no whole number, a floating-point sum is kept together with what
its roundings lost.
-/

namespace PagedReports.Sql

/-- A sum on its way. -/
inductive Sum where
  /-- The sum of whole numbers. -/
  | exact (n : Int64)
  /-- A floating-point sum, what its roundings lost, and whether whole numbers alone left the
  64-bit range. -/
  | rounded (sum lost : Float) (overflowed : Bool)

namespace Sum

/-- Adds a floating-point number and keeps what the rounding loses. -/
def addFloat (sum lost x : Float) : Float × Float :=
  let t := sum + x
  (t, lost + (if x.abs < sum.abs then (sum - t) + x else (x - t) + sum))

/-- From here on a whole number is no longer exact as a floating-point number. -/
def exactLimit : Int := 4503599627370496

/-- Adds a whole number; a large one in two parts. -/
def addWhole (sum lost : Float) (n : Int64) : Float × Float :=
  let i := n.toInt
  if -exactLimit < i ∧ i < exactLimit then addFloat sum lost (Float.ofInt i)
  else
    let small := i.tmod 16384
    let first := addFloat sum lost (Float.ofInt (i - small))
    addFloat first.1 first.2 (Float.ofInt small)

/-- A whole number as a floating-point sum. -/
def start (n : Int64) : Float × Float :=
  let i := n.toInt
  if -exactLimit < i ∧ i < exactLimit then (Float.ofInt i, 0.0)
  else
    let small := i.tmod 16384
    (Float.ofInt (i - small), Float.ofInt small)

/-- Adds a value. Nothing adds nothing. -/
def add : Sum → Value → Sum
  | s, .null => s
  | exact a, .integer n =>
    match Text.signed? (a.toInt + n.toInt) with
    | some sum => exact sum
    | none =>
      let s := addWhole (start a).1 (start a).2 n
      rounded s.1 s.2 true
  | exact a, v =>
    let s := addFloat (start a).1 (start a).2 v.toFloat
    rounded s.1 s.2 false
  | rounded sum lost overflowed, .integer n =>
    let s := addWhole sum lost n
    rounded s.1 s.2 overflowed
  | rounded sum lost _, v =>
    let s := addFloat sum lost v.toFloat
    rounded s.1 s.2 false

/-- A floating-point number as a value; what is no number is nothing. -/
def ofFloat (x : Float) : Value := if x.isNaN then .null else .real x

/-- The value of a finished sum. -/
def finish : Sum → Except DatabaseError Value
  | exact n => .ok (.integer n)
  | rounded sum lost overflowed =>
    if overflowed then .error .sumOverflow
    else .ok (ofFloat (if lost.isNaN then sum else sum + lost))

end Sum

/-- The sum of the values that are not nothing; nothing if there are none. -/
def sumValues (vs : List Value) : Except DatabaseError Value :=
  if vs.all (· == .null) then .ok .null else (vs.foldl Sum.add (.exact 0)).finish

end PagedReports.Sql
