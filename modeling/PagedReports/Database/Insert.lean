import PagedReports.Database.Affinity
import PagedReports.Error

/-!
# Inserting rows

The only way in which tables grow. A row is refused, and nothing changes, if a required column
would hold nothing, if its number or other columns would not tell it apart from another row, or
if it would refer to a row that is not there; the first of these that applies is reported.
-/

namespace PagedReports

open Sql

/-- The values that an insert names. -/
abbrev Fields := List (String × Value)

/-- The value that an insert gives a column. -/
def ColumnSpec.take (c : ColumnSpec) (fields : Fields) : Value :=
  c.affinity.apply (match fields.lookup c.name with
    | some v => v.handedOver
    | none => c.default)

/-- The largest number from `n` down that none of some rows has, of which the first has the largest
number. -/
def freeFrom (n : Int64) : List Row → Int64
  | [] => n
  | r :: rest => if r.id = n then freeFrom (n - 1) rest else n

/-- The number of a row that is given none: one for the first row of a table, and the number after
that of the last row for a further one. Where no number comes after that, the largest one that
is left. -/
def nextId (rows : List Row) : Int64 :=
  match rows.getLast? with
  | none => 1
  | some r => if r.id = Int64.maxValue then freeFrom Int64.maxValue rows.reverse else r.id + 1

/-- The number that an insert gives its row. -/
def takeId (rows : List Row) (fields : Fields) : Except DatabaseError Int64 :=
  match Affinity.integer.apply ((fields.lookup "id").getD .null).handedOver with
  | .integer n => .ok n
  | .null => .ok (nextId rows)
  | _ => .error .notAnIdentifier

/-- Whether two rows agree on some columns. -/
def agree (columns : List String) (a b : Row) : Bool :=
  columns.all fun c => (a.value c).compare (b.value c) == .eq

/-- Whether a reference leads to a row, if it is there at all. -/
def isGrounded (db : Database) (r : Row) (ref : String × TableName) : Bool :=
  match r.value ref.1 with
  | .null => true
  | .integer n => (db.rows ref.2).any fun target => target.id = n
  | _ => false

/-- The first rule that a row would break. -/
def Database.objection? (db : Database) (t : TableName) (r : Row) : Option DatabaseError :=
  match t.schema.columns.find? fun c => c.required && r.value c.name == .null with
  | some c => some (.missingValue t.sql c.name)
  | none =>
    if (db.rows t).any fun other => other.id = r.id then some (.notUnique t.sql ["id"])
    else
      match t.schema.uniques.find? fun columns => (db.rows t).any (agree columns · r) with
      | some columns => some (.notUnique t.sql columns)
      | none => if t.schema.references.all (isGrounded db r) then none else some .missingReference

/-- The rows with one more, before the first row with a larger number. -/
def insertRow (r : Row) (rows : List Row) : List Row :=
  rows.takeWhile (fun other => other.id < r.id) ++ r :: rows.dropWhile fun other => other.id < r.id

/-- A column that an insert names and the table does not have. -/
def unknownColumn? (t : TableName) (fields : Fields) : Option String :=
  (fields.find? fun f => f.1 ≠ "id" && t.schema.columns.all (·.name ≠ f.1)).map Prod.fst

/-- Inserts a row and gives its number. -/
def Database.insert (db : Database) (t : TableName) (fields : Fields) :
    Except DatabaseError (Database × Int64) :=
  match unknownColumn? t fields with
  | some column => .error (.noColumn t.sql column)
  | none =>
    match takeId (db.rows t) fields with
    | .error e => .error e
    | .ok id =>
      let r : Row := ⟨id, t.schema.columns.map fun c => (c.name, c.take fields)⟩
      match db.objection? t r with
      | some e => .error e
      | none => .ok (db.withRows t (insertRow r (db.rows t)), id)

/-- Inserts rows one after another; if one is refused, none is inserted. -/
def Database.insertAll (db : Database) (rows : List (TableName × Fields)) :
    Except DatabaseError Database :=
  rows.foldlM (fun db row => (db.insert row.1 row.2).map Prod.fst) db

/-- Inserts rows into one table one after another and gives their numbers; if one is refused, none
is inserted. -/
def Database.insertMany (db : Database) (t : TableName) :
    List Fields → Except DatabaseError (Database × List Int64)
  | [] => .ok (db, [])
  | fields :: rest =>
    match db.insert t fields with
    | .error e => .error e
    | .ok (db, id) => (db.insertMany t rest).map fun r => (r.1, id :: r.2)

/-! ### The first rows -/

/-- The categories of a new directory. -/
def firstCategories : List String :=
  ["Activities", "Blocks", "Filters", "Themes", "Authentication", "Reports", "Local plugins",
    "Other"]

/-- Gives a directory without categories the first ones. -/
def Database.initialise (db : Database) : Except DatabaseError Database :=
  if db.categories.isEmpty then
    db.insertAll (firstCategories.map fun name => (.categories, [("name", .text name)]))
  else .ok db

end PagedReports
