import PagedReports.Database.Basic
import PagedReports.Paging
import PagedReports.Sql.Clause

/-!
# Queries

The queries that reports are made of, as data, and their SQL text. A query joins tables, keeps
the joined rows that meet a condition, may group them, and is either counted or listed in order.
A piece of a query may also be text that is passed on as it stands; only a store that reads SQL
knows what such text means.
-/

namespace PagedReports.Sql

/-- A column of a joined table. -/
structure ColumnRef where
  /-- The name that the query gives the table. -/
  source : String
  /-- The name of the column. -/
  column : String
  deriving DecidableEq, Repr

/-- The text of a column. -/
def ColumnRef.sql (c : ColumnRef) : String := c.source ++ "." ++ c.column

/-- A value named in a condition. -/
inductive Operand where
  /-- A column of the joined row. -/
  | column (c : ColumnRef)
  /-- A number. -/
  | number (n : Int64)
  /-- A parameter, from one. -/
  | parameter (i : Nat)
  /-- Text that is passed on. -/
  | verbatim (sql : String)
  deriving DecidableEq, Repr

/-- The text of an operand. -/
def Operand.sql : Operand → String
  | column c => c.sql
  | number n => Text.signedText n
  | parameter i => "?" ++ Nat.repr i
  | verbatim sql => sql

/-- How two values are compared. -/
inductive Relation where
  /-- They are equal. -/
  | equal
  /-- The left one comes after the right one, or they are equal. -/
  | atLeast
  deriving DecidableEq, Repr

/-- The text of a relation. -/
def Relation.sql : Relation → String
  | equal => "="
  | atLeast => ">="

/-- A comparison of two terms. -/
structure Comparison (τ : Type) where
  /-- The left term. -/
  left : τ
  /-- The relation. -/
  relation : Relation
  /-- The right term. -/
  right : τ
  deriving DecidableEq, Repr

/-- The text of a comparison, for a text of its terms. -/
def Comparison.sql {τ : Type} (termSql : τ → String) (c : Comparison τ) : String :=
  termSql c.left ++ " " ++ c.relation.sql ++ " " ++ termSql c.right

/-- What happens to a joined row that no row of the next table goes with. -/
inductive JoinKind where
  /-- It is dropped. -/
  | inner
  /-- It is kept, with nothing in place of the next table's row. -/
  | left
  deriving DecidableEq, Repr

/-- A further table of a query. -/
structure Join (τ : Type) where
  /-- What happens to rows without a partner. -/
  kind : JoinKind
  /-- The table. -/
  table : TableName
  /-- The name that the query gives it. -/
  source : String
  /-- Which of its rows go with a joined row. -/
  on : Comparison τ
  deriving DecidableEq, Repr

/-- The tables of a query. -/
structure Tables (τ : Type) where
  /-- The first table. -/
  table : TableName
  /-- The name that the query gives it. -/
  source : String
  /-- The further tables. -/
  joins : List (Join τ)
  deriving DecidableEq, Repr

/-- The text of a further table. -/
def Join.sql {τ : Type} (termSql : τ → String) (j : Join τ) : String :=
  (match j.kind with
    | .inner => " JOIN "
    | .left => " LEFT JOIN ") ++
    j.table.sql ++ " " ++ j.source ++ " ON " ++ j.on.sql termSql

/-- The text of the tables of a query. -/
def Tables.sql {τ : Type} (termSql : τ → String) (t : Tables τ) : String :=
  t.table.sql ++ " " ++ t.source ++ String.join (t.joins.map (Join.sql termSql))

/-- The text of what rows are sorted by, and of the direction. -/
def directed (sql : String) (d : Direction) : String := sql ++ " " ++ d.sql

/-- A query inside a condition, which gives one value for each joined row around it. -/
inductive Subquery where
  /-- The least value of a column. -/
  | least (c : ColumnRef) (tables : Tables Operand) (conditions : List (Comparison Operand))
  /-- The value of a column in the first row of an order. -/
  | first (c : ColumnRef) (tables : Tables Operand) (conditions : List (Comparison Operand))
    (order : List (ColumnRef × Direction))
  deriving DecidableEq, Repr

/-- The text of comparisons that must all hold. -/
def conditionsSql (cs : List (Comparison Operand)) : String :=
  String.intercalate " AND " (cs.map (Comparison.sql Operand.sql))

/-- The text of a query inside a condition. -/
def Subquery.sql : Subquery → String
  | least c tables conditions =>
    "( SELECT MIN(" ++ c.sql ++ ") FROM " ++ tables.sql Operand.sql ++ " WHERE " ++
      conditionsSql conditions ++ ")"
  | first c tables conditions order =>
    "(SELECT " ++ c.sql ++ " FROM " ++ tables.sql Operand.sql ++ " WHERE " ++
      conditionsSql conditions ++ " ORDER BY " ++
      String.intercalate ", " (order.map fun o => directed o.1.sql o.2) ++ " LIMIT 1)"

/-- A value named in a condition of a whole query. -/
inductive Term where
  /-- A value. -/
  | operand (o : Operand)
  /-- A query inside the condition. -/
  | subquery (s : Subquery)
  deriving DecidableEq, Repr

/-- The text of a term. -/
def Term.sql : Term → String
  | operand o => o.sql
  | subquery s => s.sql

/-- A condition without connectives. -/
inductive Atom where
  /-- A comparison. -/
  | comparison (c : Comparison Term)
  /-- Text that is passed on. -/
  | verbatim (sql : String)
  deriving DecidableEq, Repr

/-- The text of an atom. -/
def Atom.sql : Atom → String
  | comparison c => c.sql Term.sql
  | verbatim sql => sql

/-- Where the rows of a query come from. -/
inductive Origin where
  /-- Joined tables. -/
  | tables (t : Tables Term)
  /-- Text that is passed on. -/
  | verbatim (sql : String)
  deriving DecidableEq, Repr

/-- The text of an origin. -/
def Origin.sql : Origin → String
  | tables t => t.sql Term.sql
  | verbatim sql => sql

/-- What a query gives, sorts or groups by. -/
inductive Output where
  /-- The value of a column. -/
  | column (c : ColumnRef)
  /-- The sum of a column over a group. -/
  | sum (c : ColumnRef)
  /-- Text that is passed on. -/
  | verbatim (sql : String)
  deriving DecidableEq, Repr

/-- The text of an output. -/
def Output.sql : Output → String
  | column c => c.sql
  | sum c => "SUM(" ++ c.sql ++ ")"
  | verbatim sql => sql

/-- A term of an order. -/
inductive OrderTerm where
  /-- An output in a direction. -/
  | by (o : Output) (d : Direction)
  /-- Text that is passed on. -/
  | verbatim (sql : String)
  deriving DecidableEq, Repr

/-- The text of a term of an order. -/
def OrderTerm.sql : OrderTerm → String
  | .by o d => directed o.sql d
  | .verbatim sql => sql

/-- The rows of a query, before it is said what to do with them. -/
structure Selection where
  /-- Where the rows come from. -/
  origin : Origin
  /-- Which of them are kept. -/
  condition : Clause Atom
  /-- Which of them make one row together. -/
  groupBy : Option (List Output)
  deriving DecidableEq, Repr

/-- The text of a list of outputs. -/
def outputsSql (os : List Output) : String := String.intercalate ", " (os.map Output.sql)

/-- The text that counts the rows of a selection. -/
def Selection.countSql (s : Selection) : String :=
  match s.groupBy with
  | some group =>
    "SELECT COUNT(*) FROM (SELECT 1 FROM " ++ s.origin.sql ++ " WHERE " ++
      s.condition.sql Atom.sql ++ " GROUP BY " ++ outputsSql group ++ ")"
  | none => "SELECT COUNT(*) FROM " ++ s.origin.sql ++ " WHERE " ++ s.condition.sql Atom.sql

/-- A selection whose rows are listed. -/
structure Listing where
  /-- The rows. -/
  selection : Selection
  /-- What is given of each row. -/
  outputs : List Output
  /-- In which order the rows stand. -/
  order : List OrderTerm
  deriving DecidableEq, Repr

/-- The text that lists the rows of a selection. -/
def Listing.sql (l : Listing) : String :=
  "SELECT " ++ outputsSql l.outputs ++ " FROM " ++ l.selection.origin.sql ++ " WHERE " ++
    l.selection.condition.sql Atom.sql ++
    (match l.selection.groupBy with
      | some group => " GROUP BY " ++ outputsSql group
      | none => "") ++
    " ORDER BY " ++ String.intercalate ", " (l.order.map OrderTerm.sql)

end PagedReports.Sql
