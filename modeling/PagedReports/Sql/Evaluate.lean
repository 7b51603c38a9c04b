import PagedReports.Error
import PagedReports.Sql.Query
import PagedReports.Sql.Sum

/-!
# What queries mean

The rows of a query over a database. Joined rows come in the order of the first table, for each
of its rows in that of the second, and so on; sorting keeps that order among rows that it does
not tell apart. A count and a listing are read off the same groups of joined rows. Text that is
passed on means nothing here.
-/

namespace PagedReports.Sql

/-- A joined row: a row, or nothing, under the name of each table. -/
abbrev Env := List (String × Option Row)

/-- The value of a column of a joined row. -/
def Env.value (env : Env) (c : ColumnRef) : Value :=
  match env.lookup c.source with
  | some (some row) => row.value c.column
  | _ => .null

/-- Whether two values stand in a relation; unknown if one of them is nothing. -/
def Relation.truth (r : Relation) (a b : Value) : Option Bool :=
  if a = .null ∨ b = .null then none
  else
    match r with
    | equal => some (a.compare b == .eq)
    | atLeast => some (a.compare b != .lt)

/-- Whether a comparison is true for the values of its terms. -/
def Comparison.truth {τ : Type} (value : τ → Value) (c : Comparison τ) : Option Bool :=
  c.relation.truth (value c.left) (value c.right)

/-- The value of an operand for a joined row. -/
def Operand.value (params : List Value) (env : Env) : Operand → Value
  | column c => env.value c
  | number n => .integer n
  | parameter i => params.getD (i - 1) .null
  | verbatim _ => .null

/-- The joined rows that a further table makes of one. -/
def Join.extend {τ : Type} (db : Database) (value : Env → τ → Value) (j : Join τ) (env : Env) :
    List Env :=
  let partners := (db.rows j.table).filter fun row =>
    j.on.truth (value ((j.source, some row) :: env)) = some true
  match j.kind, partners with
  | .left, [] => [(j.source, none) :: env]
  | _, _ => partners.map fun row => (j.source, some row) :: env

/-- The joined rows of the tables of a query, inside a joined row of the query around it. -/
def Tables.envs {τ : Type} (db : Database) (value : Env → τ → Value) (outer : Env)
    (t : Tables τ) : List Env :=
  t.joins.foldl (fun envs j => envs.flatMap (j.extend db value))
    ((db.rows t.table).map fun row => (t.source, some row) :: outer)

/-- An order in a direction. -/
def directedOrder : Direction → Ordering → Ordering
  | .ascending, o => o
  | .descending, o => o.swap

/-- The order of two lists of values, by the first pair that is told apart. -/
def compareKeys : List Direction → List Value → List Value → Ordering
  | d :: ds, a :: as, b :: bs => (directedOrder d (a.compare b)).then (compareKeys ds as bs)
  | _, _, _ => .eq

/-- Things with keys, sorted by their keys; things with equal keys keep their order. -/
def sortByKeys {α : Type} (ds : List Direction) (xs : List (List Value × α)) : List α :=
  (xs.mergeSort fun a b => compareKeys ds a.1 b.1 != .gt).map Prod.snd

/-- The least of the values that are not nothing. -/
def leastValue (vs : List Value) : Value :=
  vs.foldl (fun least v =>
    if v = .null then least
    else if least = .null ∨ v.compare least = .lt then v else least) .null

/-- The joined rows that a query inside a condition keeps. -/
def innerEnvs (db : Database) (params : List Value) (outer : Env) (tables : Tables Operand)
    (conditions : List (Comparison Operand)) : List Env :=
  (tables.envs db (Operand.value params) outer).filter fun env =>
    conditions.all fun c => c.truth (Operand.value params env) = some true

/-- The value of a query inside a condition for a joined row around it. -/
def Subquery.value (db : Database) (params : List Value) (env : Env) : Subquery → Value
  | least c tables conditions =>
    leastValue ((innerEnvs db params env tables conditions).map (·.value c))
  | first c tables conditions order =>
    let keyed := (innerEnvs db params env tables conditions).map fun inner =>
      (order.map fun o => inner.value o.1, inner)
    match sortByKeys (order.map Prod.snd) keyed with
    | inner :: _ => inner.value c
    | [] => .null

/-- The value of a term for a joined row. -/
def Term.value (db : Database) (params : List Value) (env : Env) : Term → Value
  | operand o => o.value params env
  | subquery s => s.value db params env

/-- Whether an atom is true for a joined row. -/
def Atom.truth (db : Database) (params : List Value) (env : Env) : Atom → Option Bool
  | comparison c => c.truth (Term.value db params env)
  | verbatim _ => none

/-- The joined rows of a selection that meet its condition. -/
def Selection.envs (s : Selection) (db : Database) (params : List Value) : List Env :=
  match s.origin with
  | .verbatim _ => []
  | .tables t =>
    (t.envs db (Term.value db params) []).filter fun env =>
      s.condition.holds (Atom.truth db params env)

/-- The value that an output has in one joined row. -/
def Output.valueIn (env : Env) : Output → Value
  | column c => env.value c
  | sum c => env.value c
  | verbatim _ => .null

/-- Two lists of values that a grouping does not tell apart. -/
def sameKeys (as bs : List Value) : Bool :=
  as.length == bs.length && (as.zip bs).all fun p => p.1.compare p.2 == .eq

/-- Puts a joined row into the group with its keys, or into a new one at the end. -/
def insertGroup (keys : List Value) (env : Env) :
    List (List Value × List Env) → List (List Value × List Env)
  | [] => [(keys, [env])]
  | (k, envs) :: rest =>
    if sameKeys k keys then (k, envs ++ [env]) :: rest else (k, envs) :: insertGroup keys env rest

/-- The joined rows with equal keys together, in the order in which the keys first appear. -/
def groupEnvs (outputs : List Output) (envs : List Env) : List (List Env) :=
  let groups := envs.foldl (fun groups env =>
    insertGroup (outputs.map (·.valueIn env)) env groups) []
  groups.map Prod.snd

/-- The groups of joined rows that each make one row of a selection. -/
def Selection.groups (s : Selection) (db : Database) (params : List Value) : List (List Env) :=
  match s.groupBy with
  | none => (s.envs db params).map ([·])
  | some outputs => groupEnvs outputs (s.envs db params)

/-- How many rows a selection has. -/
def Selection.count (s : Selection) (db : Database) (params : List Value) : Nat :=
  (s.groups db params).length

/-- The value of an output for a group of joined rows. -/
def Output.value (group : List Env) : Output → Except DatabaseError Value
  | column c => .ok ((group.head?.map (·.value c)).getD .null)
  | sum c => sumValues (group.map (·.value c))
  | verbatim _ => .ok .null

/-- What rows are sorted by for a term of an order. -/
def OrderTerm.value (group : List Env) : OrderTerm → Except DatabaseError Value
  | .by o _ => o.value group
  | .verbatim _ => .ok .null

/-- The direction of a term of an order. -/
def OrderTerm.direction : OrderTerm → Direction
  | .by _ d => d
  | .verbatim _ => .ascending

/-- The record of a group, after the values that it is sorted by. -/
def Listing.keyedRecord (l : Listing) (group : List Env) :
    Except DatabaseError (List Value × Record) := do
  let keys ← l.order.mapM (·.value group)
  let record ← l.outputs.mapM (·.value group)
  return (keys, record)

/-- All records of a listing, in order. -/
def Listing.records (l : Listing) (db : Database) (params : List Value) :
    Except DatabaseError (List Record) := do
  let keyed ← (l.selection.groups db params).mapM l.keyedRecord
  return sortByKeys (l.order.map OrderTerm.direction) keyed

end PagedReports.Sql
