import PagedReports.Actor
import PagedReports.Plugin
import PagedReports.Report.Cell
import PagedReports.Sql.Query

/-!
# Report definitions

A report is a value: a query, a filter on top of it, columns that say how they are sorted by, an
order, and what is shown of a row. `Definition.flaw?` says what is wrong with a definition.
-/

namespace PagedReports

open Sql

/-- A column of a report. -/
structure Column where
  /-- The key of its cells. -/
  key : String
  /-- What stands above them. -/
  label : String
  /-- What rows are sorted by when the column is asked for; nothing for a column that cannot be
  asked for. -/
  order : List Output
  deriving DecidableEq, Repr

/-- Whether rows can be sorted by a column. -/
def Column.isSortable (c : Column) : Bool := !c.order.isEmpty

/-- Which rows of its query a report shows. -/
inductive Filter where
  /-- All of them. -/
  | all
  /-- Those of plugins with a decision. -/
  | approval (status : Approval)
  /-- Those with a time that is at most so many seconds ago. -/
  | since (column : Operand) (window : Int64)
  /-- Those of the actor. -/
  | actorIs (column : Operand)
  deriving DecidableEq, Repr

/-- A filter for one request: a condition and its parameters. -/
structure ResolvedFilter where
  /-- The condition, if there is one. -/
  atom : Option Atom
  /-- The parameters of the condition. -/
  params : List Value
  deriving DecidableEq

/-- A column compared with the first parameter. -/
def againstParameter (column : Operand) (relation : Relation) : Atom :=
  .comparison ⟨.operand column, relation, .operand (.parameter 1)⟩

/-- The filter for an actor and a time. -/
def Filter.resolve (f : Filter) (actor : Actor) (now : Int64) : ResolvedFilter :=
  match f with
  | all => ⟨none, []⟩
  | approval status =>
    ⟨some (againstParameter (.column ⟨"p", "approved"⟩) .equal), [.integer status.code]⟩
  | since column window => ⟨some (againstParameter column .atLeast), [.integer (now - window)]⟩
  | actorIs column => ⟨some (againstParameter column .equal), [.integer actor.id]⟩

/-- The query of a report, before filter and order. -/
structure Source where
  /-- What is given of each row, by position. -/
  outputs : List Output
  /-- Where the rows come from. -/
  origin : Origin
  /-- The condition that all rows meet. -/
  base : Option (Clause Atom)
  /-- Which rows make one row together. -/
  groupBy : Option (List Output)
  deriving DecidableEq, Repr

/-- A report. -/
structure Definition where
  /-- The name that requests use. -/
  name : String
  /-- The title above it. -/
  title : String
  /-- A sentence on what it shows. -/
  description : String
  /-- Who may view it. -/
  capability : String
  /-- Whether it belongs to the short list. -/
  quickAccess : Bool
  /-- Its columns. -/
  columns : List Column
  /-- Its query. -/
  source : Source
  /-- Which rows it shows. -/
  filter : Filter
  /-- The order of its rows, also among rows that a requested sort does not tell apart. -/
  defaultOrder : List OrderTerm
  /-- What is shown of a row. -/
  transform : Record → Formatter → Except ReportError Cells

/-- What someone who looks for a report sees of it. -/
structure Descriptor where
  /-- The name that requests use. -/
  name : String
  /-- The title. -/
  title : String
  /-- The sentence on what it shows. -/
  description : String
  /-- Whether the actor may view it. -/
  canView : Bool
  /-- Whether it belongs to the short list. -/
  quickAccess : Bool
  deriving DecidableEq, Repr

/-- The first key that an earlier one repeats, or one of the keys `seen` before. -/
def firstRepeat? (seen : List String) : List String → Option String
  | [] => none
  | key :: rest => if key ∈ seen then some key else firstRepeat? (key :: seen) rest

/-- A name that a report can have. -/
def isReportName (name : String) : Bool :=
  name ≠ "" && name.toList.all fun c => ('a' ≤ c && c ≤ 'z') || ('0' ≤ c && c ≤ '9') || c == '_'

namespace Definition

/-- Whether an actor may view a report. -/
def canView (d : Definition) (actor : Actor) : Bool := actor.holds d.capability

/-- What an actor sees of a report in a list. -/
def descriptor (d : Definition) (actor : Actor) : Descriptor :=
  ⟨d.name, d.title, d.description, d.canView actor, d.quickAccess⟩

/-- The column with a key, if rows can be sorted by it. -/
def sortableColumn? (d : Definition) (key : String) : Option Column :=
  d.columns.find? fun c => c.key = key && c.isSortable

/-- What is wrong with a definition, apart from its name. -/
def flaw? (d : Definition) : Option DefinitionFlaw :=
  if d.defaultOrder.isEmpty then some .noDefaultOrder
  else if d.columns.isEmpty then some .noColumns
  else (firstRepeat? [] (d.columns.map Column.key)).map .duplicateColumn

/-- Refuses a definition with a flaw. -/
def validate (d : Definition) : Except ReportError Unit :=
  match d.flaw? with
  | some flaw => .error (.invalidDefinition d.name flaw)
  | none => .ok ()

end Definition

end PagedReports
