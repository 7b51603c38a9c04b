import PagedReports.Report.Definition

/-!
# Running a report

A report that has been opened for an actor is counted and fetched page by page through a store,
which is anything that answers counts and listings; its answers may fail and may depend on what
was asked before. A `Session` remembers the number of rows once it is known, from a count or
from a page that is not full, and keeps a log of what the store was asked.
-/

namespace PagedReports

open Sql

/-- Answers the queries of reports. Its state `σ` may change with every question. -/
structure Store (σ : Type) where
  /-- How many rows a selection has. -/
  count : Selection → List Value → σ → Except ReportError UInt64 × σ
  /-- The rows of a listing from an offset on, at most so many. -/
  select : Listing → List Value → UInt64 → UInt64 → σ → Except ReportError (List Record) × σ

/-- A question to a store. -/
inductive Call where
  /-- How many rows a selection has. -/
  | count (selection : Selection) (params : List Value)
  /-- The rows of a listing from an offset on, at most so many. -/
  | select (listing : Listing) (params : List Value) (offset limit : UInt64)
  deriving DecidableEq

/-- What is remembered while a report is run. -/
structure Session (σ : Type) where
  /-- The number of rows, once it is known. -/
  total : Option UInt64
  /-- What the store was asked so far. -/
  calls : List Call
  /-- The state of the store. -/
  store : σ

/-- A session in which nothing was asked yet. -/
def Session.start {σ : Type} (store : σ) : Session σ := ⟨none, [], store⟩

/-- A step of a session: it may fail, and what it learned stays either way. -/
abbrev Step (σ α : Type) := EStateM ReportError (Session σ) α

/-- A definition opened for an actor at a time, over a store. -/
structure Report (σ : Type) where
  /-- The definition. -/
  definition : Definition
  /-- Its filter for the actor and the time. -/
  filter : ResolvedFilter
  /-- How dates and links are shown. -/
  formatter : Formatter
  /-- Where the rows come from. -/
  store : Store σ

/-- A page of a report. -/
structure Page where
  /-- The paging that it was made for. -/
  paging : Paging
  /-- Its rows. -/
  rows : List Cells
  /-- How many rows the report has. -/
  total : UInt64
  deriving DecidableEq, Repr

/-- How many pages a report has; one when it has no rows. -/
def Page.count (p : Page) : UInt64 := lastPage p.total p.paging.perPage + 1

/-- Asks a store for a count. -/
def Store.askCount {σ : Type} (store : Store σ) (selection : Selection) (params : List Value) :
    Step σ UInt64 := fun s =>
  let answer := store.count selection params s.store
  let s' := { s with calls := s.calls ++ [.count selection params], store := answer.2 }
  match answer.1 with
  | .ok n => .ok n s'
  | .error e => .error e s'

/-- Asks a store for the rows of a page. -/
def Store.askSelect {σ : Type} (store : Store σ) (listing : Listing) (params : List Value)
    (offset limit : UInt64) : Step σ (List Record) := fun s =>
  let answer := store.select listing params offset limit s.store
  let s' := { s with calls := s.calls ++ [.select listing params offset limit], store := answer.2 }
  match answer.1 with
  | .ok records => .ok records s'
  | .error e => .error e s'

namespace Report

variable {σ : Type}

/-- Opens a report for an actor who may view it. -/
def openFor (d : Definition) (actor : Actor) (settings : Settings) (now : Int64)
    (store : Store σ) : Except ReportError (Report σ) :=
  if d.canView actor then
    .ok ⟨d, d.filter.resolve actor now, Formatter.ofSettings settings, store⟩
  else .error (.permissionDenied d.name)

/-- The condition of the report's query: that of its source, and that of its filter. -/
def condition (r : Report σ) : Clause Atom :=
  Clause.conjoin (r.definition.source.base.toList ++
    (r.filter.atom.map fun a => [Token.atom a]).toList)

/-- The rows that the report shows. -/
def selection (r : Report σ) : Selection where
  origin := r.definition.source.origin
  condition := r.condition
  groupBy := r.definition.source.groupBy

/-- The paging with a page size of at least one, and without a sort key that names no sortable
column. -/
def sanitize (r : Report σ) (p : Paging) : Paging where
  page := p.page
  perPage := atLeastOne p.perPage
  sortKey := p.sortKey.filter fun key => (r.definition.sortableColumn? key).isSome
  direction := p.direction

/-- The order of the rows: by the requested column, then by the default order. -/
def order (r : Report σ) (p : Paging) : List OrderTerm :=
  (match p.sortKey.bind r.definition.sortableColumn? with
    | some c => c.order.map (.by · p.direction)
    | none => []) ++ r.definition.defaultOrder

/-- The rows that the report shows, in the requested order. -/
def listing (r : Report σ) (p : Paging) : Listing :=
  ⟨r.selection, r.definition.source.outputs, r.order p⟩

/-- How many rows the report has. The store is asked only if that is not known. -/
def rowCount (r : Report σ) : Step σ UInt64 := do
  match (← get).total with
  | some n => return n
  | none =>
    let n ← r.store.askCount r.selection r.filter.params
    modify fun s => { s with total := some n }
    return n

/-- Takes note of the number of rows, unless it is known already. -/
def note (n : UInt64) (s : Session σ) : Session σ :=
  match s.total with
  | some _ => s
  | none => { s with total := some n }

/-- The number of rows that a page which is not full gives away: it is the last one, provided
that it has rows or is the first. -/
def impliedTotal? (p : Paging) (offset : UInt64) (fetched : Nat) : Option UInt64 :=
  if fetched < p.perPage.toNat ∧ (0 < fetched ∨ p.page = 0) ∧
      offset.toNat + fetched < 0x10000000000000000 then
    some (offset + UInt64.ofNat fetched)
  else none

/-- The cells of the rows, as far as dates can be shown. -/
def present (r : Report σ) (records : List Record) : Except ReportError (List Cells) :=
  records.mapM fun record => r.definition.transform record r.formatter

/-- The rows of a page. A page whose offset a store cannot address has none. -/
def fetchPage (r : Report σ) (asked : Paging) : Step σ (List Cells) := do
  let p := r.sanitize asked
  match p.offset? with
  | none => return []
  | some offset =>
    let records ← r.store.askSelect (r.listing p) r.filter.params offset p.perPage
    let fetched := records.take p.perPage.toNat
    match impliedTotal? p offset fetched.length with
    | some n => modify (note n)
    | none => pure ()
    match r.present fetched with
    | .ok rows => return rows
    | .error e => throw e

/-- A page of the report. A page after the last one is replaced by the last one. -/
def page (r : Report σ) (asked : Paging) : Step σ Page := do
  let p := r.sanitize asked
  let rows ← r.fetchPage p
  if rows.isEmpty && 0 < p.page then
    let last := lastPage (← r.rowCount) p.perPage
    if last < p.page then
      let rows ← r.fetchPage (p.atPage last)
      return ⟨p.atPage last, rows, ← r.rowCount⟩
    else return ⟨p, rows, ← r.rowCount⟩
  else return ⟨p, rows, ← r.rowCount⟩

end Report

end PagedReports
