import PagedReports.Report.Session
import PagedReports.Request

/-!
# The registry of reports

Reports are registered once each under a name of their own. `dispatch` answers a request: with
the page of a report, with the list of reports that the actor may view if the request names none
of them, or with a refusal.
-/

namespace PagedReports

/-- The registered reports, in the order of their registration. -/
structure Registry where
  /-- The reports. -/
  entries : List Definition

namespace Registry

/-- A registry without reports. -/
def empty : Registry := ⟨[]⟩

/-- The names of the reports. -/
def names (r : Registry) : List String := r.entries.map Definition.name

/-- What keeps a definition from being registered. -/
def obstacle? (r : Registry) (d : Definition) : Option DefinitionFlaw :=
  match d.flaw? with
  | some flaw => some flaw
  | none =>
    if !isReportName d.name then some .malformedName
    else if d.name ∈ r.names then some .alreadyRegistered
    else none

/-- Registers a report after the others. -/
def register (r : Registry) (d : Definition) : Except ReportError Registry :=
  match r.obstacle? d with
  | some flaw => .error (.invalidDefinition d.name flaw)
  | none => .ok ⟨r.entries ++ [d]⟩

/-- The report with a name. -/
def resolve? (r : Registry) (name : String) : Option Definition :=
  r.entries.find? (·.name = name)

/-- The reports that an actor may view. -/
def viewable (r : Registry) (actor : Actor) : List Descriptor :=
  (r.entries.map (·.descriptor actor)).filter Descriptor.canView

/-- The short list: the reports for quick access that an actor may view. -/
def quickAccess (r : Registry) (actor : Actor) : List Descriptor :=
  (r.viewable actor).filter Descriptor.quickAccess

end Registry

/-- A page of a report, with what stands around it. -/
structure View where
  /-- What is said of the report. -/
  descriptor : Descriptor
  /-- Its columns. -/
  columns : List Column
  /-- The page. -/
  page : Page
  deriving DecidableEq, Repr

/-- The answer to a request. -/
inductive Answer where
  /-- The reports to choose from. -/
  | selector (reports : List Descriptor)
  /-- A page of a report. -/
  | view (v : View)
  deriving DecidableEq, Repr

/-- The report that a request names, if it is registered. -/
def Registry.requested? (r : Registry) (request : Request) : Option Definition :=
  match request.reportName? with
  | none => none
  | some name => if isReportName name then r.resolve? name else none

/-- Answers a request. -/
def dispatch {σ : Type} (registry : Registry) (actor : Actor) (settings : Settings) (now : Int64)
    (store : Store σ) (request : Request) : Step σ Answer :=
  match registry.requested? request with
  | none => return .selector (registry.viewable actor)
  | some d =>
    match Report.openFor d actor settings now store with
    | .error e => throw e
    | .ok report => do
      let page ← report.page (request.paging settings.perPage)
      return .view ⟨d.descriptor actor, d.columns, page⟩

end PagedReports
