import PagedReports.Report.Registry
import PagedReports.Text.Grid

/-!
# Reports on a terminal

A page of a report and the list of reports as text for a terminal.
-/

namespace PagedReports.Terminal

/-- What stands above a column, with a mark if rows are sorted by it. -/
def columnHead (p : Paging) (c : Column) : String :=
  if p.sortKey = some c.key then
    match p.direction with
    | .ascending => c.label ++ " ▲"
    | .descending => c.label ++ " ▼"
  else c.label

/-- The texts of a page. -/
def viewGrid (v : View) : Text.Grid where
  head := v.columns.map (columnHead v.page.paging)
  rows := v.page.rows.map fun cells => v.columns.map fun c => cells.text c.key

/-- The number of a page as it is shown, which starts at one. -/
def shownPage (page : UInt64) : Nat := min (page.toNat + 1) 0xFFFFFFFFFFFFFFFF

/-- Where a page stands in its report. -/
def position (p : Page) : String :=
  "Page " ++ Nat.repr (shownPage p.paging.page) ++ " of " ++ Text.unsignedText p.count ++ " (" ++
    Text.unsignedText p.total ++ " rows)"

/-- A page of a report. -/
def view (v : View) : String :=
  v.descriptor.title ++ "\n" ++ (viewGrid v).draw ++ "\n" ++ position v.page

/-- The texts of the list of reports. -/
def selectorGrid (reports : List Descriptor) : Text.Grid where
  head := ["Report", "Title", "Description", "Quick access"]
  rows := reports.map fun d =>
    [d.name, d.title, d.description, if d.quickAccess then "yes" else ""]

/-- The list of reports to choose from. -/
def selector (reports : List Descriptor) : String :=
  if reports.isEmpty then "There are no reports available to you."
  else "Reports\n" ++ (selectorGrid reports).draw

end PagedReports.Terminal
