import PagedReports.Json.Basic
import PagedReports.Report.Registry

/-!
# Reports as documents

A page of a report and the list of reports as JSON documents.
-/

namespace PagedReports.Json

/-- A report in the list of reports. -/
def descriptorEntries (d : Descriptor) : List (String × Value) :=
  [("name", .string d.name), ("title", .string d.title), ("description", .string d.description),
    ("can_view", .bool d.canView), ("quick_access", .bool d.quickAccess)]

/-- The list of reports. -/
def selectorDocument (reports : List Descriptor) : Value :=
  .array (reports.map fun d => .object (descriptorEntries d))

/-- A cell: its text, or its link. -/
def cellValue : Cell → Value
  | .text s => .string s
  | .link href label => .sorted [("label", .string label), ("href", .string href)]

/-- A row: for each column its cell, or nothing. -/
def rowValue (columns : List Column) (cells : Cells) : Value :=
  .sorted (columns.map fun c => (c.key, ((cells.get? c.key).map cellValue).getD .null))

/-- A column. -/
def columnValue (c : Column) : Value :=
  .sorted [("key", .string c.key), ("label", .string c.label), ("sortable", .bool c.isSortable)]

/-- A paging. -/
def pagingValue (p : Paging) : Value :=
  .sorted [("page", .number p.page.toNat), ("per_page", .number p.perPage.toNat),
    ("sort", .optional p.sortKey), ("dir", .string p.direction.param)]

/-- A page of a report. -/
def viewDocument (v : View) : Value :=
  .sorted [("report", .sorted (descriptorEntries v.descriptor)),
    ("columns", .array (v.columns.map columnValue)),
    ("paging", pagingValue v.page.paging),
    ("total", .number v.page.total.toNat),
    ("pages", .number v.page.count.toNat),
    ("rows", .array (v.page.rows.map (rowValue v.columns)))]

end PagedReports.Json
