import PagedReports.Html.PagingBar
import PagedReports.Report.Registry

/-!
# Pages of markup

A page of a report, the list of reports and a refusal as markup, and the frame around each.
-/

namespace PagedReports.Html

/-- The name of the site when none is given. -/
def defaultSite : String := "Plugins directory"

/-- A whole document around a body that has been written. -/
def shell (site title body : String) : List Node :=
  [.doctype, newline,
    .element "html" [("lang", "en")]
      [newline,
        el "head"
          [newline, .bare "meta" [("charset", "utf-8")], newline,
            el "title" [.text title, .text " | ", .text site], newline],
        newline,
        el "body" [newline, el "h1" [.text title], newline, .written body, newline],
        newline],
    newline]

/-- A whole written document around a written body. -/
def wrap (site title body : String) : String := writeAll (shell site title body)

/-- The mark of the column that rows are sorted by. -/
def sortMark (active : Bool) (d : Direction) : List Node :=
  if active then
    match d with
    | .ascending => [.text " ", .entity "#9650"]
    | .descending => [.text " ", .entity "#9660"]
  else []

/-- The paging that the head of a sortable column leads to: the first page sorted by it, in the
other direction if rows are sorted by it already. -/
def headTarget (p : Paging) (key : String) : Paging :=
  ⟨0, p.perPage, some key, if p.sortKey = some key then p.direction.toggled else .ascending⟩

/-- The head of a column. -/
def columnHead (report : String) (p : Paging) (c : Column) : Node :=
  if c.isSortable then
    el "th" (link (pagingQuery report (headTarget p c.key)) [.text c.label] ::
      sortMark (p.sortKey = some c.key) p.direction)
  else el "th" [.text c.label]

/-- The cell of a row in a column; empty when the row has none. -/
def bodyCell (cells : Cells) (c : Column) : Node :=
  el "td" ((cells.get? c.key).map Cell.node).toList

/-- A row of the table and the end of its line. -/
def bodyRow (columns : List Column) (cells : Cells) : List Node :=
  [el "tr" (columns.map (bodyCell cells)), newline]

/-- The rows of the table, or a note that there are none. -/
def bodyRows (v : View) : List Node :=
  if v.page.rows.isEmpty then
    [el "tr" [.element "td" [("colspan", Nat.repr v.columns.length)]
      [.text "Nothing to display"]], newline]
  else v.page.rows.flatMap (bodyRow v.columns)

/-- The table of a page. -/
def table (v : View) : Node :=
  .element "table" [("class", "report")]
    [newline,
      el "thead"
        [newline, el "tr" (v.columns.map (columnHead v.descriptor.name v.page.paging)), newline],
      newline,
      el "tbody" (newline :: bodyRows v),
      newline]

/-- A page of a report as markup. -/
def reportNodes (v : View) : List Node :=
  let bar := pagingBar v.descriptor.name v.page.paging v.page.total
  [.element "p" [("class", "description")] [.text v.descriptor.description], newline] ++ bar ++
    [table v, newline] ++ bar

/-- A page of a report as written markup. -/
def renderReport (v : View) : String := writeAll (reportNodes v)

/-- An entry of the list of reports and the end of its line. -/
def selectorEntry (d : Descriptor) : List Node :=
  [el "li"
    (link ("report=" ++ d.name) [.text d.title] ::
      (if d.quickAccess then
        [.text " ", .element "span" [("class", "quick")] [.entity "#9733"]] else []) ++
      [.bare "br" [], el "small" [.text d.description]]),
    newline]

/-- The list of reports to choose from as markup. -/
def selectorNodes (reports : List Descriptor) : List Node :=
  if reports.isEmpty then [el "p" [.text "There are no reports available to you."], newline]
  else
    [.element "ul" [("class", "reports")] (newline :: reports.flatMap selectorEntry), newline]

/-- The list of reports to choose from as written markup. -/
def renderSelector (reports : List Descriptor) : String := writeAll (selectorNodes reports)

/-- A refusal as written markup. -/
def renderDenied (words : String) : String :=
  writeAll [.element "div" [("class", "error")] [.text words], newline]

end PagedReports.Html
