import PagedReports.Catalogue.Parts
import PagedReports.Text.Grouped

/-!
# Downloads

The plugins that were downloaded during the last ninety days, with their totals.
-/

namespace PagedReports.Catalogue

open Sql Text

/-- What is shown of a plugin's downloads. -/
def downloadCells (r : Record) (f : Formatter) : Except ReportError Cells :=
  .ok <| Cells.empty.insert "plugin" (pluginCell r f)
    |>.insert "category" (.text (orDash (r.text 2)))
    |>.insert "downloads" (.text (grouped (r.int 3)))

/-- The sum of the downloads of a group. -/
def downloadSum : Output := .sum (col "s" "downloads")

/-- The query of the downloads. -/
def downloadSource : Source where
  outputs := [out "p" "frankenstyle", out "p" "name", out "c" "name", downloadSum]
  origin := .tables ⟨.pluginStats, "s",
    [⟨.inner, .plugins, "p", sameAs (col "p" "id") (col "s" "pluginid")⟩, categoryJoin]⟩
  base := none
  groupBy := some [out "p" "id", out "p" "frankenstyle", out "p" "name", out "c" "name"]

/-- Download totals of the last ninety days. -/
def downloads : Definition where
  name := "downloads"
  title := "Most downloaded plugins"
  description := "Download totals per plugin over the last 90 days."
  capability := viewReports
  quickAccess := false
  columns := [⟨"plugin", "Plugin", [out "p" "name"]⟩, ⟨"category", "Category", [out "c" "name"]⟩,
    ⟨"downloads", "Downloads", [downloadSum]⟩]
  source := downloadSource
  filter := .since (.column (col "s" "timeperiod")) (90 * day)
  defaultOrder := [.by downloadSum .descending, .by (out "p" "id") .ascending]
  transform := downloadCells

end PagedReports.Catalogue
