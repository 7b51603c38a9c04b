import PagedReports.Catalogue.Parts

/-!
# Recent releases

The versions of approved plugins that came out during the last thirty days.
-/

namespace PagedReports.Catalogue

open Sql Text

/-- What is shown of a version. -/
def releaseCells (r : Record) (f : Formatter) : Except ReportError Cells := do
  let released ← f.date (r.int 4)
  return Cells.empty.insert "plugin" (pluginCell r f)
    |>.insert "release" (.text (orDash (r.text 3)))
    |>.insert "version" (.text (r.text 2))
    |>.insert "leadmaintainer" (.text (fullName (r.text 5) (r.text 6)))
    |>.insert "timereleased" released

/-- The query of the releases. -/
def releaseSource : Source where
  outputs := [out "p" "frankenstyle", out "p" "name", out "v" "version", out "v" "releasename",
    out "v" "timecreated", out "u" "firstname", out "u" "lastname"]
  origin := .tables ⟨.versions, "v",
    ⟨.inner, .plugins, "p", sameAs (col "p" "id") (col "v" "pluginid")⟩ :: leadJoins⟩
  base := some [.atom (.comparison ⟨term "p" "approved", .equal, .operand (.number 1)⟩)]
  groupBy := none

/-- The versions of approved plugins of the last thirty days. -/
def recentReleases : Definition where
  name := "recentreleases"
  title := "Recently released versions"
  description := "Versions of approved plugins released during the last 30 days."
  capability := viewReports
  quickAccess := false
  columns := [⟨"plugin", "Plugin", [out "p" "name"]⟩,
    ⟨"release", "Release", [out "v" "releasename", out "v" "version"]⟩,
    ⟨"version", "Version", [out "v" "version"]⟩, ⟨"leadmaintainer", "Lead maintainer", byUser⟩,
    ⟨"timereleased", "Released", [out "v" "timecreated"]⟩]
  source := releaseSource
  filter := .since (.column (col "v" "timecreated")) (30 * day)
  defaultOrder := [.by (out "v" "timecreated") .descending, .by (out "v" "id") .descending]
  transform := releaseCells

end PagedReports.Catalogue
