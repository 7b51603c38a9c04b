import PagedReports.Catalogue.Parts

/-!
# Contributions

The plugins that the actor maintains or contributes to.
-/

namespace PagedReports.Catalogue

open Sql Text

/-- What is shown of a contribution. -/
def contributionCells (r : Record) (f : Formatter) : Except ReportError Cells := do
  let released ← f.date (r.int 4)
  return Cells.empty.insert "plugin" (pluginCell r f)
    |>.insert "status" (.text (((Approval.ofCode? (r.int 2)).map Approval.label).getD "Unknown"))
    |>.insert "role" (.text (roleLabel (r.int 3)))
    |>.insert "timelastreleased" released

/-- The query of the contributions. -/
def contributionSource : Source where
  outputs := [out "p" "frankenstyle", out "p" "name", out "p" "approved", out "mc" "maintainer",
    out "p" "timelastreleased"]
  origin := .tables ⟨.contributors, "mc",
    [⟨.inner, .plugins, "p", sameAs (col "p" "id") (col "mc" "pluginid")⟩]⟩
  base := none
  groupBy := none

/-- The actor's own plugins. -/
def myPlugins : Definition where
  name := "myplugins"
  title := "My plugins"
  description := "Plugins you maintain or contribute to."
  capability := editOwnPlugins
  quickAccess := true
  columns := [⟨"plugin", "Plugin", [out "p" "name"]⟩, ⟨"status", "Status", [out "p" "approved"]⟩,
    ⟨"role", "Role", []⟩, ⟨"timelastreleased", "Last release", [out "p" "timelastreleased"]⟩]
  source := contributionSource
  filter := .actorIs (.column (col "mc" "userid"))
  defaultOrder := [.by (out "p" "name") .ascending, .by (out "p" "id") .ascending]
  transform := contributionCells

end PagedReports.Catalogue
