import PagedReports.Catalogue.Parts

/-!
# Approval queues

The plugins with one and the same decision: those that wait for one, and those sent back.
-/

namespace PagedReports.Catalogue

open Sql Text

/-- What is shown of a queued plugin. -/
def queueCells (r : Record) (f : Formatter) : Except ReportError Cells := do
  let queued ← f.date (r.int 5)
  return Cells.empty.insert "plugin" (pluginCell r f)
    |>.insert "category" (.text (orDash (r.text 2)))
    |>.insert "leadmaintainer" (.text (fullName (r.text 3) (r.text 4)))
    |>.insert "timequeued" queued

/-- The columns of a queue. -/
def queueColumns : List Column :=
  [⟨"plugin", "Plugin", [out "p" "name"]⟩, ⟨"category", "Category", [out "c" "name"]⟩,
    ⟨"leadmaintainer", "Lead maintainer", byUser⟩,
    ⟨"timequeued", "Time queued", [out "p" "timequeued"]⟩]

/-- The query of a queue. -/
def queueSource : Source where
  outputs := [out "p" "frankenstyle", out "p" "name", out "c" "name", out "u" "firstname",
    out "u" "lastname", out "p" "timequeued"]
  origin := .tables ⟨.plugins, "p", categoryJoin :: leadJoins⟩
  base := none
  groupBy := none

/-- The queue of a decision. -/
def queue (name title description : String) (status : Approval) (quickAccess : Bool) :
    Definition where
  name := name
  title := title
  description := description
  capability := approvePlugin
  quickAccess := quickAccess
  columns := queueColumns
  source := queueSource
  filter := .approval status
  defaultOrder := [.by (out "p" "timequeued") .descending, .by (out "p" "id") .descending]
  transform := queueCells

/-- The plugins that wait for a decision. -/
def unapproved : Definition :=
  queue "unapproved" "Plugins pending approval"
    "Plugins submitted to the directory and waiting for an approval decision." .pending true

/-- The plugins that were sent back. -/
def needsWork : Definition :=
  queue "needswork" "Plugins needing more work"
    "Plugins sent back to their maintainers before they can be approved." .needsWork false

end PagedReports.Catalogue
