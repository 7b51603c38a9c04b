import PagedReports.Catalogue.Parts

/-!
# Latest reviews

For each plugin and reviewer the review that the reviewer wrote last on any of its versions.
-/

namespace PagedReports.Catalogue

open Sql Text

/-- What is shown of a review. -/
def reviewCells (r : Record) (f : Formatter) : Except ReportError Cells := do
  let version :=
    if r.text 5 = "" then r.text 4 else r.text 5 ++ " (" ++ signedText (r.int 4) ++ ")"
  let reviewed ← f.date (r.int 6)
  return Cells.empty.insert "plugin" (pluginCell r f)
    |>.insert "reviewer" (.text (fullName (r.text 2) (r.text 3)))
    |>.insert "version" (.text version)
    |>.insert "timereviewed" reviewed

/-- The number of the last review by the author of `r` on any version of the plugin of `v`. -/
def lastReview : Subquery :=
  .first (col "r2" "id")
    ⟨.reviews, "r2", [⟨.inner, .versions, "v2", sameInside (col "v2" "id") (col "r2" "versionid")⟩]⟩
    [sameInside (col "v2" "pluginid") (col "v" "pluginid"),
      sameInside (col "r2" "userid") (col "r" "userid")]
    [(col "r2" "timereviewed", .descending), (col "r2" "id", .descending)]

/-- The query of the reviews. -/
def reviewSource : Source where
  outputs := [out "p" "frankenstyle", out "p" "name", out "u" "firstname", out "u" "lastname",
    out "v" "version", out "v" "releasename", out "r" "timereviewed"]
  origin := .tables ⟨.reviews, "r",
    [⟨.inner, .versions, "v", sameAs (col "v" "id") (col "r" "versionid")⟩,
      ⟨.inner, .plugins, "p", sameAs (col "p" "id") (col "v" "pluginid")⟩,
      ⟨.inner, .users, "u", sameAs (col "u" "id") (col "r" "userid")⟩]⟩
  base := some [.atom (.comparison ⟨term "r" "id", .equal, .subquery lastReview⟩)]
  groupBy := none

/-- The latest review per plugin and reviewer. -/
def reviews : Definition where
  name := "reviews"
  title := "Latest plugin reviews"
  description := "The most recent review each reviewer has written for each plugin."
  capability := viewReports
  quickAccess := true
  columns := [⟨"plugin", "Plugin", [out "p" "name"]⟩, ⟨"reviewer", "Reviewer", byUser⟩,
    ⟨"version", "Version", [out "v" "version"]⟩,
    ⟨"timereviewed", "Reviewed", [out "r" "timereviewed"]⟩]
  source := reviewSource
  filter := .all
  defaultOrder := [.by (out "r" "timereviewed") .descending, .by (out "r" "id") .descending]
  transform := reviewCells

end PagedReports.Catalogue
