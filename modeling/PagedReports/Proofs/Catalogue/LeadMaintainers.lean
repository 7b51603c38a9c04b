import PagedReports.Command.Run
import PagedReports.Proofs.Catalogue.Shown

/-!
# Lead maintainers

The approval queues and the recent releases look up who leads a plugin. However many people lead
it, and if nobody does, each plugin or version that a report is to show has exactly one row, which
names the user of the first lead contribution (`leadMaintainers_of_database`). The number of
pending plugins that the status command prints is therefore the total of the queue of unapproved
plugins.
-/

namespace PagedReports

open Sql Catalogue

/-! ### What the reports are to show -/

/-- The columns with names of users and categories hold texts. -/
structure Database.NamesAreText (db : Database) : Prop where
  /-- Users have texts as names. -/
  users : ∀ user ∈ db.users,
    (∃ s, user.value "firstname" = .text s) ∧ ∃ s, user.value "lastname" = .text s
  /-- Categories have texts as names. -/
  categories : ∀ category ∈ db.categories, ∃ s, category.value "name" = .text s

/-- A contribution makes someone lead maintainer of a plugin. -/
structure Leads (plugin contributor : Row) : Prop where
  /-- It is one to the plugin. -/
  plugin : contributor.value "pluginid" = .integer plugin.id
  /-- It is the one of a lead maintainer. -/
  maintainer : contributor.value "maintainer" = .integer 1

/-- Under which name the lead maintainer of a plugin is shown. -/
inductive LeadName (db : Database) (plugin : Row) : String → Prop where
  /-- Nobody leads the plugin. -/
  | nobody (h : ∀ contributor ∈ db.contributors, ¬Leads plugin contributor) :
    LeadName db plugin "-"
  /-- The first of its lead contributions is that of a user. -/
  | user {contributor user : Row} {first last : String} (hmem : contributor ∈ db.contributors)
    (hleads : Leads plugin contributor)
    (hfirst : ∀ other ∈ db.contributors, Leads plugin other → contributor.id ≤ other.id)
    (huser : user ∈ db.users) (hid : contributor.value "userid" = .integer user.id)
    (hfirstname : user.value "firstname" = .text first)
    (hlastname : user.value "lastname" = .text last) :
    LeadName db plugin (Text.fullName first last)

/-- Under which name the category of a plugin is shown. -/
inductive CategoryName (db : Database) (plugin : Row) : String → Prop where
  /-- It has none. -/
  | none (h : plugin.value "categoryid" = .null) : CategoryName db plugin "-"
  /-- It has one with a blank name. -/
  | blank {category : Row} {name : String} (hmem : category ∈ db.categories)
    (hid : plugin.value "categoryid" = .integer category.id)
    (hname : category.value "name" = .text name) (hblank : Text.isBlank name = true) :
    CategoryName db plugin "-"
  /-- It has one with a name. -/
  | named {category : Row} {name : String} (hmem : category ∈ db.categories)
    (hid : plugin.value "categoryid" = .integer category.id)
    (hname : category.value "name" = .text name) (hblank : Text.isBlank name = false) :
    CategoryName db plugin name

/-- What a queue gives of a plugin. -/
def queueRecord (db : Database) (plugin : Row) : Record :=
  [plugin.value "frankenstyle", plugin.value "name", joinedValue (db.categoryOf plugin) "name",
    joinedValue (db.leadUser plugin) "firstname", joinedValue (db.leadUser plugin) "lastname",
    plugin.value "timequeued"]

/-- The cells of a queued plugin. -/
structure ShowsQueued (db : Database) (f : Formatter) (plugin : Row) (cells : Cells) : Prop where
  /-- The plugin. -/
  link : cells.get? "plugin" = some (f.linkTo plugin)
  /-- Its category. -/
  category : ∃ s, CategoryName db plugin s ∧ cells.get? "category" = some (.text s)
  /-- Its lead maintainer. -/
  lead : ∃ s, LeadName db plugin s ∧ cells.get? "leadmaintainer" = some (.text s)
  /-- When it was queued. -/
  queued : ∃ cell, f.date (plugin.value "timequeued").toInteger = .ok cell ∧
    cells.get? "timequeued" = some cell

/-- What the recent releases give of a version. -/
def releaseRecord (db : Database) (version : Row) : Record :=
  let plugin := db.pluginOf version
  [plugin.value "frankenstyle", plugin.value "name", version.value "version",
    version.value "releasename", version.value "timecreated",
    joinedValue (db.leadUser plugin) "firstname", joinedValue (db.leadUser plugin) "lastname"]

/-- The cells of a version of a plugin. -/
structure ShowsVersion (db : Database) (f : Formatter) (plugin version : Row) (cells : Cells) :
    Prop where
  /-- The plugin. -/
  link : cells.get? "plugin" = some (f.linkTo plugin)
  /-- The name of the release. -/
  release : cells.get? "release" = some (.text (Text.orDash (version.value "releasename").toText))
  /-- Its number. -/
  number : cells.get? "version" = some (.text (version.value "version").toText)
  /-- The lead maintainer of the plugin. -/
  lead : ∃ s, LeadName db plugin s ∧ cells.get? "leadmaintainer" = some (.text s)
  /-- When it was released. -/
  released : ∃ cell, f.date (version.value "timecreated").toInteger = .ok cell ∧
    cells.get? "timereleased" = some cell

/-- The cells of a released version, which is one of its plugin. -/
def ShowsRelease (db : Database) (f : Formatter) (version : Row) (cells : Cells) : Prop :=
  ∃ plugin ∈ db.plugins, version.value "pluginid" = .integer plugin.id ∧
    ShowsVersion db f plugin version cells

/-- The versions of approved plugins that the recent releases look at. -/
def Database.releasesInWindow (db : Database) (now : Int64) : List Row :=
  db.versions.filter fun version =>
    decide ((db.pluginOf version).value "approved" = .integer 1) &&
      decide (Relation.truth .atLeast (version.value "timecreated") (.integer (now - 30 * day)) =
        some true)

/-! ### Records and cells -/

theorem outputs_queue (db : Database) (plugin : Row) :
    queueSource.outputs.map (·.valueIn (queueEnv db plugin)) = queueRecord db plugin := by
  have huser : ∀ column, (queueEnv db plugin).value (col "u" column) =
      joinedValue (db.leadUser plugin) column := Env.value_eq_joinedValue _ rfl
  have hcategory : ∀ column, (queueEnv db plugin).value (col "c" column) =
      joinedValue (db.categoryOf plugin) column := Env.value_eq_joinedValue _ rfl
  simp only [queueRecord, ← huser, ← hcategory]
  rfl

theorem outputs_release (db : Database) (version : Row) :
    releaseSource.outputs.map (·.valueIn (releaseEnv db version)) = releaseRecord db version := by
  have huser : ∀ column, (releaseEnv db version).value (col "u" column) =
      joinedValue (db.leadUser (db.pluginOf version)) column := Env.value_eq_joinedValue _ rfl
  simp only [releaseRecord, ← huser]
  rfl

theorem queueCells_eq_ok {record : Record} {f : Formatter} {cells : Cells}
    (h : queueCells record f = .ok cells) :
    cells.get? "plugin" = some (pluginCell record f) ∧
      cells.get? "category" = some (.text (Text.orDash (record.text 2))) ∧
      cells.get? "leadmaintainer" =
        some (.text (Text.fullName (record.text 3) (record.text 4))) ∧
      ∃ cell, f.date (record.int 5) = .ok cell ∧ cells.get? "timequeued" = some cell := by
  obtain ⟨cell, hdate, rfl⟩ := Formatter.exists_date_of_cells h
  simp [Cells.get?_insert, hdate]

theorem releaseCells_eq_ok {record : Record} {f : Formatter} {cells : Cells}
    (h : releaseCells record f = .ok cells) :
    cells.get? "plugin" = some (pluginCell record f) ∧
      cells.get? "release" = some (.text (Text.orDash (record.text 3))) ∧
      cells.get? "version" = some (.text (record.text 2)) ∧
      cells.get? "leadmaintainer" =
        some (.text (Text.fullName (record.text 5) (record.text 6))) ∧
      ∃ cell, f.date (record.int 4) = .ok cell ∧ cells.get? "timereleased" = some cell := by
  obtain ⟨cell, hdate, rfl⟩ := Formatter.exists_date_of_cells h
  simp [Cells.get?_insert, hdate]

/-! ### Names -/

section Reached

variable {db : Database} (hdb : db.Reached)

include hdb

theorem mem_leads_iff {plugin contributor : Row} :
    contributor ∈ leads db (.integer plugin.id) ↔
      contributor ∈ db.contributors ∧ Leads plugin contributor := by
  rw [leads, List.mem_filter, Bool.and_eq_true, decide_eq_true_iff, decide_eq_true_iff]
  refine and_congr_right fun hmem => ?_
  obtain ⟨target, -, hid⟩ :=
    hdb.sound.reference (t := .contributors) hmem "pluginid" .plugins (by decide) (by decide)
  have hplugin : Relation.truth .equal (contributor.value "pluginid") (.integer plugin.id) =
      some true ↔ contributor.value "pluginid" = .integer plugin.id := by
    rw [hid, Relation.truth_equal_integer, Value.compare_integer_eq_iff, Value.integer.injEq]
  have hmaintainer := hdb.truth_equal_iff (t := .contributors) hmem "maintainer"
    (by decide) (n := 1) (by decide) (by decide)
  rw [hplugin, hmaintainer]
  exact ⟨fun h => ⟨h.1, h.2⟩, fun h => ⟨h.1, h.2⟩⟩

/-- The names of the user that is joined to a plugin are those of its lead maintainer. -/
theorem leadName_of_joined (hnames : db.NamesAreText) (plugin : Row) :
    LeadName db plugin
      (Text.fullName (joinedValue (db.leadUser plugin) "firstname").toText
        (joinedValue (db.leadUser plugin) "lastname").toText) := by
  have hordered : Ordered (leads db (.integer plugin.id)) :=
    (hdb.sound.ordered .contributors).filter _
  cases hleads : leads db (.integer plugin.id) with
  | nil =>
    have huser : db.leadUser plugin = none := by
      rw [Database.leadUser, Database.leadOf, hleads]
      rfl
    rw [huser]
    refine .nobody fun contributor hmem hleadsPlugin => ?_
    have hin := (mem_leads_iff hdb).2 ⟨hmem, hleadsPlugin⟩
    rw [hleads] at hin
    cases hin
  | cons lead rest =>
    have hfirstLead : lead ∈ leads db (.integer plugin.id) := hleads ▸ List.mem_cons_self
    obtain ⟨hmem, hlead⟩ := (mem_leads_iff hdb).1 hfirstLead
    obtain ⟨user, hin, hid⟩ :=
      hdb.sound.reference (t := .contributors) hmem "userid" .users (by decide) (by decide)
    have huser : db.leadUser plugin = some user := by
      rw [Database.leadUser, Database.leadOf, hleads, List.head?_cons, Option.bind_some, hid]
      exact hdb.sound.numbered?_id hin
    have hvalue : ∀ column, joinedValue (some user) column = user.value column := fun _ => rfl
    obtain ⟨⟨first, hfirst⟩, ⟨last, hlast⟩⟩ := hnames.users user hin
    rw [huser, hvalue, hvalue, hfirst, hlast]
    refine .user hmem hlead (fun other hother hotherLeads => ?_) hin hid hfirst hlast
    have hotherIn := (mem_leads_iff hdb).2 ⟨hother, hotherLeads⟩
    rw [hleads] at hotherIn hordered
    rcases List.mem_cons.1 hotherIn with rfl | hrest
    · exact Int64.le_refl _
    · exact Int64.le_of_lt ((List.pairwise_cons.1 hordered).1 other hrest)

/-- The name of the category that is joined to a plugin is that of its category. -/
theorem categoryName_of_joined (hnames : db.NamesAreText) {plugin : Row}
    (hplugin : plugin ∈ db.plugins) :
    CategoryName db plugin (Text.orDash (joinedValue (db.categoryOf plugin) "name").toText) := by
  by_cases hnull : plugin.value "categoryid" = .null
  · have hnone : db.categoryOf plugin = none := by
      rw [Database.categoryOf, hnull]
      exact db.numbered?_null .categories
    rw [hnone]
    exact .none hnull
  · obtain ⟨category, hmem, hid⟩ := hdb.sound.grounded .plugins plugin hplugin
      ("categoryid", .categories) (by decide) hnull
    have hsome : db.categoryOf plugin = some category := by
      rw [Database.categoryOf, hid]
      exact hdb.sound.numbered?_id hmem
    obtain ⟨name, hname⟩ := hnames.categories category hmem
    have hvalue : joinedValue (some category) "name" = .text name := hname
    rw [hsome, hvalue]
    cases hblank : Text.isBlank name with
    | true =>
      rw [Value.toText, Text.orDash, if_pos hblank]
      exact .blank hmem hid hname hblank
    | false =>
      rw [Value.toText, Text.orDash, if_neg (by simp [hblank])]
      exact .named hmem hid hname hblank

/-! ### Rows -/

/-- The plugins with a decision are those with its code. -/
theorem envs_queue_filtered (name title description : String) (status : Approval)
    (quickAccess : Bool) (actor : Actor) (settings : Settings) (now : Int64) :
    (db.report (queue name title description status quickAccess) actor settings now).selection.envs
        db [.integer status.code] =
      (db.plugins.filter fun plugin => plugin.value "approved" = .integer status.code).map
        (queueEnv db) := by
  refine Selection.envs_of_tables rfl (envs_queue hdb.sound _) fun plugin hmem => ?_
  have htruth : Atom.truth db [.integer status.code] (queueEnv db plugin)
      (againstParameter (.column ⟨"p", "approved"⟩) .equal) =
        Relation.truth .equal (plugin.value "approved") (.integer status.code) := rfl
  change Clause.holds _ [.atom (againstParameter (.column ⟨"p", "approved"⟩) .equal)] = _
  rw [Clause.holds_atom, htruth]
  exact decide_eq_decide.2 (hdb.truth_equal_iff (t := .plugins) hmem "approved" (by decide)
    (by cases status <;> decide) (by cases status <;> decide))

/-- The report looks at the versions of approved plugins since the start of the window. -/
theorem envs_release_filtered (actor : Actor) (settings : Settings) (now : Int64) :
    (db.report recentReleases actor settings now).selection.envs db
        [.integer (now - 30 * day)] = (db.releasesInWindow now).map (releaseEnv db) := by
  refine Selection.envs_of_tables rfl (envs_release hdb.sound _) fun version hmem => ?_
  obtain ⟨hplugin, -⟩ :=
    hdb.sound.pluginOf (t := .versions) hmem (by decide) (by decide)
  have hbase : Atom.truth db [.integer (now - 30 * day)] (releaseEnv db version)
      (.comparison ⟨term "p" "approved", .equal, .operand (.number 1)⟩) =
        Relation.truth .equal ((db.pluginOf version).value "approved") (.integer 1) := rfl
  have hsince : Atom.truth db [.integer (now - 30 * day)] (releaseEnv db version)
      (againstParameter (.column (col "v" "timecreated")) .atLeast) =
        Relation.truth .atLeast (version.value "timecreated") (.integer (now - 30 * day)) := rfl
  change Clause.holds _
    [.atom (.comparison ⟨term "p" "approved", .equal, .operand (.number 1)⟩), .and,
      .atom (againstParameter (.column (col "v" "timecreated")) .atLeast)] = _
  rw [Clause.holds_and, hbase, hsince]
  refine congrArg (· && _) (decide_eq_decide.2 ?_)
  exact hdb.truth_equal_iff hplugin "approved" (by decide) (by decide) (by decide)

/-- A version with a whole number as its time is looked at if its plugin is approved and it is no
earlier than the start of the window. -/
theorem mem_releasesInWindow_iff {version : Row} (hmem : version ∈ db.versions) {t now : Int64}
    (ht : version.value "timecreated" = .integer t)
    (hnow : -0x8000000000000000 ≤ now.toInt - 30 * 86400) :
    version ∈ db.releasesInWindow now ↔ now.toInt - 30 * 86400 ≤ t.toInt ∧ ∃ p ∈ db.plugins,
      version.value "pluginid" = .integer p.id ∧ p.value "approved" = .integer 1 := by
  obtain ⟨hplugin, hid⟩ := hdb.sound.pluginOf (t := .versions) hmem (by decide) (by decide)
  have hwindow : (30 * day).toInt = 30 * 86400 := by decide
  have happroved : (db.pluginOf version).value "approved" = .integer 1 ↔ ∃ p ∈ db.plugins,
      version.value "pluginid" = .integer p.id ∧ p.value "approved" = .integer 1 := by
    constructor
    · exact fun h => ⟨_, hplugin, hid, h⟩
    · rintro ⟨p, hp, hpid, h⟩
      have heq : db.pluginOf version = p := hdb.sound.eq_of_id_eq (t := .plugins) hplugin hp
        (Value.integer.inj (by rw [← hid, hpid]))
      rw [heq, h]
  rw [Database.releasesInWindow, List.mem_filter, Bool.and_eq_true, decide_eq_true_iff,
    decide_eq_true_iff, ht, truth_since_iff (by decide) (by rw [hwindow]; exact hnow), hwindow,
    happroved]
  exact ⟨fun h => ⟨h.2.2, h.2.1⟩, fun h => ⟨hmem, h.2, h.1⟩⟩

/-- The queue of a decision shows each plugin with this decision. -/
theorem showsEach_queue (hnames : db.NamesAreText) {name title description : String}
    {status : Approval} {quickAccess : Bool}
    (hd : queue name title description status quickAccess ∈ Catalogue.all) (actor : Actor)
    (settings : Settings) (now : Int64) :
    (db.report (queue name title description status quickAccess) actor settings now).ShowsEach db
      (db.plugins.filter fun plugin => plugin.value "approved" = .integer status.code)
      (queueRecord db) (ShowsQueued db (Formatter.ofSettings settings)) := by
  refine Report.showsEach_of_envs rfl hd rfl (envs_queue_filtered hdb ..)
    (fun plugin _ => outputs_queue db plugin) fun plugin hmem cells h => ?_
  obtain ⟨hlink, hcategory, hlead, hqueued⟩ := queueCells_eq_ok h
  exact ⟨hlink, ⟨_, categoryName_of_joined hdb hnames (List.mem_filter.1 hmem).1, hcategory⟩,
    ⟨_, leadName_of_joined hdb hnames plugin, hlead⟩, hqueued⟩

/-- The recent releases show each version of an approved plugin in the window. -/
theorem showsEach_release (hnames : db.NamesAreText) (actor : Actor) (settings : Settings)
    (now : Int64) :
    (db.report recentReleases actor settings now).ShowsEach db (db.releasesInWindow now)
      (releaseRecord db) (ShowsRelease db (Formatter.ofSettings settings)) := by
  refine Report.showsEach_of_envs rfl (by simp [Catalogue.all, Database.report]) rfl
    (envs_release_filtered hdb ..) (fun version _ => outputs_release db version)
    fun version hmem cells h => ?_
  obtain ⟨hlink, hrelease, hversion, hlead, hreleased⟩ := releaseCells_eq_ok h
  obtain ⟨hplugin, hid⟩ := hdb.sound.pluginOf (t := .versions) (List.mem_filter.1 hmem).1
    (by decide) (by decide)
  exact ⟨db.pluginOf version, hplugin, hid, hlink, hrelease, hversion,
    ⟨_, leadName_of_joined hdb hnames _, hlead⟩, hreleased⟩

end Reached

/-! ### The status command -/

/-- Where the database of a site can be opened, the status command sums it up. -/
theorem runStatus_eq_ok {c : Console} {h : Host} {db : Database}
    (hthere : c.host.contains c.host.loadSettings.databasePath = true)
    (hopen : c.host.openDatabase c.host.loadSettings.databasePath = .ok (h, some db)) :
    Command.runStatus c = .ok () ⟨h, c.printed ++ Command.settingsReport c.host.loadSettings ++
      "\n" ++ Command.databaseReport db ++ "\n"⟩ := by
  have hhost : ∀ c, Run.host c = .ok c.host c := fun _ => rfl
  have hsay : ∀ text c, Run.say text c = .ok () { c with printed := c.printed ++ text ++ "\n" } :=
    fun _ _ => rfl
  have hset : ∀ h c, Run.setHost h c = .ok () { c with host := h } := fun _ _ => rfl
  simp only [Command.runStatus, bind, EStateM.bind, hhost, hsay, hthere, if_true, Run.openAt, hopen,
    Run.ask, pure, EStateM.pure, hset, tablesFor]

/-! ### The reports and the status -/

/-- **Looking up the lead maintainer neither multiplies nor drops rows.** On every reachable
database whose names are texts, each approval queue has one row for each plugin with its code, and
the recent releases have one row for each version of an approved plugin with a time in the last
thirty days; the rows name the user of the first lead contribution, and in the queues the category.
The number of pending plugins in the status is the total of the unapproved ones. -/
theorem leadMaintainers_of_database {db : Database} (hdb : db.Reached) (hnames : db.NamesAreText)
    (actor : Actor) (settings : Settings) (now : Int64) :
    (∀ d code, (d, code) ∈ [(unapproved, (-1 : Int64)), (needsWork, 0)] →
      d.canView actor = true →
        ∃ r plugins, Report.openFor d actor settings now db.store = .ok r ∧ plugins.Nodup ∧
          (∀ p, p ∈ plugins ↔ p ∈ db.plugins ∧ p.value "approved" = .integer code) ∧
          r.ShowsEach db plugins (queueRecord db) (ShowsQueued db r.formatter)) ∧
    (-0x8000000000000000 ≤ now.toInt - 30 * 86400 → recentReleases.canView actor = true →
      ∃ r versions, Report.openFor recentReleases actor settings now db.store = .ok r ∧
        versions.Nodup ∧ (∀ v ∈ versions, v ∈ db.versions) ∧
        (∀ v ∈ db.versions, ∀ t : Int64, v.value "timecreated" = .integer t →
          (v ∈ versions ↔ now.toInt - 30 * 86400 ≤ t.toInt ∧ ∃ p ∈ db.plugins,
            v.value "pluginid" = .integer p.id ∧ p.value "approved" = .integer 1)) ∧
        r.ShowsEach db versions (releaseRecord db) (ShowsRelease db r.formatter)) ∧
    (unapproved.canView actor = true → ∃ r n,
      Report.openFor unapproved actor settings now db.store = .ok r ∧
        r.selection.count db r.filter.params = n ∧
        (∃ s, r.rowCount (Session.start ()) = .ok (UInt64.ofNat n) s) ∧
        ∀ c h, c.host.contains c.host.loadSettings.databasePath = true →
          c.host.openDatabase c.host.loadSettings.databasePath = .ok (h, some db) →
            Command.runStatus c = .ok () ⟨h, c.printed ++
              Command.settingsReport c.host.loadSettings ++ "\n" ++
              String.intercalate "\n"
                ["", "Users:        " ++ Nat.repr db.users.length,
                  "Plugins:      " ++ Nat.repr db.plugins.length,
                  "Pending:      " ++ Nat.repr n,
                  "Reviews:      " ++ Nat.repr db.reviews.length,
                  "Partner ads:  " ++ Nat.repr db.partnerAds.length] ++ "\n"⟩) := by
  have hplugins : db.plugins.Nodup := hdb.sound.nodup_rows .plugins
  have hunapproved : unapproved ∈ Catalogue.all := by simp [Catalogue.all]
  refine ⟨fun d code hd hview => ?_, fun hnow hview => ?_, fun hview => ?_⟩
  · simp only [List.mem_cons, List.not_mem_nil, or_false, Prod.mk.injEq] at hd
    rcases hd with ⟨rfl, rfl⟩ | ⟨rfl, rfl⟩
    · exact ⟨_, _, Database.openFor_eq_ok hview settings now, hplugins.filter _,
        fun p => by rw [List.mem_filter, decide_eq_true_iff]; rfl,
        showsEach_queue hdb hnames hunapproved actor settings now⟩
    · exact ⟨_, _, Database.openFor_eq_ok hview settings now, hplugins.filter _,
        fun p => by rw [List.mem_filter, decide_eq_true_iff]; rfl,
        showsEach_queue hdb hnames (by simp [Catalogue.all, needsWork]) actor settings now⟩
  · refine ⟨_, _, Database.openFor_eq_ok hview settings now,
      (hdb.sound.nodup_rows .versions).filter _, fun v hv => (List.mem_filter.1 hv).1,
      fun v hv t ht => ?_, showsEach_release hdb hnames actor settings now⟩
    exact mem_releasesInWindow_iff hdb hv ht hnow
  · obtain ⟨hcount, htotal⟩ := (showsEach_queue hdb hnames hunapproved actor settings now).total
    exact ⟨_, _, Database.openFor_eq_ok hview settings now, hcount, htotal,
      fun c h hthere hopen => runStatus_eq_ok hthere hopen⟩

/-- A directory with a plugin that two users lead, one that nobody leads and is in a category, and
one that is approved. -/
def crew : Database := .founded
  [(.users, [("username", .text "ada"), ("firstname", .text "Ada"), ("lastname", .text "Ash")]),
    (.users, [("username", .text "bo"), ("lastname", .text "Bee")]),
    (.plugins, [("frankenstyle", .text "mod_a"), ("name", .text "A")]),
    (.plugins, [("frankenstyle", .text "mod_b"), ("name", .text "B"), ("categoryid", .integer 2)]),
    (.plugins, [("frankenstyle", .text "mod_c"), ("name", .text "C"), ("approved", .integer 1)]),
    (.contributors, [("pluginid", .integer 1), ("userid", .integer 1), ("maintainer", .integer 2)]),
    (.contributors, [("pluginid", .integer 1), ("userid", .integer 2), ("maintainer", .integer 1)]),
    (.contributors, [("pluginid", .integer 1), ("userid", .integer 1), ("maintainer", .integer 1)]),
    (.contributors, [("pluginid", .integer 3), ("userid", .integer 1), ("maintainer", .integer 1)]),
    (.versions, [("pluginid", .integer 3), ("version", .integer 1), ("timecreated", .integer 7)]),
    (.versions, [("pluginid", .integer 1), ("version", .integer 2), ("timecreated", .integer 8)])]

theorem reached_crew : crew.Reached := Database.reached_founded rfl

theorem namesAreText_crew : crew.NamesAreText where
  users := by
    have h : ∀ user ∈ crew.users, (user.value "firstname").kindName = "Text" ∧
        (user.value "lastname").kindName = "Text" := by decide +kernel
    exact fun user hmem =>
      ⟨Value.exists_eq_text (h user hmem).1, Value.exists_eq_text (h user hmem).2⟩
  categories := by
    have h : ∀ category ∈ crew.categories, (category.value "name").kindName = "Text" := by
      decide +kernel
    exact fun category hmem => Value.exists_eq_text (h category hmem)

/-- A console on a host without settings, whose database is that of the crew. -/
def crewConsole : Console where
  host := {
    home := "/h"
    files := ⟨[(["h", ".local", "share", "plugreport", "plugreport.db"], .database (some crew)),
      (["h", ".local", "share", "plugreport"], .directory), (["h", ".local", "share"], .directory),
      (["h", ".local"], .directory), (["h"], .directory)]⟩ }
  printed := ""

/-- Two leads, of which the first contribution counts, and a status that tells of two pending
plugins. -/
theorem leadMaintainers_of_crew :
    crew.Reached ∧ crew.NamesAreText ∧
      (∃ r plugins, Report.openFor unapproved ⟨1, "ada", "Ada Ash", true, []⟩
          (Settings.defaults "") 7 crew.store = .ok r ∧ plugins.Nodup ∧
        (∀ p, p ∈ plugins ↔ p ∈ crew.plugins ∧ p.value "approved" = .integer (-1)) ∧
        r.ShowsEach crew plugins (queueRecord crew) (ShowsQueued crew r.formatter)) ∧
      (∃ r versions, Report.openFor recentReleases ⟨1, "ada", "Ada Ash", true, []⟩
          (Settings.defaults "") 7 crew.store = .ok r ∧
        versions.Nodup ∧ (∀ v ∈ versions, v ∈ crew.versions) ∧
        (∀ v ∈ crew.versions, ∀ t : Int64, v.value "timecreated" = .integer t →
          (v ∈ versions ↔ (7 : Int64).toInt - 30 * 86400 ≤ t.toInt ∧ ∃ p ∈ crew.plugins,
            v.value "pluginid" = .integer p.id ∧ p.value "approved" = .integer 1)) ∧
        r.ShowsEach crew versions (releaseRecord crew) (ShowsRelease crew r.formatter)) ∧
      Command.runStatus crewConsole = .ok () ⟨crewConsole.host, crewConsole.printed ++
        Command.settingsReport crewConsole.host.loadSettings ++ "\n" ++
          String.intercalate "\n"
            ["", "Users:        " ++ Nat.repr crew.users.length,
              "Plugins:      " ++ Nat.repr crew.plugins.length,
              "Pending:      " ++ Nat.repr 2,
              "Reviews:      " ++ Nat.repr crew.reviews.length,
              "Partner ads:  " ++ Nat.repr crew.partnerAds.length] ++ "\n"⟩ := by
  obtain ⟨hqueues, hreleases, hstatus⟩ := leadMaintainers_of_database reached_crew
    namesAreText_crew ⟨1, "ada", "Ada Ash", true, []⟩ (Settings.defaults "") 7
  obtain ⟨r, n, hopened, hn, -, hprinted⟩ := hstatus rfl
  have htwo : n = 2 := by
    cases (Database.openFor_eq_ok rfl _ _).symm.trans hopened
    rw [← hn]
    decide +kernel
  have hthere : crewConsole.host.contains crewConsole.host.loadSettings.databasePath = true := by
    decide +kernel
  have hopen : crewConsole.host.openDatabase crewConsole.host.loadSettings.databasePath =
      .ok (crewConsole.host, some crew) := by decide +kernel
  exact ⟨reached_crew, namesAreText_crew, hqueues unapproved (-1) (by simp) rfl,
    hreleases (by decide) rfl, htwo ▸ hprinted crewConsole crewConsole.host hthere hopen⟩

end PagedReports
