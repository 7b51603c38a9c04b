import PagedReports.Proofs.Catalogue.Shown
import PagedReports.Proofs.Sql.Grouping

/-!
# Download totals

The downloads report groups the counts of a window by number, component, name and category of their
plugin, which is to group them by plugin (`exists_groups_downloads`). It therefore has one row for
each plugin with a count in the window, the row shows the exact sum of the plugin's counts, and
the sums add up to the sum of all counts in the window (`downloadTotals_of_database`).
-/

namespace PagedReports

open Sql Catalogue

/-! ### What the report is to show -/

/-- Times and numbers of downloads are whole numbers. -/
structure Database.CountsAreWhole (db : Database) : Prop where
  /-- Times are whole numbers. -/
  time : ∀ s ∈ db.pluginStats, ∃ t : Int64, s.value "timeperiod" = .integer t
  /-- Numbers of downloads are whole numbers. -/
  downloads : ∀ s ∈ db.pluginStats, ∃ n : Int64, s.value "downloads" = .integer n

/-- How many downloads a count tells of. -/
def downloadsOf (stats : Row) : Int := (stats.value "downloads").toInteger.toInt

/-- The counts since a time. -/
def Database.statsSince (db : Database) (start : Int) : List Row :=
  db.pluginStats.filter fun s => start ≤ (s.value "timeperiod").toInteger.toInt

/-- The counts of a plugin since a time. -/
def Database.statsOf (db : Database) (start : Int) (plugin : Row) : List Row :=
  (db.statsSince start).filter fun s => s.value "pluginid" = .integer plugin.id

/-- What the report gives of a plugin: the last value is the sum of its downloads since a time. -/
def downloadRecord (db : Database) (start : Int) (plugin : Row) : Record :=
  [plugin.value "frankenstyle", plugin.value "name", joinedValue (db.categoryOf plugin) "name",
    .integer (.ofInt ((db.statsOf start plugin).map downloadsOf).sum)]

/-- The cells of a plugin with downloads since a time. -/
structure ShowsDownloads (db : Database) (start : Int) (f : Formatter) (plugin : Row)
    (cells : Cells) : Prop where
  /-- The plugin. -/
  link : cells.get? "plugin" = some (f.linkTo plugin)
  /-- Its category. -/
  category : cells.get? "category" =
    some (.text (Text.orDash (joinedValue (db.categoryOf plugin) "name").toText))
  /-- The sum of its downloads. -/
  downloads : ∃ n : Int64, n.toInt = ((db.statsOf start plugin).map downloadsOf).sum ∧
    cells.get? "downloads" = some (.text (Text.grouped n))

/-! ### Grouping by plugin -/

/-- The plugin of a joined row; a row without values if there is none. -/
def joinedPlugin (env : Env) : Row := (env.lookup "p").join.getD ⟨0, []⟩

/-- What the report groups by. -/
def downloadGrouping : List Output :=
  [out "p" "id", out "p" "frankenstyle", out "p" "name", out "c" "name"]

theorem sameKeys_self (vs : List Value) : sameKeys vs vs = true := by
  rw [sameKeys, Bool.and_eq_true, List.all_eq_true]
  refine ⟨beq_self_eq_true _, fun p hp => ?_⟩
  rw [List.zip_eq_zipWith, List.zipWith_self, List.mem_map] at hp
  obtain ⟨v, -, rfl⟩ := hp
  have hself : v.compare v = .eq := Std.ReflCmp.compare_self
  exact beq_iff_eq.2 hself

/-- Some plugins are those that counts refer to, each once. -/
structure PluginsOf (db : Database) (stats plugins : List Row) : Prop where
  /-- None is there twice. -/
  nodup : plugins.Nodup
  /-- They are plugins of the database. -/
  mem : ∀ p ∈ plugins, p ∈ db.plugins
  /-- Each of them has a count. -/
  first : ∀ p ∈ plugins, ∃ s rest, rowsOf db.pluginOf stats p = s :: rest ∧ db.pluginOf s = p
  /-- None that has a count is missing. -/
  cover : ∀ s ∈ stats, db.pluginOf s ∈ plugins

section Sound

variable {db : Database} (hdb : db.Sound)

include hdb

/-- The values that the report groups by tell the same counts apart as their plugins do. -/
theorem groupsBy_joinedPlugin {stats : List Row} (hstats : ∀ s ∈ stats, s ∈ db.pluginStats) :
    GroupsBy downloadGrouping joinedPlugin (stats.map (downloadEnv db)) := by
  intro a ha b hb
  obtain ⟨s, hs, rfl⟩ := List.mem_map.1 ha
  obtain ⟨s', hs', rfl⟩ := List.mem_map.1 hb
  obtain ⟨hplugin, -⟩ :=
    hdb.pluginOf (t := .pluginStats) (hstats s hs) (by decide) (by decide)
  obtain ⟨hplugin', -⟩ :=
    hdb.pluginOf (t := .pluginStats) (hstats s' hs') (by decide) (by decide)
  constructor
  · intro h
    rw [sameKeys, Bool.and_eq_true, List.all_eq_true] at h
    have hid : (Value.integer (db.pluginOf s).id).compare (.integer (db.pluginOf s').id) = .eq :=
      beq_iff_eq.1 (h.2 (_, _) List.mem_cons_self)
    exact hdb.eq_of_id_eq hplugin hplugin' (Value.compare_integer_eq_iff.1 hid)
  · intro h
    have hplugins : db.pluginOf s = db.pluginOf s' := h
    have hkeys : ∀ s, downloadGrouping.map (·.valueIn (downloadEnv db s)) =
        downloadGrouping.map (·.valueIn
          [("c", db.categoryOf (db.pluginOf s)), ("p", some (db.pluginOf s))]) := fun _ => rfl
    rw [hkeys, hkeys, hplugins]
    exact sameKeys_self _

/-- The counts of a plugin are those with its number. -/
theorem rowsOf_pluginOf {stats : List Row} (hstats : ∀ s ∈ stats, s ∈ db.pluginStats) {p : Row}
    (hp : p ∈ db.plugins) :
    rowsOf db.pluginOf stats p = stats.filter fun s => s.value "pluginid" = .integer p.id := by
  refine List.filter_congr fun s hs => decide_eq_decide.2 ?_
  obtain ⟨hplugin, hid⟩ :=
    hdb.pluginOf (t := .pluginStats) (hstats s hs) (by decide) (by decide)
  rw [hid, Value.integer.injEq]
  exact ⟨congrArg Row.id, hdb.eq_of_id_eq (t := .plugins) hplugin hp⟩

/-- The counts are grouped by plugin. -/
theorem exists_groups_downloads {stats : List Row} (hstats : ∀ s ∈ stats, s ∈ db.pluginStats) :
    ∃ plugins : List Row, PluginsOf db stats plugins ∧
      groupEnvs downloadGrouping (stats.map (downloadEnv db)) =
        plugins.map fun p => (rowsOf db.pluginOf stats p).map (downloadEnv db) := by
  obtain ⟨plugins, hnodup, hkeys, hgroups⟩ := groupEnvs_eq (groupsBy_joinedPlugin hdb hstats)
  have hmem : ∀ p, p ∈ plugins ↔ ∃ s ∈ stats, db.pluginOf s = p := by
    intro p
    simp only [hkeys, List.mem_map, exists_exists_and_eq_and]
    rfl
  refine ⟨plugins, ⟨hnodup, fun p hp => ?_, fun p hp => ?_, fun s hs => (hmem _).2 ⟨s, hs, rfl⟩⟩,
    ?_⟩
  · obtain ⟨s, hs, rfl⟩ := (hmem p).1 hp
    exact (hdb.pluginOf (t := .pluginStats) (hstats s hs) (by decide) (by decide)).1
  · obtain ⟨s, hs, hplugin⟩ := (hmem p).1 hp
    have hne : rowsOf db.pluginOf stats p ≠ [] :=
      List.ne_nil_of_mem (List.mem_filter.2 ⟨hs, decide_eq_true hplugin⟩)
    obtain ⟨first, rest, hcons⟩ := List.exists_cons_of_ne_nil hne
    have hfirst : first ∈ rowsOf db.pluginOf stats p := hcons ▸ List.mem_cons_self
    exact ⟨first, rest, hcons, of_decide_eq_true (List.mem_filter.1 hfirst).2⟩
  · rw [hgroups]
    refine List.map_congr_left fun p _ => ?_
    rw [rowsOf, List.filter_map]
    rfl

theorem PluginsOf.mem_iff {stats plugins : List Row} (h : PluginsOf db stats plugins)
    (hstats : ∀ s ∈ stats, s ∈ db.pluginStats) {p : Row} :
    p ∈ plugins ↔ p ∈ db.plugins ∧ ∃ s ∈ stats, s.value "pluginid" = .integer p.id := by
  constructor
  · intro hp
    obtain ⟨s, rest, hcons, -⟩ := h.first p hp
    have hs : s ∈ rowsOf db.pluginOf stats p := hcons ▸ List.mem_cons_self
    rw [rowsOf_pluginOf hdb hstats (h.mem p hp), List.mem_filter, decide_eq_true_iff] at hs
    exact ⟨h.mem p hp, s, hs⟩
  · rintro ⟨hp, s, hs, hid⟩
    have hin : s ∈ rowsOf db.pluginOf stats p := by
      rw [rowsOf_pluginOf hdb hstats hp]
      exact List.mem_filter.2 ⟨hs, decide_eq_true hid⟩
    have hplugin : db.pluginOf s = p := of_decide_eq_true (List.mem_filter.1 hin).2
    exact hplugin ▸ h.cover s hs

end Sound

/-! ### Sums -/

theorem Sql.Output.exists_value {o : Output} {group : List Env} (h : o.isSum = false) :
    ∃ v, o.value group = .ok v := by
  cases o with
  | column c => exact ⟨_, rfl⟩
  | sum c => cases h
  | verbatim sql => exact ⟨_, rfl⟩

/-- What holds of every output that is no sum, and of the sum of the downloads, holds of all that
the report gives or is sorted by. -/
theorem forall_downloads {P : Output → Prop} (hother : ∀ o : Output, o.isSum = false → P o)
    (hsum : P downloadSum) (r : Report Unit) (hr : r.definition = downloads) :
    (∀ o ∈ r.definition.source.outputs, P o) ∧
      ∀ asked, ∀ o ∈ r.order asked, ∃ output d, o = .by output d ∧ P output := by
  have hP : ∀ o : Output, o.isSum = false ∨ o = downloadSum → P o := by
    rintro o (ho | rfl)
    · exact hother o ho
    · exact hsum
  have houtputs : ∀ o ∈ downloads.source.outputs, o.isSum = false ∨ o = downloadSum := by decide
  have hcolumns : ∀ c ∈ downloads.columns, ∀ o ∈ c.order, o.isSum = false ∨ o = downloadSum := by
    decide
  rw [hr]
  refine ⟨fun o ho => hP o (houtputs o ho), Report.forall_order ?_ ?_⟩
  · rw [hr]
    exact fun c hc o ho d => ⟨o, d, rfl, hP o (hcolumns c hc o ho)⟩
  · rw [hr]
    exact List.forall_mem_cons.2 ⟨⟨_, _, rfl, hsum⟩,
      List.forall_mem_singleton.2 ⟨_, _, rfl, hother _ rfl⟩⟩

/-- The sum of the downloads of some counts is exact while their sizes fit. -/
theorem exists_downloadSum (db : Database) {stats : List Row} (hne : stats ≠ [])
    (hwhole : ∀ s ∈ stats, ∃ n : Int64, s.value "downloads" = .integer n)
    (hfits : (stats.map fun s => (downloadsOf s).natAbs).sum < 0x8000000000000000) :
    ∃ n : Int64, downloadSum.value (stats.map (downloadEnv db)) = .ok (.integer n) ∧
      n.toInt = (stats.map downloadsOf).sum := by
  let ns := stats.map fun s => (s.value "downloads").toInteger
  have hvalues : (stats.map (downloadEnv db)).map (·.value (col "s" "downloads")) =
      ns.map Value.integer := by
    rw [List.map_map, List.map_map]
    refine List.map_congr_left fun s hs => ?_
    obtain ⟨n, hn⟩ := hwhole s hs
    change s.value "downloads" = .integer (s.value "downloads").toInteger
    rw [hn]
    rfl
  obtain ⟨n, hn, hsum⟩ := @sumValues_integers ns (by simpa [ns] using hne)
    (by rw [List.map_map]; exact hfits)
  refine ⟨n, ?_, by rw [hsum, List.map_map]; rfl⟩
  change sumValues ((stats.map (downloadEnv db)).map (·.value (col "s" "downloads"))) = _
  rw [hvalues, hn]

/-! ### The counts of a window -/

/-- The counts that the report looks at. -/
def Database.statsInWindow (db : Database) (now : Int64) : List Row :=
  db.pluginStats.filter fun s => Relation.truth .atLeast (s.value "timeperiod")
    (.integer (now - 90 * day)) = some true

/-- The groups of the report are the counts in the window of each plugin that has some. -/
theorem exists_groups_window {db : Database} (hdb : db.Sound) (actor : Actor)
    (settings : Settings) (now : Int64) :
    ∃ plugins : List Row, PluginsOf db (db.statsInWindow now) plugins ∧
      (db.report downloads actor settings now).selection.groups db [.integer (now - 90 * day)] =
        plugins.map fun p =>
          (rowsOf db.pluginOf (db.statsInWindow now) p).map (downloadEnv db) := by
  have henvs : (db.report downloads actor settings now).selection.envs db
      [.integer (now - 90 * day)] = (db.statsInWindow now).map (downloadEnv db) := by
    refine Selection.envs_of_tables rfl (envs_download hdb _) fun s _ => ?_
    change Clause.holds _ [.atom (againstParameter (.column (col "s" "timeperiod")) .atLeast)] = _
    rw [Clause.holds_atom]
    rfl
  obtain ⟨plugins, hplugins, hgroups⟩ :=
    exists_groups_downloads hdb fun s (hs : s ∈ db.statsInWindow now) => (List.mem_filter.1 hs).1
  refine ⟨plugins, hplugins, ?_⟩
  change groupEnvs downloadGrouping ((db.report downloads actor settings now).selection.envs db
    [.integer (now - 90 * day)]) = _
  rw [henvs, hgroups]

/-- With whole numbers as times, the counts in the window are those since its start. -/
theorem statsInWindow_eq {db : Database} (hwhole : db.CountsAreWhole) {now : Int64}
    (hnow : -0x8000000000000000 ≤ now.toInt - 90 * 86400) :
    db.statsInWindow now = db.statsSince (now.toInt - 90 * 86400) := by
  have hwindow : (90 * day).toInt = 90 * 86400 := by decide
  refine List.filter_congr fun s hs => decide_eq_decide.2 ?_
  obtain ⟨t, ht⟩ := hwhole.time s hs
  rw [ht, truth_since_iff (by decide) (by rw [hwindow]; exact hnow), hwindow, Value.toInteger]

/-! ### The report -/

theorem downloadCells_eq_ok {record : Record} {f : Formatter} {cells : Cells}
    (h : downloadCells record f = .ok cells) :
    cells.get? "plugin" = some (pluginCell record f) ∧
      cells.get? "category" = some (.text (Text.orDash (record.text 2))) ∧
      cells.get? "downloads" = some (.text (Text.grouped (record.int 3))) := by
  cases h
  simp [Cells.get?_insert]

section Group

variable {db : Database} {start : Int} {p : Row} {n : Int64}
  (hsum : n.toInt = ((db.statsOf start p).map downloadsOf).sum)

include hsum

/-- The record of the counts of a plugin. -/
theorem outputs_downloads {s : Row} {rest : List Row} (hstats : db.statsOf start p = s :: rest)
    (hplugin : db.pluginOf s = p)
    (hvalue : downloadSum.value ((db.statsOf start p).map (downloadEnv db)) = .ok (.integer n)) :
    downloadSource.outputs.map (·.valueOf ((db.statsOf start p).map (downloadEnv db))) =
      downloadRecord db start p := by
  have hcolumn : ∀ column, (out "p" column).valueOf ((db.statsOf start p).map (downloadEnv db)) =
      p.value column := by
    intro column
    rw [hstats, ← hplugin]
    rfl
  have hcategory : (out "c" "name").valueOf ((db.statsOf start p).map (downloadEnv db)) =
      joinedValue (db.categoryOf p) "name" := by
    rw [hstats, ← hplugin]
    exact (downloadEnv db s).value_eq_joinedValue rfl "name"
  have htotal : downloadSum.valueOf ((db.statsOf start p).map (downloadEnv db)) =
      .integer (.ofInt ((db.statsOf start p).map downloadsOf).sum) := by
    rw [Output.valueOf, hvalue, ← hsum, Int64.ofInt_toInt]
  simp only [downloadSource, List.map_cons, List.map_nil, hcolumn, hcategory, htotal]
  rfl

/-- The cells of the counts of a plugin. -/
theorem showsDownloads {f : Formatter} {cells : Cells}
    (h : downloadCells (downloadRecord db start p) f = .ok cells) :
    ShowsDownloads db start f p cells := by
  obtain ⟨hlink, hcategory, hdownloads⟩ := downloadCells_eq_ok h
  refine ⟨hlink, hcategory, n, hsum, hdownloads.trans ?_⟩
  have hn : Int64.ofInt ((db.statsOf start p).map downloadsOf).sum = n := by
    rw [← hsum, Int64.ofInt_toInt]
  exact congrArg (fun m => some (Cell.text (Text.grouped m))) hn

end Group

/-- A report whose groups are the counts of plugins shows the downloads of each. -/
theorem showsEach_downloads {db : Database} {start : Int} {plugins : List Row} {actor : Actor}
    {settings : Settings} {now : Int64}
    (hgroups : (db.report downloads actor settings now).selection.groups db
      [.integer (now - 90 * day)] = plugins.map fun p => (db.statsOf start p).map (downloadEnv db))
    (hfirst : ∀ p ∈ plugins, ∃ s rest, db.statsOf start p = s :: rest ∧ db.pluginOf s = p)
    (hsum : ∀ p ∈ plugins, ∃ n : Int64,
      downloadSum.value ((db.statsOf start p).map (downloadEnv db)) = .ok (.integer n) ∧
        n.toInt = ((db.statsOf start p).map downloadsOf).sum) :
    (db.report downloads actor settings now).ShowsEach db plugins (downloadRecord db start)
      (ShowsDownloads db start (Formatter.ofSettings settings)) := by
  have hvalues : ∀ p ∈ plugins, (∀ o ∈ downloads.source.outputs, ∃ v,
      o.value ((db.statsOf start p).map (downloadEnv db)) = .ok v) ∧
        ∀ asked, ∀ o ∈ (db.report downloads actor settings now).order asked, ∃ v,
          o.value ((db.statsOf start p).map (downloadEnv db)) = .ok v := by
    intro p hp
    obtain ⟨n, hn, -⟩ := hsum p hp
    obtain ⟨houtputs, horder⟩ := forall_downloads (fun _ ho => Output.exists_value ho) ⟨_, hn⟩
      (db.report downloads actor settings now) rfl
    refine ⟨houtputs, fun asked o ho => ?_⟩
    obtain ⟨output, d, rfl, hv⟩ := horder asked o ho
    exact hv
  refine Report.showsEach_of_groups rfl (by simp [Catalogue.all, Database.report]) hgroups
    (fun asked p hp => (hvalues p hp).2 asked) (fun p hp => (hvalues p hp).1) (fun p hp => ?_)
    fun p hp cells h => ?_
  · obtain ⟨n, hn, hexact⟩ := hsum p hp
    obtain ⟨s, rest, hcons, hplugin⟩ := hfirst p hp
    exact outputs_downloads hexact hcons hplugin hn
  · obtain ⟨n, -, hexact⟩ := hsum p hp
    exact showsDownloads hexact h

/-- **The downloads report conserves downloads.** On every reachable database with whole numbers as
times and counts, and where the sizes of each plugin's counts in the last ninety days add up to
less than 2^63, the report has one row for each plugin with such a count, which shows the exact sum
of these counts; and the sums add up to the sum of all counts of the last ninety days. -/
theorem downloadTotals_of_database {db : Database} (hdb : db.Reached)
    (hwhole : db.CountsAreWhole) {now : Int64}
    (hnow : -0x8000000000000000 ≤ now.toInt - 90 * 86400)
    (hfits : ∀ p ∈ db.plugins, ((db.statsOf (now.toInt - 90 * 86400) p).map fun s =>
      (downloadsOf s).natAbs).sum < 0x8000000000000000)
    {actor : Actor} (hview : downloads.canView actor = true) (settings : Settings) :
    ∃ r plugins, Report.openFor downloads actor settings now db.store = .ok r ∧ plugins.Nodup ∧
      (∀ p, p ∈ plugins ↔ p ∈ db.plugins ∧
        ∃ s ∈ db.statsSince (now.toInt - 90 * 86400), s.value "pluginid" = .integer p.id) ∧
      r.ShowsEach db plugins (downloadRecord db (now.toInt - 90 * 86400))
        (ShowsDownloads db (now.toInt - 90 * 86400) r.formatter) ∧
      (plugins.map fun p => ((db.statsOf (now.toInt - 90 * 86400) p).map downloadsOf).sum).sum =
        ((db.statsSince (now.toInt - 90 * 86400)).map downloadsOf).sum := by
  have hstats : ∀ s ∈ db.statsSince (now.toInt - 90 * 86400), s ∈ db.pluginStats :=
    fun s hs => (List.mem_filter.1 hs).1
  obtain ⟨plugins, hplugins, hgroups⟩ := exists_groups_window hdb.sound actor settings now
  rw [statsInWindow_eq hwhole hnow] at hplugins hgroups
  have hrows : ∀ p ∈ plugins, rowsOf db.pluginOf (db.statsSince (now.toInt - 90 * 86400)) p =
      db.statsOf (now.toInt - 90 * 86400) p :=
    fun p hp => rowsOf_pluginOf hdb.sound hstats (hplugins.mem p hp)
  have hfirst : ∀ p ∈ plugins, ∃ s rest, db.statsOf (now.toInt - 90 * 86400) p = s :: rest ∧
      db.pluginOf s = p := fun p hp => hrows p hp ▸ hplugins.first p hp
  refine ⟨_, plugins, Database.openFor_eq_ok hview settings now, hplugins.nodup,
    fun p => hplugins.mem_iff hdb.sound hstats, ?_, ?_⟩
  · refine showsEach_downloads (hgroups.trans (List.map_congr_left fun p hp => by rw [hrows p hp]))
      hfirst fun p hp => ?_
    obtain ⟨s, rest, hcons, -⟩ := hfirst p hp
    exact exists_downloadSum db (hcons ▸ List.cons_ne_nil s rest)
      (fun s hs => hwhole.downloads s (hstats s (List.mem_filter.1 hs).1))
      (hfits p (hplugins.mem p hp))
  · have hsums : plugins.map (fun p =>
        ((db.statsOf (now.toInt - 90 * 86400) p).map downloadsOf).sum) = plugins.map fun p =>
          ((rowsOf db.pluginOf (db.statsSince (now.toInt - 90 * 86400)) p).map downloadsOf).sum :=
      List.map_congr_left fun p hp => by rw [hrows p hp]
    rw [hsums]
    exact sum_map_groups hplugins.nodup hplugins.cover downloadsOf

/-- A directory with two plugins of one name and without a category, which are downloaded at one
time after another. -/
def namesakes : Database := .founded
  [(.plugins, [("frankenstyle", .text "mod_a"), ("name", .text "A")]),
    (.plugins, [("frankenstyle", .text "mod_b"), ("name", .text "A")]),
    (.pluginStats,
      [("pluginid", .integer 1), ("timeperiod", .integer 1), ("downloads", .integer 5)]),
    (.pluginStats,
      [("pluginid", .integer 1), ("timeperiod", .integer 2), ("downloads", .integer 7)]),
    (.pluginStats,
      [("pluginid", .integer 2), ("timeperiod", .integer 3), ("downloads", .integer 9)]),
    (.pluginStats, [("pluginid", .integer 1), ("timeperiod", .integer 4)])]

theorem reached_namesakes : namesakes.Reached := Database.reached_founded rfl

theorem countsAreWhole_namesakes : namesakes.CountsAreWhole where
  time := by
    have h : ∀ s ∈ namesakes.pluginStats, (s.value "timeperiod").kindName = "Integer" := by
      decide +kernel
    exact fun s hs => Value.exists_eq_integer (h s hs)
  downloads := by
    have h : ∀ s ∈ namesakes.pluginStats, (s.value "downloads").kindName = "Integer" := by
      decide +kernel
    exact fun s hs => Value.exists_eq_integer (h s hs)

/-- Two plugins of one name stay apart, and a window that starts at the second count. -/
theorem downloadTotals_of_namesakes :
    namesakes.Reached ∧ namesakes.CountsAreWhole ∧
      -0x8000000000000000 ≤ (7776002 : Int64).toInt - 90 * 86400 ∧
      (∀ p ∈ namesakes.plugins, ((namesakes.statsOf ((7776002 : Int64).toInt - 90 * 86400) p).map
        fun s => (downloadsOf s).natAbs).sum < 0x8000000000000000) ∧
      downloads.canView ⟨1, "ada", "Ada", false, [viewReports]⟩ = true ∧
      ∃ r plugins, Report.openFor downloads ⟨1, "ada", "Ada", false, [viewReports]⟩
          (Settings.defaults "") 7776002 namesakes.store = .ok r ∧ plugins.Nodup ∧
        (∀ p, p ∈ plugins ↔ p ∈ namesakes.plugins ∧
          ∃ s ∈ namesakes.statsSince ((7776002 : Int64).toInt - 90 * 86400),
            s.value "pluginid" = .integer p.id) ∧
        r.ShowsEach namesakes plugins
          (downloadRecord namesakes ((7776002 : Int64).toInt - 90 * 86400))
          (ShowsDownloads namesakes ((7776002 : Int64).toInt - 90 * 86400) r.formatter) ∧
        (plugins.map fun p =>
          ((namesakes.statsOf ((7776002 : Int64).toInt - 90 * 86400) p).map downloadsOf).sum).sum =
          ((namesakes.statsSince ((7776002 : Int64).toInt - 90 * 86400)).map downloadsOf).sum := by
  have hnow : -0x8000000000000000 ≤ (7776002 : Int64).toInt - 90 * 86400 := by decide
  have hfits : ∀ p ∈ namesakes.plugins,
      ((namesakes.statsOf ((7776002 : Int64).toInt - 90 * 86400) p).map fun s =>
        (downloadsOf s).natAbs).sum < 0x8000000000000000 := by decide +kernel
  have hview : downloads.canView ⟨1, "ada", "Ada", false, [viewReports]⟩ = true := rfl
  exact ⟨reached_namesakes, countsAreWhole_namesakes, hnow, hfits, hview,
    downloadTotals_of_database reached_namesakes countsAreWhole_namesakes hnow hfits hview _⟩

end PagedReports
