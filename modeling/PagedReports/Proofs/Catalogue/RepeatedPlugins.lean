import PagedReports.Proofs.Catalogue.OwnContributions
import PagedReports.Proofs.Sql.KeyOrder

/-!
# Plugins that are repeated

The report on the actor's own plugins has a row for each contribution, and nothing keeps a user
from contributing to a plugin more than once. A plugin stands in the report as often as the actor
contributes to it (`Report.Lists.repeats`), and so it may show twice, on one page or on two
(`plugin_repeated_in_duet`). The default order ends with the number of the plugin: it tells the
rows of different plugins apart, but not those of one plugin. Only an actor who contributes no
more than once to each plugin sees every plugin once, in an order without ties
(`Report.Lists.strict`).
-/

namespace PagedReports

open Sql Catalogue

/-! ### Orders that tell things apart -/

/-- Lists of keys are told apart where one of their values is. -/
theorem compareKeys_ne_eq {α : Type} {order : List α} {direction : α → Direction}
    {value value' : α → Value} {o : α} (ho : o ∈ order)
    (hne : (value o).compare (value' o) ≠ .eq) :
    compareKeys (order.map direction) (order.map value) (order.map value') ≠ .eq := by
  induction order with
  | nil => cases ho
  | cons first order ih =>
    simp only [List.map_cons, compareKeys, ne_eq, Ordering.then_eq_eq, not_and]
    intro hfirst
    rcases List.mem_cons.1 ho with rfl | ho
    · exact absurd (directedOrder_eq_eq_iff.1 hfirst) hne
    · exact ih ho

/-- Of things that stand in an order without ties there is no other arrangement in that order. -/
theorem eq_of_perm_of_pairwise_lt {α : Type} {cmp : α → α → Ordering} {xs ys : List α}
    (hxs : xs.Pairwise fun a b => cmp a b = .lt) (hperm : ys.Perm xs)
    (hys : ys.Pairwise fun a b => cmp b a ≠ .lt) : ys = xs := by
  induction xs generalizing ys with
  | nil => exact hperm.eq_nil
  | cons x xs ih =>
    obtain ⟨hfirst, hrest⟩ := List.pairwise_cons.1 hxs
    cases ys with
    | nil => exact absurd hperm.length_eq (by simp)
    | cons y ys =>
      obtain ⟨hfirst', hrest'⟩ := List.pairwise_cons.1 hys
      have hxy : y = x := by
        rcases List.mem_cons.1 (hperm.mem_iff.1 List.mem_cons_self) with hy | hy
        · exact hy
        · rcases List.mem_cons.1 (hperm.mem_iff.2 List.mem_cons_self) with hx | hx
          · exact hx.symm
          · exact absurd (hfirst y hy) (hfirst' x hx)
      subst hxy
      rw [ih hrest hperm.cons_inv hrest']

/-! ### Parts of a list -/

/-- What is on a page of a list. -/
def Paging.part {α : Type} (p : Paging) (xs : List α) : List α :=
  (xs.drop (p.page.toNat * max p.perPage.toNat 1)).take (max p.perPage.toNat 1)

theorem Paging.slice_map {α : Type} (p : Paging) (f : α → Record) (xs : List α) :
    p.slice (xs.map f) = (p.part xs).map f := by
  rw [slice, part, ← List.map_drop, ← List.map_take]

/-- What is on an earlier page of a list comes before what is on a later one. -/
theorem Paging.pairwise_part {α : Type} {R : α → α → Prop} {xs : List α} (h : xs.Pairwise R)
    (p : Paging) {k l : UInt64} (hkl : k < l) {a b : α} (ha : a ∈ (p.atPage k).part xs)
    (hb : b ∈ (p.atPage l).part xs) : R a b := by
  have hsplit : (xs.take (l.toNat * max p.perPage.toNat 1) ++
      xs.drop (l.toNat * max p.perPage.toNat 1)).Pairwise R := by
    rwa [List.take_append_drop]
  refine (List.pairwise_append.1 hsplit).2.2 a ?_ b (List.mem_of_mem_take hb)
  have hnext : (k.toNat + 1) * max p.perPage.toNat 1 ≤ l.toNat * max p.perPage.toNat 1 :=
    Nat.mul_le_mul_right _ (UInt64.lt_iff_toNat_lt.1 hkl)
  have hpart : a ∈ xs.take ((k.toNat + 1) * max p.perPage.toNat 1) := by
    rw [Nat.succ_mul, List.take_add]
    exact List.mem_append_right _ ha
  exact (List.take_prefix_take_left hnext).subset hpart

/-! ### Contributions as rows -/

/-- How two contributions compare in an order. -/
def compareContributions (db : Database) (order : List OrderTerm) (a b : Row) : Ordering :=
  compareKeys (order.map OrderTerm.direction) (order.map (·.valueIn (contributionEnv db a)))
    (order.map (·.valueIn (contributionEnv db b)))

/-- The contributions of a user in an order. -/
def Database.contributionsIn (db : Database) (order : List OrderTerm) (user : Int64) : List Row :=
  sortByKeys (order.map OrderTerm.direction) ((db.contributionsOf user).map fun c =>
    (order.map (·.valueIn (contributionEnv db c)), c))

theorem contributionsIn_perm (db : Database) (order : List OrderTerm) (user : Int64) :
    (db.contributionsIn order user).Perm (db.contributionsOf user) :=
  sortByKeys_map_perm _ _ _

theorem pairwise_contributionsIn (db : Database) (order : List OrderTerm) (user : Int64) :
    (db.contributionsIn order user).Pairwise fun a b => (compareContributions db order a b).isLE :=
  pairwise_sortByKeys fun _ _ => by rw [List.length_map, List.length_map]

/-- A user contributes to each plugin in one row at most. -/
def Database.ContributesOnce (db : Database) (user : Int64) : Prop :=
  (db.contributionsOf user).Pairwise fun a b => a.value "pluginid" ≠ b.value "pluginid"

/-- A report on own plugins, asked for in some way, has these contributions of a user as its rows,
one after another. -/
structure Report.Lists (r : Report Unit) (db : Database) (user : Int64) (asked : Paging)
    (rows : List Row) : Prop where
  /-- They are the contributions of the user, each once. -/
  perm : rows.Perm (db.contributionsOf user)
  /-- The unpaged rows of the report are theirs. -/
  records : (r.listing asked).records db r.filter.params = .ok (rows.map (contributionRecord db))
  /-- Each is shown with the plugin that it is a contribution to. -/
  link : ∀ c ∈ rows, ∀ cells, r.definition.transform (contributionRecord db c) r.formatter =
    .ok cells → cells.get? "plugin" = some (r.formatter.linkTo (db.pluginOf c))
  /-- Where a store can address them and dates can be written, each page shows its part of them. -/
  pages : db.Addressable → r.formatter.WritesDates → ∀ page, ∃ s,
    r.fetchPage (asked.atPage page) (Session.start ()) =
      .ok (((asked.atPage page).part rows).map fun c => r.shown (contributionRecord db c)) s
  /-- A plugin stands among them as often as the user contributes to it. -/
  repeats : ∀ plugin ∈ db.plugins, (rows.filter fun c => db.pluginOf c = plugin).length =
    ((db.contributionsOf user).filter fun c => c.value "pluginid" = .integer plugin.id).length
  /-- No plugin stands there twice exactly if the user contributes to each of them once. -/
  once_iff : (rows.map db.pluginOf).Nodup ↔ db.ContributesOnce user
  /-- Then the order has no ties, and there is no other arrangement of the rows in that order. -/
  strict : db.ContributesOnce user →
    (rows.Pairwise fun a b => compareContributions db (r.order asked) a b = .lt) ∧
      ∀ other : List Row, other.Perm rows →
        (other.Pairwise fun a b => compareContributions db (r.order asked) b a ≠ .lt) →
          other = rows
  /-- Then no plugin is on two pages. -/
  apart : db.ContributesOnce user → ∀ k l, k ≠ l → ∀ a ∈ (asked.atPage k).part rows,
    ∀ b ∈ (asked.atPage l).part rows, db.pluginOf a ≠ db.pluginOf b

/-- Where dates can be written, a row links to the plugin of its contribution. -/
theorem Report.Lists.get?_shown {r : Report Unit} {db : Database} {user : Int64} {asked : Paging}
    {rows : List Row} (h : r.Lists db user asked rows) (hd : r.definition.Presents)
    (hdates : r.formatter.WritesDates) {c : Row} (hc : c ∈ rows) :
    (r.shown (contributionRecord db c)).get? "plugin" =
      some (r.formatter.linkTo (db.pluginOf c)) := by
  obtain ⟨cells, hcells⟩ := hd (contributionRecord db c) r.formatter hdates
  rw [Report.shown, hcells]
  exact h.link c hc cells hcells

section Sound

variable {db : Database} (hdb : db.Sound)

include hdb

/-- Contributions are to the same plugin if they have the same number of a plugin. -/
theorem pluginOf_eq_iff {a b : Row} (ha : a ∈ db.contributors) (hb : b ∈ db.contributors) :
    db.pluginOf a = db.pluginOf b ↔ a.value "pluginid" = b.value "pluginid" := by
  obtain ⟨hpa, hida⟩ := hdb.pluginOf (t := .contributors) ha (by decide) (by decide)
  obtain ⟨hpb, hidb⟩ := hdb.pluginOf (t := .contributors) hb (by decide) (by decide)
  rw [hida, hidb, Value.integer.injEq]
  exact ⟨congrArg Row.id, hdb.eq_of_id_eq hpa hpb⟩

/-- The default order tells contributions to different plugins apart. -/
theorem compareContributions_ne_eq {a b : Row} (ha : a ∈ db.contributors)
    (hb : b ∈ db.contributors) (hne : db.pluginOf a ≠ db.pluginOf b) {order : List OrderTerm}
    (horder : .by (out "p" "id") .ascending ∈ order) :
    compareContributions db order a b ≠ .eq := by
  obtain ⟨hpa, -⟩ := hdb.pluginOf (t := .contributors) ha (by decide) (by decide)
  obtain ⟨hpb, -⟩ := hdb.pluginOf (t := .contributors) hb (by decide) (by decide)
  refine compareKeys_ne_eq horder ?_
  change (Value.integer (db.pluginOf a).id).compare (.integer (db.pluginOf b).id) ≠ .eq
  rw [ne_eq, Value.compare_integer_eq_iff]
  exact fun hid => hne (hdb.eq_of_id_eq hpa hpb hid)

/-- Among the contributions of a user, in whatever order, no plugin is repeated exactly if the user
contributes to each of them once. -/
theorem nodup_pluginOf_iff {rows : List Row} {user : Int64}
    (hperm : rows.Perm (db.contributionsOf user)) :
    (rows.map db.pluginOf).Nodup ↔ db.ContributesOnce user := by
  rw [(hperm.map db.pluginOf).nodup_iff, List.Nodup, List.pairwise_map]
  exact List.Pairwise.iff_of_mem fun ha hb => not_congr
    (pluginOf_eq_iff hdb (List.mem_filter.1 ha).1 (List.mem_filter.1 hb).1)

/-- Where a user contributes to each plugin once, an order that ends with their numbers has no
ties. -/
theorem pairwise_lt_contributionsIn {order : List OrderTerm} {user : Int64}
    (horder : .by (out "p" "id") .ascending ∈ order) (honce : db.ContributesOnce user) :
    (db.contributionsIn order user).Pairwise fun a b => compareContributions db order a b = .lt := by
  have hperm := contributionsIn_perm db order user
  have hapart := List.pairwise_map.1 ((nodup_pluginOf_iff hdb hperm).2 honce)
  have hmem : ∀ c ∈ db.contributionsIn order user, c ∈ db.contributors := fun c hc =>
    (List.mem_filter.1 (hperm.mem_iff.1 hc)).1
  refine ((pairwise_contributionsIn db order user).and hapart).imp_of_mem fun {a b} ha hb hab => ?_
  exact (Ordering.isLE_iff_eq_lt_or_eq_eq.1 hab.1).resolve_right
    (compareContributions_ne_eq hdb (hmem a ha) (hmem b hb) hab.2 horder)

section Opened

variable (actor : Actor) (settings : Settings) (now : Int64) (asked : Paging)

theorem records_contributionsIn :
    ((db.report myPlugins actor settings now).listing asked).records db [.integer actor.id] =
      .ok ((db.contributionsIn ((db.report myPlugins actor settings now).order asked)
        actor.id).map (contributionRecord db)) :=
  (Report.plain_listing (r := db.report myPlugins actor settings now) rfl asked).records_of_envs
    (envs_contribution_filtered hdb actor settings now) fun _ => rfl

/-- Whatever is asked for, the rows of the report are the contributions of the actor. -/
theorem lists_contributionsIn : (db.report myPlugins actor settings now).Lists db actor.id asked
    (db.contributionsIn ((db.report myPlugins actor settings now).order asked) actor.id) := by
  have hdefault : .by (out "p" "id") .ascending ∈
      (db.report myPlugins actor settings now).order asked := by
    have hlast : .by (out "p" "id") .ascending ∈ myPlugins.defaultOrder := by decide
    exact List.mem_append_right _ hlast
  have hperm :=
    contributionsIn_perm db ((db.report myPlugins actor settings now).order asked) actor.id
  have honce := nodup_pluginOf_iff hdb hperm
  refine ⟨hperm, records_contributionsIn hdb actor settings now asked,
    fun c _ cells hcells => (contributionCells_eq_ok hcells).1, fun hroom hdates page => ?_,
    fun plugin hplugin => ?_, honce, fun h => ?_, fun h k l hkl a ha b hb => ?_⟩
  · have hfew : (db.contributionsOf actor.id).length < 0x8000000000000000 :=
      Nat.lt_of_le_of_lt (List.length_filter_le _ _) (hroom .contributors)
    obtain ⟨s, hpage⟩ := ((showsEach_contribution hdb actor settings now).pages hfew hdates asked _
      (records_contributionsIn hdb actor settings now asked)).page page
    refine ⟨s, ?_⟩
    rw [hpage, Paging.slice_map, List.map_map]
    rfl
  · rw [(hperm.filter _).length_eq]
    refine congrArg List.length (List.filter_congr fun c hc => decide_eq_decide.2 ?_)
    obtain ⟨hp, hid⟩ :=
      hdb.pluginOf (t := .contributors) (List.mem_filter.1 hc).1 (by decide) (by decide)
    rw [hid, Value.integer.injEq]
    exact ⟨congrArg Row.id, hdb.eq_of_id_eq hp hplugin⟩
  · have hstrict := pairwise_lt_contributionsIn hdb hdefault h
    exact ⟨hstrict, fun other hother => eq_of_perm_of_pairwise_lt hstrict hother⟩
  · have hapart := List.pairwise_map.1 (honce.2 h)
    rcases UInt64.lt_or_lt_of_ne hkl with hlt | hlt
    · exact Paging.pairwise_part hapart asked hlt ha hb
    · exact (Paging.pairwise_part hapart asked hlt hb ha).symm

end Opened

end Sound

/-! ### The report -/

/-- **A plugin is in the actor's report as often as the actor contributes to it.** On every
reachable database and whatever is asked for, the rows of the report are the contributions of the
actor. No two of them are for the same plugin exactly if the actor contributes to each plugin once,
and then the default order has no ties, and no plugin is on two pages or moves between them. -/
theorem repeatedPlugins_of_database {db : Database} (hdb : db.Reached) {actor : Actor}
    (hview : myPlugins.canView actor = true) (settings : Settings) (now : Int64) :
    ∃ r, Report.openFor myPlugins actor settings now db.store = .ok r ∧
      ∀ asked, ∃ rows, r.Lists db actor.id asked rows :=
  ⟨_, Database.openFor_eq_ok hview settings now, fun asked =>
    ⟨_, lists_contributionsIn hdb.sound actor settings now asked⟩⟩

/-- One contribution to each of two plugins: the order is strict. -/
theorem repeatedPlugins_of_studio :
    studio.Reached ∧ myPlugins.canView ⟨1, "ada", "-", false, [editOwnPlugins]⟩ = true ∧
      studio.ContributesOnce 1 ∧
      ∃ r, Report.openFor myPlugins ⟨1, "ada", "-", false, [editOwnPlugins]⟩
          (Settings.defaults "") 0 studio.store = .ok r ∧
        ∃ rows, r.Lists studio 1 ⟨0, 1, none, .ascending⟩ rows ∧ (rows.map studio.pluginOf).Nodup := by
  have hview : myPlugins.canView ⟨1, "ada", "-", false, [editOwnPlugins]⟩ = true := rfl
  have honce : studio.ContributesOnce 1 := by
    unfold Database.ContributesOnce
    decide +kernel
  obtain ⟨r, hopen, hlists⟩ :=
    repeatedPlugins_of_database reached_studio hview (Settings.defaults "") 0
  obtain ⟨rows, hrows⟩ := hlists ⟨0, 1, none, .ascending⟩
  exact ⟨reached_studio, hview, honce, r, hopen, rows, hrows, hrows.once_iff.2 honce⟩

/-- A directory in which one user is lead maintainer of a plugin and contributes to it. -/
def duet : Database := .founded
  [(.users, [("username", .text "ada")]),
    (.plugins, [("frankenstyle", .text "mod_a"), ("name", .text "A")]),
    (.contributors, [("pluginid", .integer 1), ("userid", .integer 1), ("maintainer", .integer 1)]),
    (.contributors, [("pluginid", .integer 1), ("userid", .integer 1), ("maintainer", .integer 0)])]

theorem reached_duet : duet.Reached := Database.reached_founded rfl

/-- The plugin of the duet. -/
def duetPlugin : Row := duet.pluginOf ⟨1, [("pluginid", .integer 1)]⟩

/-- The report of a user who contributes twice to a plugin has two rows for it, which the default
order does not tell apart, and with one row to a page both pages show it. -/
theorem plugin_repeated_in_duet :
    duet.Reached ∧ myPlugins.canView ⟨1, "ada", "-", false, [editOwnPlugins]⟩ = true ∧
      ∃ r a b, Report.openFor myPlugins ⟨1, "ada", "-", false, [editOwnPlugins]⟩
          (Settings.defaults "") 0 duet.store = .ok r ∧
        r.Lists duet 1 ⟨0, 1, none, .ascending⟩ [a, b] ∧ duet.pluginOf a = duet.pluginOf b ∧
        compareContributions duet myPlugins.defaultOrder a b = .eq ∧
        ∃ first second s s', r.fetchPage ⟨0, 1, none, .ascending⟩ (Session.start ()) =
            .ok [first] s ∧
          r.fetchPage ⟨1, 1, none, .ascending⟩ (Session.start ()) = .ok [second] s' ∧
          first.get? "plugin" = some (.link "https://moodle.org/plugins/mod_a" "A") ∧
          second.get? "plugin" = some (.link "https://moodle.org/plugins/mod_a" "A") := by
  have hview : myPlugins.canView ⟨1, "ada", "-", false, [editOwnPlugins]⟩ = true := rfl
  have hplugin : ∀ c ∈ duet.contributionsOf 1, duet.pluginOf c = duetPlugin := by decide +kernel
  have htied : ∀ a ∈ duet.contributionsOf 1, ∀ b ∈ duet.contributionsOf 1,
      compareContributions duet myPlugins.defaultOrder a b = .eq := by decide +kernel
  have hlink : (Formatter.ofSettings (Settings.defaults "")).linkTo duetPlugin =
      .link "https://moodle.org/plugins/mod_a" "A" := by decide +kernel
  have hroom : duet.Addressable := by
    intro t
    cases t <;> decide +kernel
  have hdates := writesDates_defaults ""
  have hrows := lists_contributionsIn reached_duet.sound ⟨1, "ada", "-", false, [editOwnPlugins]⟩
    (Settings.defaults "") 0 ⟨0, 1, none, .ascending⟩
  have htwo : (duet.contributionsOf 1).length = 2 := by decide +kernel
  obtain ⟨a, b, hab⟩ := List.length_eq_two.1 (hrows.perm.length_eq.trans htwo)
  rw [hab] at hrows
  have ha : a ∈ duet.contributionsOf 1 := hrows.perm.mem_iff.1 List.mem_cons_self
  have hb : b ∈ duet.contributionsOf 1 :=
    hrows.perm.mem_iff.1 (List.mem_cons_of_mem _ List.mem_cons_self)
  have hshown : ∀ c ∈ [a, b], ((duet.report myPlugins ⟨1, "ada", "-", false, [editOwnPlugins]⟩
      (Settings.defaults "") 0).shown (contributionRecord duet c)).get? "plugin" =
        some (.link "https://moodle.org/plugins/mod_a" "A") := by
    intro c hc
    rw [hrows.get?_shown (Catalogue.presents (by simp [Catalogue.all, Database.report])) hdates hc,
      hplugin c (hrows.perm.mem_iff.1 hc)]
    exact congrArg some hlink
  obtain ⟨s, hfirst⟩ := hrows.pages hroom hdates 0
  obtain ⟨s', hsecond⟩ := hrows.pages hroom hdates 1
  exact ⟨reached_duet, hview, _, a, b, Database.openFor_eq_ok hview _ _, hrows,
    (hplugin a ha).trans (hplugin b hb).symm, htied a ha b hb, _, _, s, s', hfirst, hsecond,
    hshown a List.mem_cons_self, hshown b (List.mem_cons_of_mem _ List.mem_cons_self)⟩

end PagedReports
