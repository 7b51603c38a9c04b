import PagedReports.Proofs.Database.SampleFields

/-!
# Loading the sample set

Table by table, the sample set is loaded or refused, and it is refused only if a sample user name or
component name is taken, or if a table has no numbers left (`Sample.settles_users` and so on).
Otherwise the complete set is added, and every row that was there stays
(`Database.Reached.settles_addSample`). Where it was added, nothing is loaded again.
-/

namespace PagedReports

open Sql

namespace Sample

theorem Refused.of_crowded {db : Database} {t : TableName} {e : DatabaseError} {n : Nat}
    (hn : n ≤ 24) (h : 0x10000000000000000 ≤ (db.rows t).length + n) : Refused db e :=
  .full (Nat.le_trans h (Nat.add_le_add_left hn _))

/-! ### Table after table

Of a database `db`, which is reachable, comes `db₁` by the rows that were `added` so far, none of
them in the table that is next. -/

section Stages

variable {db db₁ : Database} {added : TableName → List Row} (hdb : db.Reached)
  (h : db.Gains added db₁)

include hdb h

theorem settles_users (hnone : added .users = []) :
    Settles (db₁.insertMany .users (users.map User.fields))
      (fun result => ∃ rs, result.2 = rs.map Row.id ∧ List.Forall₂ User.IsRow users rs ∧
        db.Gains (Function.update added .users rs) result.1)
      (Refused db) := by
  have hdistinct : users.Pairwise fun u v => u.username ≠ v.username := by decide
  refine (h.settles_insertMany hdb.sound hnone (fun u _ => takes_user u)
    (List.pairwise_map.2 (hdistinct.imp (apart_of_ne rfl (by decide) rfl rfl)))
    fun u _ r hcells => ?_).imp (fun _ h => h) ?_
  · constructor <;> simp [Row.value, hcells, User.fields, List.lookup_cons]
  · rintro e (⟨u, hu, columns, hcolumns, rfl, r, hr, id, hagree⟩ | hfull)
    · obtain rfl := List.mem_singleton.1 hcolumns
      exact .username hu hr (eq_text_of_agree (by decide) rfl hagree)
    · exact .of_crowded (by decide) hfull

/-- The sample users' numbers are new, so that what they are granted is new too. -/
theorem settles_grants (hnone : added .userCapabilities = [])
    (husers : List.Forall₂ User.IsRow users (added .users)) :
    Settles (db₁.insertMany .userCapabilities (grantRows ((added .users).map Row.id)))
      (fun result => ∃ rs, List.Forall₂ (fun g => IsGrant (added .users) g.1 g.2) grants rs ∧
        db.Gains (Function.update added .userCapabilities rs) result.1)
      (Refused db) := by
  obtain ⟨-, hnew, hold⟩ := List.pairwise_append.1 (h.pairwise_ne hdb.sound .users)
  have hrow : ∀ u ∈ users, ∀ user ∈ added .users, User.IsRow u user → ∀ c ∈ u.capabilities,
      ∀ r : Row, r.cells = [("userid", .integer user.id), ("capability", .text c)] →
        IsGrant (added .users) u c r := by
    intro u _ user huser hu c _ r hcells
    refine ⟨⟨user, huser, hu.username, ?_⟩, ?_⟩ <;>
      simp [Row.value, hcells, List.lookup_cons]
  have hapart := pairwise_grantRows (by rw [List.length_map, husers.length_eq])
    (List.pairwise_map.2 hnew)
  refine (h.settles_parts User.capabilities
    (fun _ id c => [("userid", .integer id), ("capability", .text c)]) hdb.sound hnone husers
    (fun u _ user huser _ c _ => takes_grant (h.mem huser) c) hapart hrow).imp (fun _ h => h) ?_
  rintro e (⟨u, user, huser, c, columns, hcolumns, rfl, r, hr, id, hagree⟩ | hfull)
  · obtain rfl := List.mem_singleton.1 hcolumns
    obtain ⟨target, htarget, hvalue⟩ := hdb.sound.reference hr "userid" .users
      (List.mem_singleton_self _) (by decide)
    have heq := hagree "userid" List.mem_cons_self
    rw [hvalue] at heq
    exact absurd (Value.compare_integer_eq_iff.1 heq) (hold target htarget user huser)
  · exact .of_crowded (by decide) hfull

theorem settles_plugins {now : Int64} (hnow : 0 ≤ now.toInt) (hnone : added .plugins = [])
    (hcategories : added .categories = []) :
    Settles (db₁.insertMany .plugins
        (plugins.map fun p => p.fields (db₁.categoryNamed p.category) now))
      (fun result => ∃ rs, result.2 = rs.map Row.id ∧
        List.Forall₂ (Plugin.IsRow db.categories now.toInt) plugins rs ∧
        db.Gains (Function.update added .plugins rs) result.1)
      (Refused db) := by
  have hdistinct : plugins.Pairwise fun p q => p.component ≠ q.component := by decide +kernel
  -- The sample set has no categories, so they are still those of `db`.
  have hkept := h.perm .categories
  rw [hcategories, List.append_nil] at hkept
  have hnamed : ∀ p ∈ plugins,
      (db₁.categoryNamed p.category).Names db₁.categories "name" p.category := fun p hp =>
    categoryNamed_names ((h.grows.reached hdb).firstCategories _ (small_of_mem_plugins p hp).2.1)
  have hrow : ∀ p ∈ plugins, ∀ r : Row,
      r.cells = p.fields (db₁.categoryNamed p.category) now →
        p.IsRow db.categories now.toInt r := by
    intro p hp r hcells
    obtain ⟨hqueued, -, hreleases⟩ := small_of_mem_plugins p hp
    obtain ⟨category, hcategory, hname, hvalue⟩ := hnamed p hp
    refine ⟨?_, ?_, ⟨category, hkept.mem_iff.1 hcategory, hname, ?_⟩, ?_,
      ⟨_, ?_, toInt_daysBefore hnow hqueued⟩, ⟨_, ?_, toInt_daysBefore hnow hqueued⟩,
      fun days hdays =>
        ⟨_, ?_, toInt_daysBefore hnow (hreleases days (List.mem_of_getLast? hdays))⟩⟩ <;>
      simp_all [Row.value, Plugin.fields, List.lookup_cons]
  refine (h.settles_insertMany hdb.sound hnone (fun p hp => takes_plugin (hnamed p hp) p now)
    (List.pairwise_map.2 (hdistinct.imp (apart_of_ne rfl (by decide) rfl rfl))) hrow).imp
    (fun _ h => h) ?_
  rintro e (⟨p, hp, columns, hcolumns, rfl, r, hr, id, hagree⟩ | hfull)
  · obtain rfl := List.mem_singleton.1 hcolumns
    exact .component hp hr (eq_text_of_agree (by decide) rfl hagree)
  · exact .of_crowded (by decide +kernel) hfull

theorem settles_contributors {now : Int} (hnone : added .contributors = [])
    (husers : List.Forall₂ User.IsRow users (added .users))
    (hplugins : List.Forall₂ (Plugin.IsRow db.categories now) plugins (added .plugins)) :
    Settles (db₁.insertMany .contributors
        (contributorRows (userNamed ((added .users).map Row.id)) ((added .plugins).map Row.id)))
      (fun result => ∃ rs, List.Forall₂
          (fun c => IsContribution (added .users) (added .plugins) c.1.1 c.2.1 c.2.2)
          contributions rs ∧
        db.Gains (Function.update added .contributors rs) result.1)
      (Refused db) := by
  have hplaced := forall₂_zipIdx hplugins
  have huser : ∀ e ∈ plugins.zipIdx, ∀ c ∈ e.1.contributors e.2,
      (userNamed ((added .users).map Row.id) c.1).Names (added .users) "username" c.1 :=
    fun e he c hc => userNamed_names husers (contributors_mem_users e he c hc)
  refine (h.settles_parts (fun e => e.1.contributors e.2)
    (fun _ id c => [("pluginid", .integer id),
      ("userid", userNamed ((added .users).map Row.id) c.1), ("maintainer", .integer c.2)])
    hdb.sound hnone hplaced ?_ (pairwise_apart rfl _) ?_).imp (fun _ h => h) ?_
  · intro e he plugin hplugin _ c hc
    exact takes_contribution (h.mem hplugin) (names_mono (fun _ => h.mem) (huser e he c hc)) c.2
  · intro e he plugin hplugin hrow c hc r hcells
    obtain ⟨user, hmem, hname, hvalue⟩ := huser e he c hc
    refine ⟨⟨plugin, hplugin, hrow.component, ?_⟩, ⟨user, hmem, hname, ?_⟩, ?_⟩ <;>
      simp_all [Row.value, List.lookup_cons]
  · rintro e (⟨_, _, _, _, _, hcolumns, _⟩ | hfull)
    · cases hcolumns
    · exact .of_crowded (by decide +kernel) hfull

theorem settles_versions {now : Int64} (hnow : 0 ≤ now.toInt) (hnone : added .versions = [])
    (hplugins : List.Forall₂ (Plugin.IsRow db.categories now.toInt) plugins (added .plugins)) :
    Settles (db₁.insertMany .versions (releases.map fun rel => rel.fields
        ((((added .plugins).map Row.id)[rel.position]?.map Value.integer).getD .null) now))
      (fun result => ∃ rs, result.2 = rs.map Row.id ∧
        List.Forall₂ (Release.IsRow (added .plugins) now.toInt) releases rs ∧
        db.Gains (Function.update added .versions rs) result.1)
      (Refused db) := by
  have hplugin : ∀ rel ∈ releases,
      ((((added .plugins).map Row.id)[rel.position]?.map Value.integer).getD .null).Names
        (added .plugins) "frankenstyle" rel.plugin.component :=
    fun rel hrel => plugin_names hplugins (getElem?_of_mem_releases hrel)
  have hversion : ∀ rel ∈ releases,
      (Int64.ofNat (2024010100 + rel.earlier * 100 + rel.position)).toInt =
        2024010100 + rel.earlier * 100 + rel.position := by
    intro rel hrel
    obtain ⟨-, hearlier, hposition, -⟩ := small_of_mem_releases rel hrel
    rw [Int64.toInt_ofNat_of_lt (by omega)]
    omega
  refine (h.settles_insertMany hdb.sound hnone
    (fun rel hrel => takes_release (names_mono (fun _ => h.mem) (hplugin rel hrel)) rel now)
    (pairwise_apart rfl _) fun rel hrel r hcells => ?_).imp (fun _ h => h) ?_
  · obtain ⟨plugin, hmem, hname, hvalue⟩ := hplugin rel hrel
    have hdays := (small_of_mem_releases rel hrel).1
    refine ⟨⟨plugin, hmem, hname, ?_⟩, ⟨_, ?_, hversion rel hrel⟩, ?_,
      ⟨_, ?_, toInt_daysBefore hnow hdays⟩⟩ <;>
      simp_all [Row.value, Release.fields, List.lookup_cons]
  · rintro e (⟨_, _, _, hcolumns, _⟩ | hfull)
    · cases hcolumns
    · exact .of_crowded (by decide +kernel) hfull

theorem settles_reviews {now : Int64} (hnow : 0 ≤ now.toInt)
    (hlater : now.toInt ≤ 0x4000000000000000) (hnone : added .reviews = [])
    (husers : List.Forall₂ User.IsRow users (added .users))
    (hversions : List.Forall₂ (Release.IsRow (added .plugins) now.toInt) releases
      (added .versions)) :
    Settles (db₁.insertMany .reviews
        (reviewRows (userNamed ((added .users).map Row.id)) ((added .versions).map Row.id) now))
      (fun result => ∃ rs, List.Forall₂
          (fun v => IsReview (added .users) (added .plugins) (added .versions) now.toInt
            v.1 v.2.1 v.2.2) allReviews rs ∧
        db.Gains (Function.update added .reviews rs) result.1)
      (Refused db) := by
  have huser : ∀ rel ∈ releases, ∀ v ∈ rel.reviews,
      (userNamed ((added .users).map Row.id) v.1).Names (added .users) "username" v.1 :=
    fun rel hrel v hv =>
      userNamed_names husers ((small_of_mem_releases rel hrel).2.2.2 v hv).2
  refine (h.settles_parts Release.reviews
    (fun rel id v => [("versionid", .integer id),
      ("userid", userNamed ((added .users).map Row.id) v.1),
      ("timereviewed", .integer (daysAfter (daysBefore now rel.days) v.2)),
      ("status", .integer 1)])
    hdb.sound hnone hversions ?_ (pairwise_apart rfl _) ?_).imp (fun _ h => h) ?_
  · intro rel hrel version hversion _ v hv
    exact takes_review (h.mem hversion) (names_mono (fun _ => h.mem) (huser rel hrel v hv)) _
  · intro rel hrel version hversion hrow v hv r hcells
    obtain ⟨user, hmem, hname, hvalue⟩ := huser rel hrel v hv
    obtain ⟨hdays, -, -, hreviews⟩ := small_of_mem_releases rel hrel
    have hreleased := toInt_daysBefore hnow hdays
    have hreviewed := toInt_daysAfter (t := daysBefore now rel.days)
      (by rw [hreleased, seconds]; omega) (by rw [hreleased, seconds]; omega) (hreviews v hv).1
    rw [hreleased] at hreviewed
    refine ⟨⟨version, hversion, hrow, ?_⟩, ⟨user, hmem, hname, ?_⟩, ⟨_, ?_, hreviewed⟩, ?_⟩ <;>
      simp_all [Row.value, List.lookup_cons]
  · rintro e (⟨_, _, _, _, _, hcolumns, _⟩ | hfull)
    · cases hcolumns
    · exact .of_crowded (by decide +kernel) hfull

theorem settles_downloads {now : Int64} (hnow : 0 ≤ now.toInt) (hnone : added .pluginStats = [])
    (hplugins : List.Forall₂ (Plugin.IsRow db.categories now.toInt) plugins (added .plugins)) :
    Settles (db₁.insertMany .pluginStats (downloadRows ((added .plugins).map Row.id) now))
      (fun result => ∃ rs, List.Forall₂
          (fun d => IsDownloads (added .plugins) now.toInt d.1.1 d.1.2 d.2) downloads rs ∧
        db.Gains (Function.update added .pluginStats rs) result.1)
      (Refused db) := by
  have hcount : ∀ e ∈ plugins.zipIdx, ∀ month < 6,
      (Int64.ofNat (150 * (plugins.length - e.2) + month * 17)).toInt =
        150 * (plugins.length - e.2 : Nat) + month * 17 := by
    intro e _ month hmonth
    have hlength : plugins.length - e.2 ≤ 11 := Nat.sub_le _ _
    rw [Int64.toInt_ofNat_of_lt (by omega)]
    omega
  rw [downloadRows_eq]
  refine (h.settles_parts (fun e => e.1.months)
    (fun e id month => [("pluginid", .integer id),
      ("timeperiod", .integer (daysBefore now (month * 30))),
      ("downloads", .integer (Int64.ofNat (150 * (plugins.length - e.2) + month * 17)))])
    hdb.sound hnone (forall₂_zipIdx hplugins) ?_ (pairwise_apart rfl _) ?_).imp (fun _ h => h) ?_
  · intro e _ plugin hplugin _ month _
    exact takes_downloads (h.mem hplugin) _ _
  · intro e he plugin hplugin hrow month hmonth r hcells
    have hlt := lt_of_mem_months hmonth
    refine ⟨⟨plugin, hplugin, hrow.component, ?_⟩, ⟨_, ?_, toInt_daysBefore hnow (by omega)⟩,
      ⟨_, ?_, hcount e he month hlt⟩⟩ <;> simp_all [Row.value, List.lookup_cons]
  · rintro e (⟨_, _, _, _, _, hcolumns, _⟩ | hfull)
    · cases hcolumns
    · exact .of_crowded (by decide +kernel) hfull

end Stages

end Sample

/-! ### The whole set -/

namespace Database.Reached

variable {db : Database} {now : Int64}

/-- **The complete sample set is added, or nothing is and a rule says why.** -/
theorem settles_addSample (hdb : db.Reached) (hnow : 0 ≤ now.toInt)
    (hlater : now.toInt ≤ 0x4000000000000000) :
    Settles (db.addSample now)
      (fun db' => ∃ added, db.Gains added db' ∧ Sample.Rows db.categories now.toInt added)
      (Sample.Refused db) := by
  unfold Database.addSample
  refine (Sample.settles_users hdb (.none db) rfl).bind ?_
  rintro ⟨db₁, ids⟩ ⟨us, rfl, husers, h⟩
  refine (Sample.settles_grants hdb h rfl husers).bind ?_
  rintro ⟨db₂, ids⟩ ⟨gs, hgrants, h⟩
  refine (Sample.settles_plugins hdb h hnow rfl rfl).bind ?_
  rintro ⟨db₃, ids⟩ ⟨ps, rfl, hplugins, h⟩
  refine (Sample.settles_contributors hdb h rfl husers hplugins).bind ?_
  rintro ⟨db₄, ids⟩ ⟨cs, hcontributions, h⟩
  refine (Sample.settles_versions hdb h hnow rfl hplugins).bind ?_
  rintro ⟨db₅, ids⟩ ⟨vs, rfl, hversions, h⟩
  refine (Sample.settles_reviews hdb h hnow hlater rfl husers hversions).bind ?_
  rintro ⟨db₆, ids⟩ ⟨rs, hreviews, h⟩
  refine (Sample.settles_downloads hdb h hnow rfl hplugins).bind ?_
  rintro ⟨db₇, ids⟩ ⟨ds, hdownloads, h⟩
  exact ⟨_, h, husers, hgrants, hplugins, hcontributions, hversions, hreviews, hdownloads, rfl, rfl⟩

end Database.Reached

/-! ### Loading -/

/-- The first sample plugin is there. -/
def Database.HasSample (db : Database) : Prop :=
  ∃ r ∈ db.plugins, r.value "frankenstyle" = .text Sample.firstComponent

theorem Database.hasSample_eq_true_iff {db : Database} : db.hasSample = true ↔ db.HasSample := by
  rw [Database.hasSample, Database.findText?, List.find?_isSome]
  simp only [decide_eq_true_eq]
  rfl

/-- The complete sample set has the first sample plugin. -/
theorem Sample.Rows.hasSample {db db' : Database} {categories : List Row} {now : Int}
    {added : TableName → List Row} (h : Sample.Rows categories now added)
    (hgains : db.Gains added db') : db'.HasSample := by
  obtain ⟨r, hr, hrow⟩ := exists_of_mem_left h.plugins List.mem_cons_self
  exact ⟨r, hgains.mem (t := .plugins) hr, hrow.component⟩

/-- Nothing is loaded again. -/
theorem Database.HasSample.loadSample {db : Database} (h : db.HasSample) (now : Int64) :
    db.loadSample now = .ok db := by
  rw [Database.loadSample, hasSample_eq_true_iff.2 h]
  rfl

end PagedReports
