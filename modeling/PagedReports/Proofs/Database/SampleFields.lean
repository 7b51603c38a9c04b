import PagedReports.Proofs.Database.Adding
import PagedReports.Proofs.Database.SampleRows

/-!
# The fields of the sample set

The fields from which the sample rows are made suit their tables (`takes_user` and so on): what
they name by a number is there, the categories because every reachable database has the first ones
(`Database.Reached.firstCategories`), and the rest because it was loaded before. Their times are
those that `Sample.Rows` tells of (`toInt_daysBefore`, `toInt_daysAfter`).
-/

namespace PagedReports

open Sql

/-! ### Texts -/

theorem Sql.Value.eq_text_of_compare {v : Value} {s : String} (h : v.compare (.text s) = .eq) :
    v = .text s := by
  rw [compare_eq_compareByClass] at h
  obtain ⟨hrank, hrest⟩ := Ordering.then_eq_eq.1 h
  have hrank : v.rank = 2 := Std.LawfulEqCmp.eq_of_compare hrank
  cases v with
  | text t =>
    obtain ⟨-, hrest⟩ := Ordering.then_eq_eq.1 hrest
    obtain ⟨htext, -⟩ := Ordering.then_eq_eq.1 hrest
    rw [show t = s from Std.LawfulEqCmp.eq_of_compare htext]
  | _ => cases hrank

/-- A row that agrees with fields on a column with a text holds this text there. -/
theorem eq_text_of_agree {column s : String} (hcolumn : column ≠ "id") {r : Row} {fields : Fields}
    {id : Int64} (hs : fields.lookup column = some (.text s))
    (h : Agree [column] r ⟨id, fields⟩) : r.value column = .text s := by
  have heq := h column (List.mem_singleton_self _)
  rw [Row.value_of_ne (r := ⟨id, fields⟩) hcolumn, hs] at heq
  exact Value.eq_text_of_compare heq

/-- Different texts in the column that tells rows apart make rows of their own. -/
theorem apart_of_ne {t : TableName} {column s s' : String} {fields fields' : Fields}
    (huniques : t.schema.uniques = [[column]]) (hcolumn : column ≠ "id")
    (hs : fields.lookup column = some (.text s)) (hs' : fields'.lookup column = some (.text s'))
    (hne : s ≠ s') : Apart t fields fields' := by
  intro columns hcolumns id id' hagree
  rw [huniques, List.mem_singleton] at hcolumns
  subst hcolumns
  have heq := eq_text_of_agree hcolumn hs' hagree
  rw [Row.value_of_ne hcolumn, hs] at heq
  exact hne (Value.text.inj heq)

/-- Where no columns tell rows apart, any fields make rows of their own. -/
theorem pairwise_apart {t : TableName} (huniques : t.schema.uniques = []) (fs : List Fields) :
    fs.Pairwise (Apart t) := by
  refine List.pairwise_of_forall fun f g columns hcolumns => ?_
  rw [huniques] at hcolumns
  cases hcolumns

namespace Sample

/-! ### Times -/

theorem toInt_days {days : Nat} (hdays : days ≤ 1000) :
    (Int64.ofNat days * 86400).toInt = seconds days := by
  have hday : (86400 : Int64).toInt = 86400 := rfl
  have hcount : (Int64.ofNat days).toInt = days := Int64.toInt_ofNat_of_lt (by omega)
  rw [Int64.toInt_mul, hcount, hday, Int.mul_comm]
  exact Int.bmod_eq_of_le (by omega) (by omega)

theorem toInt_daysBefore {now : Int64} {days : Nat} (hmin : 0 ≤ now.toInt) (hdays : days ≤ 1000) :
    (daysBefore now days).toInt = now.toInt - seconds days := by
  have hmax := Int64.toInt_lt now
  rw [daysBefore, Int64.toInt_sub, toInt_days hdays]
  exact Int.bmod_eq_of_le (by unfold seconds; omega) (by unfold seconds; omega)

theorem toInt_daysAfter {t : Int64} {days : Nat} (hmin : -0x2000000000000000 ≤ t.toInt)
    (hmax : t.toInt ≤ 0x4000000000000000) (hdays : days ≤ 1000) :
    (daysAfter t days).toInt = t.toInt + seconds days := by
  rw [daysAfter, Int64.toInt_add, toInt_days hdays]
  exact Int.bmod_eq_of_le (by unfold seconds; omega) (by unfold seconds; omega)

/-! ### Numbers of sample rows -/

theorem names_mono {v : Value} {rows rows' : List Row} {column text : String}
    (hrows : rows ⊆ rows') (h : v.Names rows column text) : v.Names rows' column text := by
  obtain ⟨r, hr, hvalue⟩ := h
  exact ⟨r, hrows hr, hvalue⟩

theorem userNamed_names {rows : List Row} (h : List.Forall₂ User.IsRow users rows)
    {username : String} (hname : username ∈ users.map User.username) :
    (userNamed (rows.map Row.id) username).Names rows "username" username := by
  obtain ⟨u, hu, rfl⟩ := List.mem_map.1 hname
  rw [userNamed, List.zip_map_right, List.find?_map]
  cases hfind : (users.zip rows).find? ((fun e => decide (e.1.username = u.username)) ∘
      Prod.map id Row.id) with
  | none =>
    obtain ⟨i, hi⟩ := List.mem_iff_getElem?.1 hu
    obtain ⟨r, hr, -⟩ := exists_getElem?_of_forall₂ h hi
    have hzip : (u, r) ∈ users.zip rows :=
      List.mem_of_getElem? (List.getElem?_zip_eq_some.2 ⟨hi, hr⟩)
    exact absurd (decide_eq_true rfl) (List.find?_eq_none.1 hfind (u, r) hzip)
  | some e =>
    have hfound := List.find?_some hfind
    have hnamed : e.1.username = u.username := of_decide_eq_true hfound
    have hmem := List.mem_of_find?_eq_some hfind
    refine ⟨e.2, (List.of_mem_zip hmem).2, ?_, rfl⟩
    rw [((List.forall₂_iff_zip.1 h).2 hmem).username, hnamed]

theorem forall₂_zipIdx {α : Type} {R : α → Row → Prop} {xs : List α} {rows : List Row}
    (h : List.Forall₂ R xs rows) : List.Forall₂ (fun e => R e.1) xs.zipIdx rows := by
  rw [← List.zipIdx_map_fst 0 xs] at h
  exact List.forall₂_map_left_iff.1 h

/-- The number at the place of a sample plugin is that of its row. -/
theorem plugin_names {categories rows : List Row} {now : Int}
    (h : List.Forall₂ (Plugin.IsRow categories now) plugins rows) {p : Plugin} {i : Nat}
    (hp : plugins[i]? = some p) :
    ((((rows.map Row.id)[i]?).map Value.integer).getD .null).Names rows "frankenstyle"
      p.component := by
  obtain ⟨r, hr, hrow⟩ := exists_getElem?_of_forall₂ h hp
  rw [List.getElem?_map, hr]
  exact ⟨r, List.mem_of_getElem? hr, hrow.component, rfl⟩

theorem getElem?_of_mem_releases {rel : Release} (h : rel ∈ releases) :
    plugins[rel.position]? = some rel.plugin := by
  obtain ⟨⟨p, i⟩, hp, hrel⟩ := List.mem_flatMap.1 h
  obtain ⟨e, -, rfl⟩ := List.mem_map.1 hrel
  exact List.mem_zipIdx_iff_getElem?.1 hp

/-- The sample times lie within three years, and the numbers of the versions are small. -/
theorem small_of_mem_releases : ∀ rel ∈ releases,
    rel.days ≤ 1000 ∧ rel.earlier ≤ 1000 ∧ rel.position ≤ 1000 ∧
      ∀ v ∈ rel.reviews, v.2 ≤ 1000 ∧ v.1 ∈ users.map User.username := by
  decide +kernel

theorem contributors_mem_users : ∀ e ∈ plugins.zipIdx, ∀ c ∈ e.1.contributors e.2,
    c.1 ∈ users.map User.username := by
  decide +kernel

theorem small_of_mem_plugins : ∀ p ∈ plugins,
    p.queued ≤ 1000 ∧ p.category ∈ firstCategories ∧ ∀ days ∈ p.releases, days ≤ 1000 := by
  decide +kernel

theorem lt_of_mem_months {p : Plugin} {month : Nat} (h : month ∈ p.months) : month < 6 := by
  unfold Plugin.months at h
  split at h
  · exact List.mem_range.1 h
  · cases h

theorem downloadRows_eq (ids : List Int64) (now : Int64) : downloadRows ids now =
    (plugins.zipIdx.zip ids).flatMap fun e => e.1.1.months.map fun month =>
      [("pluginid", .integer e.2), ("timeperiod", .integer (daysBefore now (month * 30))),
        ("downloads", .integer (Int64.ofNat (150 * (plugins.length - e.1.2) + month * 17)))] := by
  unfold downloadRows
  refine List.flatMap_congr fun e _ => ?_
  by_cases happroved : e.1.1.approval = .approved <;> simp [Plugin.months, happroved]

/-! ### Categories -/

end Sample

/-- The first categories are in every reachable database. -/
theorem Database.Reached.firstCategories {db : Database} (h : db.Reached) :
    ∀ name ∈ firstCategories, ∃ r ∈ db.categories, r.value "name" = .text name := by
  induction h with
  | @initialised db h =>
    have hall : (Database.empty.initialise.toOption.all fun db =>
        PagedReports.firstCategories.all fun name =>
          db.categories.any fun r => r.value "name" == .text name) = true := by decide +kernel
    rw [h] at hall
    intro name hname
    obtain ⟨r, hr, hvalue⟩ := List.any_eq_true.1 (List.all_eq_true.1 hall name hname)
    exact ⟨r, hr, eq_of_beq hvalue⟩
  | insert _ hinsert ih =>
    intro name hname
    obtain ⟨r, hr, hvalue⟩ := ih name hname
    exact ⟨r, (sublist_of_insert hinsert .categories).subset hr, hvalue⟩

/-- A reachable database has its first categories, so that it stays as it is when it is set up. -/
theorem Database.Reached.initialise {db : Database} (h : db.Reached) : db.initialise = .ok db := by
  obtain ⟨r, hr, -⟩ := h.firstCategories "Other" (by decide)
  have hsome : db.categories.isEmpty = false := by
    rw [List.isEmpty_eq_false_iff]
    exact List.ne_nil_of_mem hr
  rw [Database.initialise, hsome]
  rfl

namespace Sample

/-- A name that a category has is found. -/
theorem categoryNamed_names {db : Database} {name : String}
    (h : ∃ r ∈ db.categories, r.value "name" = .text name) :
    (db.categoryNamed name).Names db.categories "name" name := by
  obtain ⟨r, hr, hvalue⟩ := h
  unfold Database.categoryNamed Database.findText?
  cases hfind : (db.rows .categories).find? fun r => r.value "name" = .text name with
  | none => exact absurd (decide_eq_true hvalue) (List.find?_eq_none.1 hfind r hr)
  | some found =>
    have hfound := List.find?_some hfind
    exact ⟨found, List.mem_of_find?_eq_some hfind, of_decide_eq_true hfound, rfl⟩

/-! ### The fields suit their tables -/

section Takes

variable {db : Database}

theorem takes_user (u : User) : db.Takes .users u.fields := by
  refine ⟨?_, by simp [User.fields], by simp [TableName.schema]⟩
  simp [TableName.schema, User.fields, ColumnSpec.take, ColumnSpec.needed, ColumnSpec.defaultText,
    ColumnSpec.defaultNumber, List.lookup_cons, Value.handedOver, Affinity.apply]

theorem takes_grant {user : Row} (huser : user ∈ db.users) (capability : String) :
    db.Takes .userCapabilities
      [("userid", .integer user.id), ("capability", .text capability)] := by
  refine ⟨?_, by simp, fun ref href => ?_⟩
  · simp [TableName.schema, ColumnSpec.take, ColumnSpec.needed, List.lookup_cons, Value.handedOver,
      Affinity.apply]
  · obtain rfl := List.mem_singleton.1 href
    exact ⟨user, huser, rfl⟩

theorem takes_plugin {category : Value} {name : String}
    (hcategory : category.Names db.categories "name" name) (p : Plugin) (now : Int64) :
    db.Takes .plugins (p.fields category now) := by
  obtain ⟨r, hr, -, rfl⟩ := hcategory
  refine ⟨?_, by simp [Plugin.fields], fun ref href => ?_⟩
  · simp [TableName.schema, Plugin.fields, ColumnSpec.take, ColumnSpec.needed, ColumnSpec.optional,
      ColumnSpec.defaultNumber, List.lookup_cons, Value.handedOver, Affinity.apply]
  · obtain rfl := List.mem_singleton.1 href
    exact ⟨r, hr, rfl⟩

theorem takes_contribution {plugin : Row} (hplugin : plugin ∈ db.plugins) {user : Value}
    {username : String} (huser : user.Names db.users "username" username) (role : Int64) :
    db.Takes .contributors
      [("pluginid", .integer plugin.id), ("userid", user), ("maintainer", .integer role)] := by
  obtain ⟨r, hr, -, rfl⟩ := huser
  refine ⟨?_, by simp, fun ref href => ?_⟩
  · simp [TableName.schema, ColumnSpec.take, ColumnSpec.needed, ColumnSpec.defaultNumber,
      List.lookup_cons, Value.handedOver, Affinity.apply]
  · rcases List.mem_pair.1 href with rfl | rfl
    · exact ⟨plugin, hplugin, rfl⟩
    · exact ⟨r, hr, rfl⟩

theorem takes_release {plugin : Value} {component : String}
    (hplugin : plugin.Names db.plugins "frankenstyle" component) (rel : Release) (now : Int64) :
    db.Takes .versions (rel.fields plugin now) := by
  obtain ⟨r, hr, -, rfl⟩ := hplugin
  refine ⟨?_, by simp [Release.fields], fun ref href => ?_⟩
  · simp [TableName.schema, Release.fields, ColumnSpec.take, ColumnSpec.needed,
      ColumnSpec.optional, ColumnSpec.defaultNumber, List.lookup_cons, Value.handedOver, Affinity.apply]
  · obtain rfl := List.mem_singleton.1 href
    exact ⟨r, hr, rfl⟩

theorem takes_review {version : Row} (hversion : version ∈ db.versions) {user : Value}
    {username : String} (huser : user.Names db.users "username" username) (reviewed : Int64) :
    db.Takes .reviews
      [("versionid", .integer version.id), ("userid", user), ("timereviewed", .integer reviewed),
        ("status", .integer 1)] := by
  obtain ⟨r, hr, -, rfl⟩ := huser
  refine ⟨?_, by simp, fun ref href => ?_⟩
  · simp [TableName.schema, ColumnSpec.take, ColumnSpec.needed, ColumnSpec.defaultNumber,
      List.lookup_cons, Value.handedOver, Affinity.apply]
  · rcases List.mem_pair.1 href with rfl | rfl
    · exact ⟨version, hversion, rfl⟩
    · exact ⟨r, hr, rfl⟩

theorem takes_downloads {plugin : Row} (hplugin : plugin ∈ db.plugins) (period count : Int64) :
    db.Takes .pluginStats
      [("pluginid", .integer plugin.id), ("timeperiod", .integer period),
        ("downloads", .integer count)] := by
  refine ⟨?_, by simp, fun ref href => ?_⟩
  · simp [TableName.schema, ColumnSpec.take, ColumnSpec.needed, ColumnSpec.defaultNumber,
      List.lookup_cons, Value.handedOver, Affinity.apply]
  · obtain rfl := List.mem_singleton.1 href
    exact ⟨plugin, hplugin, rfl⟩

end Takes

/-! ### Grants tell each other apart -/

theorem apart_grants {id id' : Int64} {c c' : String} (h : id = id' → c ≠ c') :
    Apart .userCapabilities [("userid", .integer id), ("capability", .text c)]
      [("userid", .integer id'), ("capability", .text c')] := by
  intro columns hcolumns n n' hagree
  obtain rfl := List.mem_singleton.1 hcolumns
  have hid : id = id' := Value.compare_integer_eq_iff.1 (hagree "userid" List.mem_cons_self)
  have hc := Value.eq_text_of_compare
    (hagree "capability" (List.mem_cons_of_mem _ List.mem_cons_self))
  exact h hid (Value.text.inj hc)

theorem pairwise_grantRows {ids : List Int64} (hlength : users.length = ids.length)
    (hids : ids.Nodup) :
    (grantRows ids).Pairwise (Apart .userCapabilities) := by
  have hcapabilities : ∀ u ∈ users, u.capabilities.Nodup := by decide
  have hpairs : (users.zip ids).Pairwise fun e e' => e.2 ≠ e'.2 := by
    refine List.pairwise_map.1 ?_
    rw [List.map_snd_zip (Nat.le_of_eq hlength.symm)]
    exact hids
  refine List.pairwise_flatMap.2 ⟨fun e he => ?_, hpairs.imp fun hne => ?_⟩
  · exact List.pairwise_map.2 ((hcapabilities e.1 (List.of_mem_zip he).1).imp fun hne =>
      apart_grants fun _ => hne)
  · rintro x hx y hy
    obtain ⟨c, -, rfl⟩ := List.mem_map.1 hx
    obtain ⟨c', -, rfl⟩ := List.mem_map.1 hy
    exact apart_grants fun heq => absurd heq hne

end Sample

end PagedReports
