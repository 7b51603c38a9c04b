import Mathlib.Algebra.Order.BigOperators.Group.List
import Mathlib.Algebra.Order.Group.Nat
import PagedReports.Proofs.Catalogue.DownloadTotals
import PagedReports.Proofs.Catalogue.LatestReviews
import PagedReports.Proofs.Sql.KeyOrder

/-!
# The order of rows

The rows of a report stand in the order of the column that is asked for, all of its terms in the
requested direction, and then in the default order; and whatever is asked for, they are the same
rows (`order_of_database`). The last term of the default order is the number of the row that a
report starts from, or of the plugin that its rows are grouped by. Except for the contributions,
these numbers tell the rows of every report apart (`exists_number_term`), so that only one order
is right.
-/

namespace PagedReports

open Sql Catalogue

/-! ### Values of joined rows -/

/-- Every column of a database holds nothing, a whole number or a text. -/
def Database.HoldsPlain (db : Database) : Prop :=
  ∀ t, ∀ r ∈ db.rows t, ∀ column, (r.value column).Plain

/-- Whether a database holds plain values is seen from its cells. -/
theorem Database.holdsPlain_of_cells {db : Database}
    (h : ∀ t, ∀ r ∈ db.rows t, ∀ e ∈ r.cells, e.2.Plain) : db.HoldsPlain := by
  intro t r hr column
  unfold Row.value
  split
  · exact .integer r.id
  · cases hlookup : r.cells.lookup column with
    | none => exact .null
    | some v =>
      obtain ⟨before, after, hsplit, -⟩ := List.lookup_eq_some_iff.1 hlookup
      exact h t r hr (column, v) (by rw [hsplit]; simp)

/-- The rows that are joined are rows of a database. -/
def Sql.Env.Of (env : Env) (db : Database) : Prop := ∀ e ∈ env, ∀ row ∈ e.2, ∃ t, row ∈ db.rows t

section Joined

variable {db : Database}

theorem Sql.Env.Of.cons {env : Env} (h : env.Of db) {t : TableName} (source : String) {row : Row}
    (hrow : row ∈ db.rows t) : Env.Of ((source, some row) :: env) db :=
  List.forall_mem_cons.2 ⟨fun _ hr => ⟨t, Option.mem_some.1 hr ▸ hrow⟩, h⟩

theorem Sql.Join.of_mem_extend {τ : Type} {value : Env → τ → Value} {j : Join τ} {env env' : Env}
    (h : env.Of db) (henv : env' ∈ j.extend db value env) : env'.Of db := by
  have hpartner : ∀ rows : List Row, (∀ row ∈ rows, row ∈ db.rows j.table) →
      env' ∈ rows.map (fun row => (j.source, some row) :: env) → env'.Of db := by
    intro rows hrows hmem
    obtain ⟨row, hrow, rfl⟩ := List.mem_map.1 hmem
    exact h.cons j.source (hrows row hrow)
  unfold Join.extend at henv
  simp only at henv
  split at henv
  · rw [List.mem_singleton.1 henv]
    exact List.forall_mem_cons.2 ⟨fun _ hr => (by cases hr), h⟩
  · exact hpartner _ (fun row hrow => (List.mem_filter.1 hrow).1) henv

theorem Sql.Tables.of_mem_envs {τ : Type} {value : Env → τ → Value} {t : Tables τ} {env : Env}
    (henv : env ∈ t.envs db value []) : env.Of db := by
  have hfold : ∀ (joins : List (Join τ)) (envs : List Env), (∀ env ∈ envs, env.Of db) →
      ∀ env ∈ joins.foldl (fun envs j => envs.flatMap (j.extend db value)) envs, env.Of db := by
    intro joins
    induction joins with
    | nil => exact fun _ h => h
    | cons j joins ih =>
      refine fun envs h => ih _ fun env' henv' => ?_
      obtain ⟨env, henv, hmem⟩ := List.mem_flatMap.1 henv'
      exact Join.of_mem_extend (h env henv) hmem
  refine hfold t.joins _ (fun env henv => ?_) env henv
  obtain ⟨row, hrow, rfl⟩ := List.mem_map.1 henv
  exact Env.Of.cons (fun _ h => by cases h) t.source hrow

/-- A joined row of a database holds plain values. -/
theorem Sql.Env.Of.plain_value {env : Env} (h : env.Of db) (hplain : db.HoldsPlain)
    (c : ColumnRef) : (env.value c).Plain := by
  unfold Env.value
  split
  · rename_i row hlookup
    obtain ⟨before, after, hsplit, -⟩ := List.lookup_eq_some_iff.1 hlookup
    have hmem : (c.source, some row) ∈ env := by rw [hsplit]; simp
    obtain ⟨t, hrow⟩ := h _ hmem row rfl
    exact hplain t row hrow c.column
  · exact .null

theorem Sql.Selection.of_mem_envs {s : Selection} {params : List Value} {env : Env}
    (henv : env ∈ s.envs db params) : env.Of db := by
  unfold Selection.envs at henv
  split at henv
  · cases henv
  · exact Tables.of_mem_envs (List.mem_filter.1 henv).1

/-- The groups of a selection hold joined rows of it. -/
theorem Sql.Selection.mem_envs_of_mem_groups {s : Selection} {params : List Value}
    {group : List Env} (hgroup : group ∈ s.groups db params) {env : Env} (henv : env ∈ group) :
    env ∈ s.envs db params := by
  unfold Selection.groups at hgroup
  split at hgroup
  · obtain ⟨env', henv', rfl⟩ := List.mem_map.1 hgroup
    rw [List.mem_singleton.1 henv]
    exact henv'
  · exact mem_of_mem_groupEnvs hgroup henv

end Joined

/-! ### Values of groups -/

/-- An output is no sum, or a sum that is a whole number. -/
def Sql.Output.Whole (group : List Env) (o : Output) : Prop :=
  o.isSum = false ∨ ∃ n : Int64, o.value group = .ok (.integer n)

/-- A term of an order is no sum, or a sum that is a whole number. -/
def Sql.OrderTerm.Whole (group : List Env) (o : OrderTerm) : Prop :=
  o.isSum = false ∨ ∃ n : Int64, o.value group = .ok (.integer n)

theorem Sql.Output.Whole.exists_value {group : List Env} {o : Output} (h : o.Whole group) :
    ∃ v, o.value group = .ok v := by
  rcases h with h | ⟨n, hn⟩
  · exact Output.exists_value h
  · exact ⟨_, hn⟩

theorem Sql.OrderTerm.Whole.exists_value {group : List Env} {o : OrderTerm} (h : o.Whole group) :
    ∃ v, o.value group = .ok v := by
  rcases o with ⟨o, d⟩ | sql
  · exact Output.Whole.exists_value h
  · exact ⟨_, rfl⟩

/-- Where joined rows hold plain values, a group is sorted by plain values. -/
theorem Sql.OrderTerm.Whole.plain_valueOf {group : List Env} {o : OrderTerm} (h : o.Whole group)
    (hplain : ∀ env ∈ group, ∀ c, (env.value c).Plain) : (o.valueOf group).Plain := by
  rcases o with ⟨o, d⟩ | sql
  · rcases h with h | ⟨n, hn⟩
    · cases o with
      | column c =>
        cases group with
        | nil => exact .null
        | cons env envs => exact hplain env List.mem_cons_self c
      | sum c => cases h
      | verbatim sql => exact .null
    · have hvalue : o.value group = .ok (.integer n) := hn
      rw [OrderTerm.valueOf, Output.valueOf, hvalue]
      exact .integer n
  · exact .null

/-! ### The downloads of all times -/

/-- The counts of downloads are whole numbers, and for each plugin the sizes of all of its counts
add up to less than 2^63. -/
structure Database.CountsFit (db : Database) : Prop where
  /-- Numbers of downloads are whole numbers. -/
  whole : ∀ s ∈ db.pluginStats, ∃ n : Int64, s.value "downloads" = .integer n
  /-- The sizes of the counts of a plugin fit. -/
  fits : ∀ p ∈ db.plugins, ((db.pluginStats.filter fun s => s.value "pluginid" = .integer p.id).map
    fun s => (downloadsOf s).natAbs).sum < 0x8000000000000000

/-- A part of the counts of a plugin has a whole number as its sum. -/
theorem Database.CountsFit.exists_sum {db : Database} (h : db.CountsFit) (hdb : db.Sound)
    {stats : List Row} (hstats : stats.Sublist db.pluginStats) {p : Row} (hp : p ∈ db.plugins)
    (hne : rowsOf db.pluginOf stats p ≠ []) :
    ∃ n : Int64, downloadSum.value ((rowsOf db.pluginOf stats p).map (downloadEnv db)) =
      .ok (.integer n) := by
  have hpart : (rowsOf db.pluginOf stats p).Sublist
      (db.pluginStats.filter fun s => s.value "pluginid" = .integer p.id) := by
    rw [rowsOf_pluginOf hdb (fun s hs => hstats.subset hs) hp]
    exact hstats.filter _
  have hsum : ((rowsOf db.pluginOf stats p).map fun s => (downloadsOf s).natAbs).sum ≤
      ((db.pluginStats.filter fun s => s.value "pluginid" = .integer p.id).map fun s =>
        (downloadsOf s).natAbs).sum :=
    (hpart.map _).sum_le_sum fun _ _ => Nat.zero_le _
  obtain ⟨n, hn, -⟩ := exists_downloadSum db hne
    (fun s hs => h.whole s (List.mem_filter.1 (hpart.subset hs)).1)
    (Nat.lt_of_le_of_lt hsum (h.fits p hp))
  exact ⟨n, hn⟩

/-! ### Numbers of groups -/

/-- Groups that a term of an order gives different numbers have different values of the term. -/
theorem nodup_valueOf {α : Type} {groups : List (List Env)} {xs : List α} {group : α → List Env}
    (hgroups : groups = xs.map group) {o : OrderTerm} {number : α → Int64}
    (hnumber : (xs.map number).Nodup)
    (ho : ∀ x ∈ xs, o.valueOf (group x) = .integer (number x)) :
    (groups.map (o.valueOf ·)).Nodup := by
  have hvalues : groups.map (o.valueOf ·) = (xs.map number).map Value.integer := by
    rw [hgroups, List.map_map, List.map_map]
    exact List.map_congr_left ho
  rw [hvalues]
  exact hnumber.map fun _ _ => Value.integer.inj

/-- A report without groups has different numbers as long as its joined rows have. -/
theorem nodup_valueOf_of_tables {α : Type} {db : Database} {s : Selection} {params : List Value}
    {t : Tables Term} (horigin : s.origin = .tables t) (hgroup : s.groupBy = none) {xs : List α}
    {env : α → Env} (henvs : t.envs db (Term.value db params) [] = xs.map env) {o : OrderTerm}
    {number : α → Int64} (hnumber : (xs.map number).Nodup)
    (ho : ∀ x ∈ xs, o.valueOf [env x] = .integer (number x)) :
    ((s.groups db params).map (o.valueOf ·)).Nodup :=
  nodup_valueOf
    (Selection.groups_of_envs hgroup (Selection.envs_of_tables horigin henvs fun _ _ => rfl))
    (hnumber.sublist (List.filter_sublist.map number)) fun x hx => ho x (List.mem_filter.1 hx).1

/-! ### The rows of each report -/

section Reports

variable {db : Database} (hdb : db.Sound) (actor : Actor) (settings : Settings) (now : Int64)

include hdb

/-- No sum of a report fails: all that is given of a group, or that it is sorted by, is whole. -/
theorem whole_of_mem_groups (hfit : db.CountsFit) {d : Definition} (hd : d ∈ Catalogue.all)
    {group : List Env} (hgroup : group ∈ (db.report d actor settings now).selection.groups db
      (d.filter.resolve actor now).params) :
    (∀ o ∈ d.source.outputs, o.Whole group) ∧
      ∀ asked, ∀ o ∈ (db.report d actor settings now).order asked, o.Whole group := by
  have hplain : d.isPlain = true → (∀ o ∈ d.source.outputs, o.Whole group) ∧
      ∀ asked, ∀ o ∈ (db.report d actor settings now).order asked, o.Whole group := by
    intro hplain
    have hlisting : ∀ asked, ((db.report d actor settings now).listing asked).Plain :=
      Report.plain_listing hplain
    exact ⟨fun o ho => .inl ((hlisting ⟨0, 0, none, .ascending⟩).outputs o ho),
      fun asked o ho => .inl ((hlisting asked).order o ho)⟩
  simp only [Catalogue.all, List.mem_cons, List.not_mem_nil, or_false] at hd
  rcases hd with rfl | rfl | rfl | rfl | rfl | rfl
  · exact hplain rfl
  · exact hplain rfl
  · exact hplain rfl
  · exact hplain rfl
  · obtain ⟨plugins, hplugins, hgroups⟩ := exists_groups_window hdb actor settings now
    have hmem : group ∈ (db.report downloads actor settings now).selection.groups db
        [.integer (now - 90 * day)] := hgroup
    rw [hgroups] at hmem
    obtain ⟨p, hp, rfl⟩ := List.mem_map.1 hmem
    obtain ⟨s, rest, hcons, -⟩ := hplugins.first p hp
    have hsum := hfit.exists_sum hdb List.filter_sublist (hplugins.mem p hp)
      (hcons ▸ List.cons_ne_nil s rest)
    have hother : ∀ o : Output, o.isSum = false →
        o.Whole ((rowsOf db.pluginOf (db.statsInWindow now) p).map (downloadEnv db)) :=
      fun _ => .inl
    obtain ⟨houtputs, horder⟩ := forall_downloads hother (.inr hsum)
      (db.report downloads actor settings now) rfl
    refine ⟨houtputs, fun asked o ho => ?_⟩
    obtain ⟨output, d, rfl, hwhole⟩ := horder asked o ho
    exact hwhole
  · exact hplain rfl

theorem Database.Sound.nodup_ids (t : TableName) : ((db.rows t).map Row.id).Nodup :=
  List.pairwise_map.2 ((hdb.ordered t).imp Int64.ne_of_lt)

/-- A term of the default order gives the rows of a report different numbers. -/
theorem exists_number_term {d : Definition}
    (hd : d ∈ [unapproved, needsWork, reviews, recentReleases, downloads]) :
    ∃ o ∈ d.defaultOrder, (((db.report d actor settings now).selection.groups db
      (d.filter.resolve actor now).params).map (o.valueOf ·)).Nodup := by
  simp only [List.mem_cons, List.not_mem_nil, or_false] at hd
  rcases hd with rfl | rfl | rfl | rfl | rfl
  · exact ⟨.by (out "p" "id") .descending, by decide, nodup_valueOf_of_tables rfl rfl
      (envs_queue hdb _) (hdb.nodup_ids .plugins) fun _ _ => rfl⟩
  · exact ⟨.by (out "p" "id") .descending, by decide, nodup_valueOf_of_tables rfl rfl
      (envs_queue hdb _) (hdb.nodup_ids .plugins) fun _ _ => rfl⟩
  · obtain ⟨xs, hxs⟩ := hdb.exists_allReviewed
    have hnumber : (xs.map fun x => x.review.id).Nodup := by
      have hids := hdb.nodup_ids .reviews
      rw [← hxs.reviews, List.map_map] at hids
      exact hids
    exact ⟨.by (out "r" "id") .descending, by decide, nodup_valueOf_of_tables rfl rfl
      (envs_reviewTables hdb hxs _) hnumber fun _ _ => rfl⟩
  · exact ⟨.by (out "v" "id") .descending, by decide, nodup_valueOf_of_tables rfl rfl
      (envs_release hdb _) (hdb.nodup_ids .versions) fun _ _ => rfl⟩
  · obtain ⟨plugins, hplugins, hgroups⟩ := exists_groups_window hdb actor settings now
    have hnumber : (plugins.map Row.id).Nodup := hplugins.nodup.map_on fun p hp q hq =>
      hdb.eq_of_id_eq (t := .plugins) (hplugins.mem p hp) (hplugins.mem q hq)
    refine ⟨.by (out "p" "id") .ascending, by decide, nodup_valueOf hgroups hnumber fun p hp => ?_⟩
    obtain ⟨s, rest, hcons, rfl⟩ := hplugins.first p hp
    rw [hcons]
    rfl

end Reports

/-! ### The order -/

/-- What a report is sorted by when a column is asked for in a direction: its terms in this
direction, and then the default order. -/
def Definition.orderBy (d : Definition) (column? : Option Column) (direction : Direction) :
    List OrderTerm :=
  (match column? with
    | some c => c.order.map (.by · direction)
    | none => []) ++ d.defaultOrder

/-- One group comes before another in an order. -/
def Precedes (order : List OrderTerm) (a b : List Env) : Prop :=
  KeysPrecede (order.map OrderTerm.direction) (order.map (·.valueOf a)) (order.map (·.valueOf b))

/-- The key of a sortable column stands for this column. -/
theorem sortableColumn?_key {d : Definition} (hd : d ∈ Catalogue.all) :
    ∀ c ∈ d.columns, c.isSortable = true → d.sortableColumn? c.key = some c := by
  simp only [Catalogue.all, List.mem_cons, List.not_mem_nil, or_false] at hd
  rcases hd with rfl | rfl | rfl | rfl | rfl | rfl <;> decide

theorem Report.order_eq_orderBy {r : Report Unit} (hd : r.definition ∈ Catalogue.all)
    {column? : Option Column}
    (hcolumn : ∀ c ∈ column?, c ∈ r.definition.columns ∧ c.isSortable = true) {asked : Paging}
    (hasked : asked.sortKey = column?.map Column.key) :
    r.order asked = r.definition.orderBy column? asked.direction := by
  unfold Report.order Definition.orderBy
  rw [hasked]
  cases column? with
  | none => rfl
  | some c =>
    obtain ⟨hc, hsortable⟩ := hcolumn c rfl
    rw [Option.map_some, Option.bind_some, sortableColumn?_key hd c hc hsortable]

/-- Groups whose sums are whole are sorted by plain values. -/
theorem plainlyKeyed_groups {db : Database} (hplain : db.HoldsPlain) {s : Selection}
    {params : List Value} {order : List OrderTerm}
    (hwhole : ∀ row ∈ s.groups db params, ∀ o ∈ order, o.Whole row) :
    PlainlyKeyed (order.map OrderTerm.direction) (fun row => order.map (·.valueOf row))
      (s.groups db params) := by
  intro row hrow
  refine ⟨by rw [List.length_map, List.length_map], fun v hv => ?_⟩
  obtain ⟨o, ho, rfl⟩ := List.mem_map.1 hv
  refine (hwhole row hrow o ho).plain_valueOf fun env henv => ?_
  exact (Selection.of_mem_envs (Selection.mem_envs_of_mem_groups hrow henv)).plain_value hplain

/-- Groups that a term of an order tells apart have one order. -/
theorem pairwise_precedes {order : List OrderTerm} {groups rows : List (List Env)}
    (hkeyed : PlainlyKeyed (order.map OrderTerm.direction)
      (fun row => order.map (·.valueOf row)) groups)
    (hperm : rows.Perm groups) (hsorted : rows.Pairwise fun a b => ¬Precedes order b a)
    {o : OrderTerm} (ho : o ∈ order) (hnumber : (groups.map (o.valueOf ·)).Nodup) :
    rows.Pairwise (Precedes order) ∧ ∀ other : List (List Env), other.Perm rows →
      (other.Pairwise fun a b => ¬Precedes order b a) → other = rows := by
  have hrows : PlainlyKeyed (order.map OrderTerm.direction)
      (fun row => order.map (·.valueOf row)) rows := fun row hrow =>
    hkeyed row (hperm.mem_iff.1 hrow)
  have hnodup : (rows.map fun row => order.map (·.valueOf row)).Nodup := by
    have hvalues : rows.Pairwise fun a b => o.valueOf a ≠ o.valueOf b :=
      List.pairwise_map.1 ((hperm.map _).nodup_iff.2 hnumber)
    refine List.pairwise_map.2 (hvalues.imp fun hne heq => hne ?_)
    exact List.map_inj_left.1 heq o ho
  have hinorder : InKeyOrder (order.map OrderTerm.direction)
      (fun row => order.map (·.valueOf row)) rows := hsorted
  exact ⟨hinorder.pairwise_precede hrows hnodup, fun other hother hsortedOther =>
    hinorder.eq_of_perm hsortedOther hother hrows hnodup⟩

/-- **Rows stand in the order that is asked for, and in only one.** On every reachable database
that holds nothing but whole numbers and texts, with counts of downloads that fit, each report has
the same rows whatever is asked for. They are sorted by the terms of the column, all in the
requested direction, and then by the default order; except for the contributions no two of them
are equal in that order, so that no other order of the rows would be right; and the pages that are
fetched are slices of the rows in that order. -/
theorem order_of_database {db : Database} (hdb : db.Reached) (hplain : db.HoldsPlain)
    (hfit : db.CountsFit) {d : Definition} (hd : d ∈ Catalogue.all) {actor : Actor}
    (hview : d.canView actor = true) (settings : Settings) (now : Int64) :
    ∃ r, Report.openFor d actor settings now db.store = .ok r ∧
      ∀ (column? : Option Column) (asked : Paging),
        (∀ c ∈ column?, c ∈ d.columns ∧ c.isSortable = true) →
        asked.sortKey = column?.map Column.key →
        ∃ rows : List (List Env), rows.Perm (r.selection.groups db r.filter.params) ∧
          (r.listing asked).records db r.filter.params =
            .ok (rows.map fun row => d.source.outputs.map (·.valueOf row)) ∧
          (∀ row ∈ rows, ∀ o ∈ d.orderBy column? asked.direction,
            o.value row = .ok (o.valueOf row)) ∧
          (rows.Pairwise fun a b => ¬Precedes (d.orderBy column? asked.direction) b a) ∧
          (d ∈ [unapproved, needsWork, reviews, recentReleases, downloads] →
            rows.Pairwise (Precedes (d.orderBy column? asked.direction)) ∧
            ∀ other : List (List Env), other.Perm rows →
              (other.Pairwise fun a b => ¬Precedes (d.orderBy column? asked.direction) b a) →
                other = rows) ∧
          (db.Addressable → r.formatter.WritesDates →
            r.ShowsAll asked (rows.map fun row => d.source.outputs.map (·.valueOf row))) := by
  refine ⟨_, Database.openFor_eq_ok hview settings now, fun column? asked hcolumn hasked => ?_⟩
  have horder : (db.report d actor settings now).order asked =
      d.orderBy column? asked.direction := Report.order_eq_orderBy hd hcolumn hasked
  have hwhole : ∀ row ∈ (db.report d actor settings now).selection.groups db
      (d.filter.resolve actor now).params, (∀ o ∈ d.source.outputs, o.Whole row) ∧
        ∀ o ∈ d.orderBy column? asked.direction, o.Whole row := by
    intro row hrow
    obtain ⟨houtputs, hterms⟩ := whole_of_mem_groups hdb.sound actor settings now hfit hd hrow
    exact ⟨houtputs, horder ▸ hterms asked⟩
  have hkeyed := plainlyKeyed_groups hplain fun row hrow => (hwhole row hrow).2
  have hperm := sortByKeys_map_perm ((d.orderBy column? asked.direction).map OrderTerm.direction)
    (fun row => (d.orderBy column? asked.direction).map (·.valueOf row))
    ((db.report d actor settings now).selection.groups db (d.filter.resolve actor now).params)
  have hsorted := inKeyOrder_sortByKeys hkeyed
  have hrecords := Listing.records_of_groups (l := (db.report d actor settings now).listing asked)
    (List.map_id _).symm
    (fun row hrow o ho => ((hwhole row hrow).2 o (horder ▸ ho)).exists_value)
    fun row hrow o ho => ((hwhole row hrow).1 o ho).exists_value
  have hkeys : ((db.report d actor settings now).listing asked).order =
      d.orderBy column? asked.direction := horder
  rw [hkeys] at hrecords
  refine ⟨_, hperm, hrecords, fun row hrow o ho => ?_, hsorted, fun htold => ?_,
    fun hroom hdates => ?_⟩
  · exact OrderTerm.value_eq_ok ((hwhole row (hperm.mem_iff.1 hrow)).2 o ho).exists_value
  · obtain ⟨o, ho, hnumber⟩ := exists_number_term hdb.sound actor settings now htold
    exact pairwise_precedes hkeyed hperm hsorted (List.mem_append_right _ ho) hnumber
  · obtain ⟨t, hle⟩ := Catalogue.count_le hdb.sound hd (db.report d actor settings now).selection
      rfl (d.filter.resolve actor now).params
    exact Report.showsAll rfl (Nat.lt_of_le_of_lt hle (hroom t)) hrecords (Catalogue.presents hd)
      hdates

theorem holdsPlain_namesakes : namesakes.HoldsPlain :=
  Database.holdsPlain_of_cells fun t => by cases t <;> decide +kernel

theorem countsFit_namesakes : namesakes.CountsFit where
  whole := countsAreWhole_namesakes.downloads
  fits := by decide +kernel

/-- Downloads by a category that neither plugin has: the default order decides. -/
theorem order_of_namesakes :
    namesakes.Reached ∧ namesakes.HoldsPlain ∧ namesakes.CountsFit ∧
      downloads ∈ Catalogue.all ∧
      downloads.canView ⟨1, "ada", "Ada", false, [viewReports]⟩ = true ∧
      ∃ r, Report.openFor downloads ⟨1, "ada", "Ada", false, [viewReports]⟩
          (Settings.defaults "") 7776002 namesakes.store = .ok r ∧
        ∃ rows : List (List Env), rows.Perm (r.selection.groups namesakes r.filter.params) ∧
          (r.listing ⟨0, 30, some "category", .descending⟩).records namesakes r.filter.params =
            .ok (rows.map fun row => downloads.source.outputs.map (·.valueOf row)) ∧
          rows.Pairwise (Precedes [.by (out "c" "name") .descending, .by downloadSum .descending,
            .by (out "p" "id") .ascending]) := by
  have hd : downloads ∈ Catalogue.all := by simp [Catalogue.all]
  have hview : downloads.canView ⟨1, "ada", "Ada", false, [viewReports]⟩ = true := rfl
  obtain ⟨r, hopen, horder⟩ := order_of_database reached_namesakes holdsPlain_namesakes
    countsFit_namesakes hd hview (Settings.defaults "") 7776002
  obtain ⟨rows, hperm, hrecords, -, -, hstrict, -⟩ :=
    horder (some ⟨"category", "Category", [out "c" "name"]⟩) ⟨0, 30, some "category", .descending⟩
      (by decide) rfl
  exact ⟨reached_namesakes, holdsPlain_namesakes, countsFit_namesakes, hd, hview, r, hopen, rows,
    hperm, hrecords, (hstrict (by simp)).1⟩

end PagedReports
