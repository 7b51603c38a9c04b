import PagedReports.Proofs.Report.History
import PagedReports.Proofs.Report.Presenting

/-!
# Paging is exact

A report over a store that answers every listing from one fixed list of records shows exactly the
slices of that list. The store may deliver more than it is asked for and may fail at any question.

The invariant is that a session knows no wrong number of rows (`Session.Knows`): the number comes
from a count, or from a page that is not full, and both give the length of the list. What each
operation answers follows from it, and so does what a whole history answers
(`history_of_fixed_rows`).
-/

namespace PagedReports

open Sql

variable {σ : Type}

/-! ### Slices -/

/-- The records of a page: those after all earlier pages, as many as fit. -/
def Paging.slice (p : Paging) (records : List Record) : List Record :=
  (records.drop (p.page.toNat * max p.perPage.toNat 1)).take (max p.perPage.toNat 1)

theorem Paging.length_slice (p : Paging) (records : List Record) :
    (p.slice records).length =
      min (max p.perPage.toNat 1) (records.length - p.page.toNat * max p.perPage.toNat 1) := by
  simp [slice]

theorem Report.slice_sanitize (r : Report σ) (p : Paging) (records : List Record) :
    (r.sanitize p).slice records = p.slice records := by
  have hsize : max (atLeastOne p.perPage).toNat 1 = max p.perPage.toNat 1 := by
    rw [toNat_atLeastOne]
    omega
  simp only [Paging.slice, sanitize_page, sanitize_perPage, hsize]

/-- Of a list that is long enough, a start gives the same first elements as the whole. -/
theorem take_eq_take_of_start {α : Type} {xs ys : List α} {k : Nat} (h : xs <+: ys)
    (hlen : min k ys.length ≤ xs.length) : xs.take k = ys.take k := by
  obtain ⟨zs, rfl⟩ := h
  rw [List.take_append]
  have hzs : k - xs.length = 0 ∨ zs = [] := by
    by_cases hk : k ≤ xs.length
    · exact .inl (by omega)
    · refine .inr (List.eq_nil_of_length_eq_zero ?_)
      rw [List.length_append] at hlen
      omega
  rcases hzs with hzs | rfl <;> simp [*]

/-! ### What is assumed of the store -/

/-- A store answers the questions of a report from fixed lists of `n` records each. -/
structure Report.Backed (r : Report σ) (rowsOf : Listing → List Record) (n : UInt64) : Prop where
  /-- A store can address all rows. -/
  addressable : n.toNat < 0x8000000000000000
  /-- The lists have the same length. -/
  length : ∀ p, (rowsOf (r.listing p)).length = n.toNat
  /-- A count that succeeds gives this length. -/
  count : ∀ s m, (r.store.count r.selection r.filter.params s).1 = .ok m → m = n
  /-- A selection that succeeds gives a start of the rest of the list, which may be longer than
  asked for, and is shorter only where the list ends. -/
  select : ∀ p offset limit s records,
    (r.store.select (r.listing p) r.filter.params offset limit s).1 = .ok records →
      records <+: (rowsOf (r.listing p)).drop offset.toNat ∧
        min limit.toNat (n.toNat - offset.toNat) ≤ records.length

/-- A session does not know another number of rows. -/
def Session.Knows (n : UInt64) (s : Session σ) : Prop := ∀ m, s.total = some m → m = n

theorem Session.Knows.of_total_eq {n : UInt64} {s s' : Session σ} (h : s.Knows n)
    (heq : s'.total = s.total) : s'.Knows n := fun m hm => h m (heq ▸ hm)

theorem Session.knows_start (n : UInt64) (state : σ) : (Session.start state).Knows n :=
  fun _ hm => by cases hm

namespace Report

variable {r : Report σ} {rowsOf : Listing → List Record} {n : UInt64} {s : Session σ}

/-! ### One operation -/

theorem Backed.rowCount (h : r.Backed rowsOf n) (hs : s.Knows n) :
    Ensures r.rowCount s (fun m s' => m = n ∧ s'.Knows n)
      fun e s' => r.FailsWith e s' ∧ s'.Knows n := by
  refine ensures_rowCount (fun m hm => ⟨hs m hm, hs⟩) fun _ => ?_
  refine ensures_askCount (fun m state hm => ?_) fun e state he =>
    ⟨.inl (.count rfl he), hs.of_total_eq rfl⟩
  have hmn : m = n := h.count s.store m (by rw [hm])
  refine ⟨hmn, fun k hk => ?_⟩
  cases hk
  exact hmn

/-- A page that is not full gives the number of rows away. -/
theorem Backed.impliedTotal (h : r.Backed rowsOf n) {asked : Paging} {offset m : UInt64}
    (hoffset : (r.sanitize asked).offset? = some offset)
    (hm : impliedTotal? (r.sanitize asked) offset
      (asked.slice (rowsOf (r.listing asked))).length = some m) : m = n := by
  obtain ⟨hmul, -⟩ := Paging.offset?_eq_some_iff.1 hoffset
  rw [Paging.length_slice, h.length] at hm
  simp only [sanitize_page, sanitize_perPage, toNat_atLeastOne] at hmul
  unfold impliedTotal? at hm
  rw [sanitize_perPage, sanitize_page, toNat_atLeastOne, hmul] at hm
  split at hm
  · rename_i hshort
    obtain ⟨hlt, hreached, hfits⟩ := hshort
    cases hm
    have hn := h.addressable
    have hpage : asked.page = 0 → offset.toNat = 0 := fun h0 => by
      rw [← hmul, h0]
      simp
    have hle : offset.toNat ≤ n.toNat := by
      rcases hreached with hpos | h0
      · omega
      · have := hpage h0
        omega
    refine UInt64.toNat_inj.1 ?_
    rw [UInt64.toNat_add, UInt64.toNat_ofNat_of_lt' (by change _ < 2 ^ 64; omega)]
    omega
  · cases hm

theorem Backed.noteFetched (h : r.Backed rowsOf n) (hs : s.Knows n) {asked : Paging}
    {offset : UInt64} (hoffset : (r.sanitize asked).offset? = some offset) :
    (noteFetched (r.sanitize asked) offset
      (asked.slice (rowsOf (r.listing asked))).length s).Knows n := by
  unfold Report.noteFetched
  split
  · rename_i m hm
    have hmn := h.impliedTotal hoffset hm
    unfold note
    cases htotal : s.total with
    | some k => exact hs
    | none =>
      intro k hk
      cases hk
      exact hmn
  · exact hs

/-- What is kept of a fetched page is exactly its slice. -/
theorem Backed.take_records (h : r.Backed rowsOf n) {asked : Paging} {offset : UInt64}
    {records : List Record} {state state' : σ}
    (hoffset : (r.sanitize asked).offset? = some offset)
    (hrecords : r.store.select (r.listing (r.sanitize asked)) r.filter.params offset
      (r.sanitize asked).perPage state = (.ok records, state')) :
    records.take (r.sanitize asked).perPage.toNat = asked.slice (rowsOf (r.listing asked)) := by
  obtain ⟨hstart, hlong⟩ := h.select _ _ _ state records (by rw [hrecords])
  obtain ⟨hmul, -⟩ := Paging.offset?_eq_some_iff.1 hoffset
  rw [listing_sanitize] at hstart
  rw [take_eq_take_of_start hstart (by rw [List.length_drop, h.length]; exact hlong), Paging.slice,
    ← hmul, sanitize_page, sanitize_perPage, toNat_atLeastOne]

theorem Backed.fetchPage (h : r.Backed rowsOf n) (hs : s.Knows n) (asked : Paging) :
    Ensures (r.fetchPage asked) s
      (fun rows s' => r.Transforms (asked.slice (rowsOf (r.listing asked))) rows ∧ s'.Knows n)
      fun e s' => r.FailsWith e s' ∧ s'.Knows n := by
  refine ensures_fetchPage (fun hnone => ⟨?_, hs⟩) fun offset hoffset => ?_
  · -- Beyond what a store can address there are no rows.
    have hbeyond : n.toNat ≤ asked.page.toNat * max asked.perPage.toNat 1 := by
      have hn := h.addressable
      simp only [Paging.offset?, sanitize_page, sanitize_perPage, toNat_atLeastOne] at hnone
      split at hnone
      · cases hnone
      · omega
    have hempty : asked.slice (rowsOf (r.listing asked)) = [] := by
      rw [Paging.slice, List.drop_eq_nil_of_le (by rw [h.length]; exact hbeyond), List.take_nil]
    rw [hempty]
    exact .nil
  · refine ensures_askSelect (fun records state hrecords => ?_) fun e state he =>
      ⟨.inl (.select rfl he), hs.of_total_eq rfl⟩
    simp only [h.take_records hoffset hrecords]
    refine ⟨fun rows hrows => ⟨present_eq_ok_iff.1 hrows, h.noteFetched ?_ hoffset⟩,
      fun e he => ⟨.inr ?_, h.noteFetched ?_ hoffset⟩⟩
    · exact hs.of_total_eq rfl
    · obtain ⟨record, -, hrecord⟩ := mapM_eq_error he
      exact ⟨record, hrecord⟩
    · exact hs.of_total_eq rfl

/-! ### Whole pages -/

theorem Backed.slice_eq_nil_iff (h : r.Backed rowsOf n) (asked p : Paging) :
    p.slice (rowsOf (r.listing asked)) = [] ↔ n.toNat ≤ p.page.toNat * max p.perPage.toNat 1 := by
  rw [← List.length_eq_zero_iff, Paging.length_slice, h.length]
  omega

/-- The pages up to the last one are those that start within the rows. -/
theorem le_lastPage_iff {page total perPage : UInt64} (h : 0 < total.toNat) :
    page ≤ lastPage total perPage ↔ page.toNat * max perPage.toNat 1 < total.toNat := by
  rw [UInt64.le_iff_toNat_le, toNat_lastPage, Nat.le_div_iff_mul_le (by omega)]
  omega

theorem lastPage_atLeastOne (total perPage : UInt64) :
    lastPage total (atLeastOne perPage) = lastPage total perPage := by
  refine UInt64.toNat_inj.1 ?_
  rw [toNat_lastPage, toNat_lastPage, toNat_atLeastOne, Nat.max_assoc, Nat.max_self]

/-- What a page must be when every listing has `n` rows. -/
structure ExactPage (r : Report σ) (rowsOf : Listing → List Record) (n : UInt64) (asked : Paging)
    (p : Page) : Prop where
  /-- The total is the number of rows. -/
  total : p.total = n
  /-- The page is the one that was asked for, or the last one. -/
  paging : p.paging = (r.sanitize asked).atPage (min asked.page (lastPage n asked.perPage))
  /-- Its rows are the slice of that page. -/
  rows : r.Transforms (p.paging.slice (rowsOf (r.listing asked))) p.rows
  /-- It has rows if there are any. -/
  inhabited : p.rows = [] → n = 0

/-- A page has no rows exactly if it begins after the last one. -/
theorem Backed.rows_eq_nil_iff (h : r.Backed rowsOf n) {asked p : Paging} {rows : List Cells}
    (hrows : r.Transforms (p.slice (rowsOf (r.listing asked))) rows) :
    rows = [] ↔ n.toNat ≤ p.page.toNat * max p.perPage.toNat 1 := by
  rw [← h.slice_eq_nil_iff asked p, ← List.length_eq_zero_iff, ← List.length_eq_zero_iff,
    hrows.length_eq]

/-- A page without rows that is not the first one lies after the last one. -/
theorem Backed.lastPage_lt (h : r.Backed rowsOf n) {asked p : Paging}
    (hrows : r.Transforms (p.slice (rowsOf (r.listing asked))) []) (hpos : 0 < p.page) :
    lastPage n p.perPage < p.page := by
  refine UInt64.not_le.1 fun hle => ?_
  by_cases hn : 0 < n.toNat
  · exact absurd ((h.rows_eq_nil_iff hrows).1 rfl) (Nat.not_le.2 ((le_lastPage_iff hn).1 hle))
  · have hzero : n = 0 := UInt64.toNat_inj.1 (Nat.eq_zero_of_not_pos hn)
    rw [hzero] at hle
    exact UInt64.not_lt.2 hle hpos

/-- A page with rows does not lie after the last one, nor does the first page. -/
theorem Backed.le_lastPage (h : r.Backed rowsOf n) {asked p : Paging} {rows : List Cells}
    (hrows : r.Transforms (p.slice (rowsOf (r.listing asked))) rows)
    (hfirst : rows = [] → p.page = 0) : p.page ≤ lastPage n p.perPage := by
  by_cases hnil : rows = []
  · rw [hfirst hnil]
    exact UInt64.zero_le
  · have hlt := Nat.not_le.1 (mt (h.rows_eq_nil_iff hrows).2 hnil)
    exact (le_lastPage_iff (by omega)).2 hlt

/-- A page up to the last one has rows if there are any. -/
theorem Backed.eq_zero_of_nil (h : r.Backed rowsOf n) {asked p : Paging}
    (hrows : r.Transforms (p.slice (rowsOf (r.listing asked))) [])
    (hle : p.page ≤ lastPage n p.perPage) : n = 0 := by
  by_contra hne
  have hn : 0 < n.toNat := Nat.pos_of_ne_zero fun h0 => hne (UInt64.toNat_inj.1 h0)
  exact absurd ((h.rows_eq_nil_iff hrows).1 rfl) (Nat.not_le.2 ((le_lastPage_iff hn).1 hle))

theorem Backed.page (h : r.Backed rowsOf n) (hs : s.Knows n) (asked : Paging) :
    Ensures (r.page asked) s (fun p s' => r.ExactPage rowsOf n asked p ∧ s'.Knows n)
      fun e s' => r.FailsWith e s' ∧ s'.Knows n := by
  refine ensures_page ((h.fetchPage hs (r.sanitize asked)).imp (fun rows s' hrows => ?_)
    fun _ _ he => he)
  obtain ⟨hrows, hs'⟩ := hrows
  rw [listing_sanitize, slice_sanitize] at hrows
  simp only [List.isEmpty_iff, sanitize_page, sanitize_perPage, lastPage_atLeastOne]
  split
  · -- The page is empty and not the first one, so the last one is fetched instead.
    rename_i hafter
    obtain ⟨rfl, hpos⟩ := hafter
    have hlast := h.lastPage_lt hrows hpos
    have hmin : min asked.page (lastPage n asked.perPage) = lastPage n asked.perPage :=
      if_neg (UInt64.not_le.2 hlast)
    refine (h.rowCount hs').imp (fun m s'' hm => ?_) fun _ _ he => he
    obtain ⟨rfl, hs''⟩ := hm
    rw [if_pos hlast]
    refine (h.fetchPage hs'' _).imp (fun rows' s₃ hrows' => ?_) fun _ _ he => he
    obtain ⟨hrows', hs₃⟩ := hrows'
    rw [listing_atPage, listing_sanitize, ← sanitize_atPage, slice_sanitize] at hrows'
    refine (h.rowCount hs₃).imp (fun k s₄ hk => ?_) fun _ _ he => he
    obtain ⟨rfl, hs₄⟩ := hk
    refine ⟨⟨rfl, by rw [hmin], ?_, fun hnil => ?_⟩, hs₄⟩
    · rw [← sanitize_atPage, slice_sanitize]
      exact hrows'
    · subst hnil
      exact h.eq_zero_of_nil hrows' UInt64.le_rfl
  · -- The page has rows or is the first one, so it is not after the last one.
    rename_i hwithin
    have hfirst : rows = [] → asked.page = 0 := fun hnil =>
      Classical.byContradiction fun hne => hwithin ⟨hnil, UInt64.pos_iff_ne_zero.2 hne⟩
    have hle := h.le_lastPage hrows hfirst
    have hmin : min asked.page (lastPage n asked.perPage) = asked.page := if_pos hle
    refine (h.rowCount hs').imp (fun k s'' hk => ?_) fun _ _ he => he
    obtain ⟨rfl, hs''⟩ := hk
    refine ⟨⟨rfl, by rw [hmin]; rfl, ?_, fun hnil => ?_⟩, hs''⟩
    · rw [slice_sanitize]
      exact hrows
    · subst hnil
      exact h.eq_zero_of_nil hrows hle

/-! ### Histories -/

/-- The reply to an operation when every listing has `n` rows. -/
def Exact (r : Report σ) (rowsOf : Listing → List Record) (n : UInt64) :
    Operation → Reply → Prop
  | .rowCount, .total m => m = n
  | .fetchPage asked, .rows rows => r.Transforms (asked.slice (rowsOf (r.listing asked))) rows
  | .page asked, .page p => r.ExactPage rowsOf n asked p
  | _, _ => False

/-- Every operation of a history is exact or fails, and leaves the right number of rows or none. -/
theorem Backed.run (h : r.Backed rowsOf n) (hs : s.Knows n) (ops : List Operation) :
    ∀ x ∈ r.run ops s, Outcome (fun reply _ => r.Exact rowsOf n x.1 reply) r.FailsWith x.2 := by
  have step : ∀ (op : Operation) (s : Session σ), s.Knows n →
      Ensures (r.perform op) s (fun reply s' => r.Exact rowsOf n op reply ∧ s'.Knows n)
        fun e s' => r.FailsWith e s' ∧ s'.Knows n := by
    intro op s hs
    cases op with
    | rowCount => exact ensures_map.2 (h.rowCount hs)
    | fetchPage asked => exact ensures_map.2 (h.fetchPage hs asked)
    | page asked => exact ensures_map.2 (h.page hs asked)
  exact forall_run step ops hs

end Report

/-- A store answers the questions with some parameters from one fixed list of records for each
text of a listing, all of `n` records, unless it fails. -/
structure Store.AnswersTexts (store : Store σ) (params : List Value)
    (texts : String → List Record) (n : UInt64) : Prop where
  /-- A store can address all rows. -/
  addressable : n.toNat < 0x8000000000000000
  /-- The lists have the same length. -/
  length : ∀ listing : Listing, (texts listing.sql).length = n.toNat
  /-- A count that succeeds gives this length. -/
  count : ∀ selection s m, (store.count selection params s).1 = .ok m → m = n
  /-- A selection that succeeds gives a start of the rest of the list, which may be longer than
  asked for, and is shorter only where the list ends. -/
  select : ∀ listing offset limit s records,
    (store.select listing params offset limit s).1 = .ok records →
      records <+: (texts listing.sql).drop offset.toNat ∧
        min limit.toNat (n.toNat - offset.toNat) ≤ records.length

/-- **Paging is exact over any history.** Whatever is asked of a report that an actor may view, in
whatever order and whichever questions the store refuses: a number of rows that is given is `n`,
rows that are given are the slice of their page, and a page that is given is the one asked for or
the last one, with the total `n`, the slice of that page, and no rows only where there are none.
An operation that gives nothing passes on an error. -/
theorem history_of_fixed_rows {d : Definition} {actor : Actor} {store : Store σ}
    {texts : String → List Record} {n : UInt64} (settings : Settings) (now : Int64)
    (hview : d.canView actor = true)
    (hstore : store.AnswersTexts (d.filter.resolve actor now).params texts n)
    (state : σ) (ops : List Operation) :
    ∃ r, Report.openFor d actor settings now store = .ok r ∧
      ∀ x ∈ r.run ops (Session.start state),
        Outcome (fun reply _ => r.Exact (fun l => texts l.sql) n x.1 reply) r.FailsWith x.2 := by
  refine ⟨⟨d, d.filter.resolve actor now, Formatter.ofSettings settings, store⟩,
    if_pos hview, ?_⟩
  have hbacked : Report.Backed ⟨d, d.filter.resolve actor now, Formatter.ofSettings settings, store⟩
      (fun l => texts l.sql) n :=
    ⟨hstore.addressable, fun _ => hstore.length _, fun _ _ => hstore.count _ _ _,
      fun _ _ _ _ _ => hstore.select _ _ _ _ _⟩
  exact hbacked.run (Session.knows_start n state) ops

/-- Three records. -/
def threeRecords : List Record := [[.text "a"], [.text "b"], [.text "c"]]

/-- A store of three records that refuses its first question and ignores how many it may give. -/
def moodyStore : Store Nat where
  count := fun _ _ k => (if k = 0 then .error .fileAccess else .ok 3, k + 1)
  select := fun _ _ offset _ k =>
    (if k = 0 then .error .fileAccess else .ok (threeRecords.drop offset.toNat), k + 1)

/-- A page far beyond the end, after a refusal. -/
theorem history_of_moodyStore :
    Catalogue.unapproved.canView ⟨1, "ada", "Ada", true, []⟩ = true ∧
      moodyStore.AnswersTexts [.integer (-1)] (fun _ => threeRecords) 3 ∧
      ∃ r, Report.openFor Catalogue.unapproved ⟨1, "ada", "Ada", true, []⟩
          (Settings.defaults "") 0 moodyStore = .ok r ∧
        ∀ x ∈ r.run [.rowCount, .page ⟨7, 2, some "plugin", .descending⟩,
            .fetchPage ⟨0, 0, none, .ascending⟩] (Session.start 0),
          Outcome (fun reply _ => r.Exact (fun _ => threeRecords) 3 x.1 reply) r.FailsWith x.2 := by
  have hstore : moodyStore.AnswersTexts [.integer (-1)] (fun _ => threeRecords) 3 := by
    refine ⟨by decide, fun _ => rfl, fun _ k m hm => ?_, fun _ offset limit k records hm => ?_⟩
    · simp only [moodyStore] at hm
      split at hm <;> cases hm
      rfl
    · simp only [moodyStore] at hm
      split at hm <;> cases hm
      refine ⟨List.prefix_refl _, ?_⟩
      rw [List.length_drop]
      exact Nat.min_le_right _ _
  have hview : Catalogue.unapproved.canView ⟨1, "ada", "Ada", true, []⟩ = true := rfl
  exact ⟨hview, hstore, history_of_fixed_rows _ 0 hview hstore 0 _⟩

end PagedReports
