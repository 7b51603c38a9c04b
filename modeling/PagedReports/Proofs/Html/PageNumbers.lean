import Mathlib.Data.List.Nodup
import PagedReports.Proofs.Html.ReportLinks

/-!
# The numbers of the paging bar

What the paging bar of a report shows at a page, whatever the page, the size of pages and the total
are (`pagingBar_exact`). It is empty where all rows stand on one page. Otherwise its numbers are the
first page, the last one and those near the current one, in their order, and dots stand wherever
pages are left out between two numbers (`barItems_eq`).

The bar counts in 64-bit words, and what it shows is compared with natural numbers. Its sums and
differences are exact (`ExactSums`), except for the two ends of the window around the current page:
these are cut off where the window would begin before the first page or leave the words.
-/

namespace PagedReports.Html

/-! ### Numbers with dots between them -/

/-- The entry of a page under its number. -/
def BarItem.numbered (current page : UInt64) : BarItem :=
  if page = current then .current page else .page page

/-- What stands between two numbers: dots, if pages are left out there. -/
def dotsBetween (n m : UInt64) : List BarItem := if m.toNat = n.toNat + 1 then [] else [.dots]

/-- Numbers one after another, with dots wherever pages are left out between two of them. -/
def spread (current : UInt64) : List UInt64 → List BarItem
  | [] => []
  | [n] => [.numbered current n]
  | n :: m :: rest => .numbered current n :: (dotsBetween n m ++ spread current (m :: rest))

/-- The page that an entry shows under its number. -/
def BarItem.number? : BarItem → Option UInt64
  | page n | current n => some n
  | previous _ | dots | next _ => none

theorem BarItem.number?_numbered (current page : UInt64) :
    (BarItem.numbered current page).number? = some page := by
  unfold BarItem.numbered
  split <;> rfl

/-- Two runs of numbers, with what stands between them. -/
theorem spread_append (current : UInt64) (xs : List UInt64) (n m : UInt64) (ys : List UInt64) :
    spread current (xs ++ n :: m :: ys) =
      spread current (xs ++ [n]) ++ dotsBetween n m ++ spread current (m :: ys) := by
  induction xs with
  | nil => rfl
  | cons x xs ih =>
    cases xs with
    | nil => simp [spread]
    | cons x' xs =>
      simp only [List.cons_append] at ih
      simp only [List.cons_append, spread, ih, List.append_assoc]

/-- Between words that follow each other there are no dots. -/
theorem spread_range' (current : UInt64) (start n : Nat) (h : start + n ≤ 0x10000000000000000) :
    spread current ((List.range' start n).map .ofNat) =
      ((List.range' start n).map .ofNat).map (BarItem.numbered current) := by
  induction n generalizing start with
  | zero => rfl
  | succ n ih =>
    have hrest := ih (start + 1) (by omega)
    rw [List.range'_succ]
    cases n with
    | zero => rfl
    | succ n =>
      have hword : ∀ {k : Nat}, k ≤ start + 1 → (UInt64.ofNat k).toNat = k := fun hk =>
        UInt64.toNat_ofNat_of_lt' (show _ < 0x10000000000000000 by omega)
      have hnext : (UInt64.ofNat (start + 1)).toNat = (UInt64.ofNat start).toNat + 1 := by
        rw [hword (Nat.le_refl _), hword (Nat.le_succ _)]
      rw [List.range'_succ, List.map_cons] at hrest
      rw [List.range'_succ, List.map_cons, List.map_cons, spread, dotsBetween, if_pos hnext,
        List.nil_append, hrest]
      rfl

theorem spread_pagesBetween (current start stop : UInt64) :
    spread current (pagesBetween start stop) =
      (pagesBetween start stop).map (BarItem.numbered current) := by
  have hstart : start.toNat < 0x10000000000000000 := start.toNat_lt
  have hstop : stop.toNat < 0x10000000000000000 := stop.toNat_lt
  exact spread_range' current _ _ (by omega)

/-- A window that is not empty has a first page. -/
theorem pagesBetween_eq_cons {start stop : UInt64} (h : start ≤ stop) :
    ∃ rest, pagesBetween start stop = start :: rest := by
  rw [UInt64.le_iff_toNat_le] at h
  obtain ⟨k, hk⟩ : ∃ k, stop.toNat + 1 - start.toNat = k + 1 := ⟨stop.toNat - start.toNat, by omega⟩
  rw [pagesBetween, hk, List.range'_succ, List.map_cons, UInt64.ofNat_toNat]
  exact ⟨_, rfl⟩

/-- A window that is not empty has a last page. -/
theorem pagesBetween_eq_concat {start stop : UInt64} (h : start ≤ stop) :
    ∃ before, pagesBetween start stop = before ++ [stop] := by
  rw [UInt64.le_iff_toNat_le] at h
  obtain ⟨k, hk⟩ : ∃ k, stop.toNat + 1 - start.toNat = k + 1 := ⟨stop.toNat - start.toNat, by omega⟩
  have hlast : start.toNat + 1 * k = stop.toNat := by omega
  rw [pagesBetween, hk, List.range'_concat, hlast, List.map_append, List.map_singleton,
    UInt64.ofNat_toNat]
  exact ⟨_, rfl⟩

theorem pairwise_pagesBetween (start stop : UInt64) :
    (pagesBetween start stop).Pairwise (· < ·) := by
  have hstart : start.toNat < 0x10000000000000000 := start.toNat_lt
  have hstop : stop.toNat < 0x10000000000000000 := stop.toNat_lt
  refine List.pairwise_map.2
    (List.Pairwise.imp_of_mem (fun {n m} hn hm hlt => ?_) List.pairwise_lt_range')
  have hword : ∀ k ∈ List.range' start.toNat (stop.toNat + 1 - start.toNat),
      (UInt64.ofNat k).toNat = k := fun k hk => by
    rw [List.mem_range'_1] at hk
    exact UInt64.toNat_ofNat_of_lt' (show k < 0x10000000000000000 by omega)
  rw [UInt64.lt_iff_toNat_lt, hword n hn, hword m hm]
  exact hlt

/-- The numbers are found in their order. -/
theorem filterMap_number?_spread (current : UInt64) : (ns : List UInt64) →
    (spread current ns).filterMap BarItem.number? = ns
  | [] => rfl
  | [n] => by rw [spread, List.filterMap_cons_some (BarItem.number?_numbered current n)]; rfl
  | n :: m :: rest => by
    have hdots : (dotsBetween n m).filterMap BarItem.number? = [] := by
      unfold dotsBetween
      split <;> rfl
    rw [spread, List.filterMap_cons_some (BarItem.number?_numbered current n),
      List.filterMap_append, hdots, filterMap_number?_spread current (m :: rest)]
    rfl

/-- Exactly the current page is marked. -/
theorem numbered_beq_current (current page : UInt64) :
    (BarItem.numbered current page == .current current) = (page == current) := by
  unfold BarItem.numbered
  by_cases h : page = current
  · rw [if_pos h, h]
    simp
  · rw [if_neg h]
    simp [h]

theorem mem_spread (current : UInt64) {ns : List UInt64} {n : UInt64} (h : n ∈ ns) :
    BarItem.numbered current n ∈ spread current ns := by
  induction ns with
  | nil => cases h
  | cons m ns ih =>
    cases ns with
    | nil =>
      rw [List.mem_singleton.1 h]
      exact List.mem_singleton_self _
    | cons m' ns =>
      rcases List.mem_cons.1 h with rfl | h
      · exact List.mem_cons_self
      · exact List.mem_cons_of_mem _ (List.mem_append_right _ (ih h))

/-- The current page is marked as often as its number stands there. -/
theorem count_current_spread (current : UInt64) : (ns : List UInt64) →
    (spread current ns).count (.current current) = ns.count current
  | [] => rfl
  | [n] => by
    have hmark := numbered_beq_current current n
    rw [spread, List.count_cons, List.count_cons, hmark]
    rfl
  | n :: m :: rest => by
    have hmark := numbered_beq_current current n
    have hdots : (dotsBetween n m).count (.current current) = 0 := by
      unfold dotsBetween
      split <;> rfl
    rw [spread, List.count_cons, List.count_append, hdots, Nat.zero_add,
      count_current_spread current (m :: rest), hmark, List.count_cons (b := n)]

/-! ### The entries of the bar -/

/-- The numbers of the bar: the window around the current page, with the first page before it and
the last page after it where these are not in the window. -/
def barNumbers (current last : UInt64) : List UInt64 :=
  (if 0 < windowStart current then [0] else []) ++
  pagesBetween (windowStart current) (windowEnd current last) ++
  (if windowEnd current last < last then [last] else [])

/-- The first page before a window that begins later. -/
theorem spread_first {current start : UInt64} (h : 0 < start → 0 < current) (rest : List UInt64) :
    spread current ((if 0 < start then [0] else []) ++ start :: rest) =
      (if 0 < start then .page 0 :: (if 1 < start then [.dots] else []) else []) ++
        spread current (start :: rest) := by
  have hzero : (0 : UInt64).toNat = 0 := rfl
  have hone : (1 : UInt64).toNat = 1 := rfl
  by_cases hpos : 0 < start
  · have hother : 0 ≠ current := UInt64.ne_of_lt (h hpos)
    rw [if_pos hpos, if_pos hpos, List.singleton_append, spread, BarItem.numbered, if_neg hother,
      dotsBetween, hzero]
    rw [UInt64.lt_iff_toNat_lt, hzero] at hpos
    by_cases hnext : start.toNat = 0 + 1
    · have hclose : ¬1 < start := by
        rw [UInt64.lt_iff_toNat_lt, hone]
        omega
      rw [if_pos hnext, if_neg hclose]
      rfl
    · have hfar : 1 < start := by
        rw [UInt64.lt_iff_toNat_lt, hone]
        omega
      rw [if_neg hnext, if_pos hfar]
      rfl
  · rw [if_neg hpos, if_neg hpos]
    rfl

/-- The last page after a window that ends earlier. -/
theorem spread_last {current last start stop : UInt64} (hwindow : start ≤ stop)
    (h : stop < last → current < last) :
    spread current (pagesBetween start stop ++ if stop < last then [last] else []) =
      (pagesBetween start stop).map (BarItem.numbered current) ++
        if stop < last then (if stop + 1 < last then [.dots] else []) ++ [.page last] else [] := by
  by_cases hlast : stop < last
  · have hother : last ≠ current := (UInt64.ne_of_lt (h hlast)).symm
    have hspread := spread_pagesBetween current start stop
    have hafter : stop + 1 < last ↔ ¬last.toNat = stop.toNat + 1 := by
      have hnext := toNat_succ hlast
      rw [UInt64.lt_iff_toNat_lt] at hlast
      rw [UInt64.lt_iff_toNat_lt, hnext]
      omega
    obtain ⟨before, hbefore⟩ := pagesBetween_eq_concat hwindow
    rw [hbefore] at hspread ⊢
    rw [if_pos hlast, if_pos hlast, List.append_assoc, List.singleton_append, spread_append,
      hspread, List.append_assoc, dotsBetween, spread, BarItem.numbered, if_neg hother]
    by_cases hnext : last.toNat = stop.toNat + 1
    · rw [if_pos hnext, if_neg (mt hafter.1 (not_not_intro hnext))]
    · rw [if_neg hnext, if_pos (hafter.2 hnext)]
  · rw [if_neg hlast, if_neg hlast, List.append_nil, List.append_nil, spread_pagesBetween]

/-- The current page is in the window. -/
theorem windowStart_le_le_windowEnd {current last : UInt64} (h : current ≤ last) :
    windowStart current ≤ current ∧ current ≤ windowEnd current last := by
  rw [UInt64.le_iff_toNat_le] at h
  rw [UInt64.le_iff_toNat_le, UInt64.le_iff_toNat_le, toNat_windowStart, toNat_windowEnd]
  omega

/-- The bar is its numbers with dots between them, between the link back and the link on. -/
theorem barItems_eq {current last : UInt64} (h : current ≤ last) :
    barItems current last =
      (if 0 < current then [.previous (current - 1)] else []) ++
      spread current (barNumbers current last) ++
      (if current < last then [.next (current + 1)] else []) := by
  obtain ⟨hstart, hstop⟩ := windowStart_le_le_windowEnd h
  have hwindow := UInt64.le_trans hstart hstop
  obtain ⟨rest, hrest⟩ := pagesBetween_eq_cons hwindow
  have hfirst := spread_first (fun hpos => UInt64.lt_of_lt_of_le hpos hstart)
    (rest ++ if windowEnd current last < last then [last] else [])
  have hlast := spread_last hwindow fun hlt : windowEnd current last < last =>
    UInt64.lt_of_le_of_lt hstop hlt
  rw [← List.cons_append, ← hrest, hlast, ← List.append_assoc, ← barNumbers] at hfirst
  rw [hfirst]
  simp only [barItems, List.append_assoc]
  rfl

/-- The numbers of the bar, without the link back and the link on. -/
theorem filterMap_number?_barItems {current last : UInt64} (h : current ≤ last) :
    (barItems current last).filterMap BarItem.number? = barNumbers current last := by
  have hback : (if 0 < current then [BarItem.previous (current - 1)] else []).filterMap
      BarItem.number? = [] := by
    split <;> rfl
  have hon : (if current < last then [BarItem.next (current + 1)] else []).filterMap
      BarItem.number? = [] := by
    split <;> rfl
  rw [barItems_eq h, List.filterMap_append, List.filterMap_append, hback, hon,
    filterMap_number?_spread, List.nil_append, List.append_nil]

/-- The numbers are the first page, the last one and those at most four pages away. -/
theorem mem_barNumbers {current last n : UInt64} (h : current ≤ last) :
    n ∈ barNumbers current last ↔ n ≤ last ∧
      (n = 0 ∨ n = last ∨ n.toNat ≤ current.toNat + 4 ∧ current.toNat ≤ n.toNat + 4) := by
  have hzero : (0 : UInt64).toNat = 0 := rfl
  rw [UInt64.le_iff_toNat_le] at h
  simp only [barNumbers, List.mem_append, List.mem_ite_nil_right, List.mem_singleton,
    mem_pagesBetween, UInt64.lt_iff_toNat_lt, UInt64.le_iff_toNat_le, ← UInt64.toNat_inj,
    toNat_windowStart, toNat_windowEnd, hzero]
  omega

theorem pairwise_barNumbers (current last : UInt64) :
    (barNumbers current last).Pairwise (· < ·) := by
  have hfirst : (if 0 < windowStart current then [(0 : UInt64)] else []).Pairwise (· < ·) := by
    split <;> simp
  have hlast : (if windowEnd current last < last then [last] else []).Pairwise (· < ·) := by
    split <;> simp
  refine List.pairwise_append.2 ⟨List.pairwise_append.2 ⟨hfirst, pairwise_pagesBetween _ _, ?_⟩,
    hlast, ?_⟩
  · intro n hn m hm
    simp only [List.mem_ite_nil_right, List.mem_singleton] at hn
    rw [hn.2]
    exact UInt64.lt_of_lt_of_le hn.1 (mem_pagesBetween.1 hm).1
  · intro n hn m hm
    simp only [List.mem_append, List.mem_ite_nil_right, List.mem_singleton, mem_pagesBetween]
      at hn hm
    rw [hm.2]
    rcases hn with ⟨-, rfl⟩ | ⟨-, hle⟩
    · exact UInt64.lt_of_le_of_lt UInt64.zero_le hm.1
    · exact UInt64.lt_of_le_of_lt hle hm.1

/-- What the entries of a bar are, at a page `current` of pages up to `last`. -/
structure ShowsPages (current last : UInt64) (items : List BarItem) : Prop where
  /-- The numbers stand in their order. -/
  increasing : (items.filterMap BarItem.number?).Pairwise (· < ·)
  /-- They are the first page, the last one and those at most four pages away. -/
  mem_numbers : ∀ n, n ∈ items.filterMap BarItem.number? ↔ n ≤ last ∧
    (n = 0 ∨ n = last ∨ n.toNat ≤ current.toNat + 4 ∧ current.toNat ≤ n.toNat + 4)
  /-- The current page is marked once. -/
  marked_once : items.count (.current current) = 1
  /-- No other page is marked. -/
  marked : ∀ n, .current n ∈ items → n = current
  /-- The other numbers are links. -/
  linked : ∀ n ∈ items.filterMap BarItem.number?, n ≠ current → .page n ∈ items
  /-- The link back leads to the page before, and is there unless the first page is shown. -/
  back : ∀ n, .previous n ∈ items ↔ n.toNat + 1 = current.toNat
  /-- The link on leads to the page after, and is there unless the last page is shown. -/
  on : ∀ n, .next n ∈ items ↔ n.toNat = current.toNat + 1 ∧ n ≤ last
  /-- Dots stand where pages are left out between two numbers, and nowhere else; a link to the page
  before comes first and a link to the page after comes last, where there are such pages. -/
  layout : items =
    (if 0 < current then [.previous (current - 1)] else []) ++
    spread current (items.filterMap BarItem.number?) ++
    (if current < last then [.next (current + 1)] else [])

/-- Only the current page is marked. -/
theorem eq_current_of_mem_barItems {current last n : UInt64}
    (h : .current n ∈ barItems current last) : n = current := by
  simp only [barItems, List.mem_append, List.mem_map, List.mem_ite_nil_right, List.mem_cons,
    List.not_mem_nil, or_false, reduceCtorEq, and_false, false_or] at h
  obtain ⟨m, -, hm⟩ := h
  split at hm
  · exact (BarItem.current.inj hm).symm.trans ‹m = current›
  · contradiction

theorem previous_mem_barItems_iff {current last n : UInt64} :
    .previous n ∈ barItems current last ↔ n.toNat + 1 = current.toNat := by
  have hmem : .previous n ∈ barItems current last ↔ 0 < current ∧ n = current - 1 := by
    constructor
    · intro h
      rcases mem_barItems h with ⟨hpos, heq⟩ | ⟨_, -, heq⟩ | hnone | ⟨-, heq⟩
      · exact ⟨hpos, BarItem.previous.inj heq⟩
      all_goals contradiction
    · rintro ⟨hpos, rfl⟩
      simp [barItems, hpos]
  rw [hmem, ← UInt64.toNat_inj]
  constructor
  · rintro ⟨hpos, heq⟩
    rw [heq, toNat_pred hpos]
  · intro heq
    have hpos : 0 < current := UInt64.lt_iff_toNat_lt.2 (Nat.lt_of_lt_of_eq (Nat.succ_pos _) heq)
    have hbefore := toNat_pred hpos
    exact ⟨hpos, by omega⟩

theorem next_mem_barItems_iff {current last n : UInt64} :
    .next n ∈ barItems current last ↔ n.toNat = current.toNat + 1 ∧ n ≤ last := by
  have hmem : .next n ∈ barItems current last ↔ current < last ∧ n = current + 1 := by
    constructor
    · intro h
      rcases mem_barItems h with ⟨-, heq⟩ | ⟨_, -, heq⟩ | hnone | ⟨hlt, heq⟩
      · contradiction
      · contradiction
      · contradiction
      · exact ⟨hlt, BarItem.next.inj heq⟩
    · rintro ⟨hlt, rfl⟩
      simp [barItems, hlt]
  rw [hmem, ← UInt64.toNat_inj, UInt64.le_iff_toNat_le]
  constructor
  · rintro ⟨hlt, heq⟩
    have hafter := toNat_succ hlt
    rw [UInt64.lt_iff_toNat_lt] at hlt
    omega
  · rintro ⟨heq, hle⟩
    have hlt : current < last := UInt64.lt_iff_toNat_lt.2 (by omega)
    exact ⟨hlt, heq.trans (toNat_succ hlt).symm⟩

theorem showsPages_barItems {current last : UInt64} (h : current ≤ last) :
    ShowsPages current last (barItems current last) := by
  have hnumbers := filterMap_number?_barItems h
  have hsorted := pairwise_barNumbers current last
  have hcurrent : current ∈ barNumbers current last :=
    (mem_barNumbers h).2 ⟨h, .inr (.inr ⟨Nat.le_add_right _ _, Nat.le_add_right _ _⟩)⟩
  have hlayout := barItems_eq h
  constructor
  case increasing => rwa [hnumbers]
  case mem_numbers =>
    intro n
    rw [hnumbers, mem_barNumbers h]
  case marked_once =>
    have honce : (barNumbers current last).count current = 1 :=
      List.count_eq_one_of_mem (hsorted.imp UInt64.ne_of_lt) hcurrent
    have hback : (if 0 < current then [BarItem.previous (current - 1)] else []).count
        (.current current) = 0 := by
      split <;> rfl
    have hon : (if current < last then [BarItem.next (current + 1)] else []).count
        (.current current) = 0 := by
      split <;> rfl
    rw [hlayout, List.count_append, List.count_append, hback, hon, count_current_spread, honce]
  case marked => exact fun n hn => eq_current_of_mem_barItems hn
  case linked =>
    intro n hn hother
    rw [hnumbers] at hn
    have hspread := mem_spread current hn
    rw [BarItem.numbered, if_neg hother] at hspread
    rw [hlayout]
    exact List.mem_append_left _ (List.mem_append_right _ hspread)
  case back => exact fun n => previous_mem_barItems_iff
  case on => exact fun n => next_mem_barItems_iff
  case layout => rwa [hnumbers]

/-! ### Sums and differences -/

/-- The sums and differences of a bar are those of numbers, except where the window is cut off. -/
structure ExactSums (current last : UInt64) : Prop where
  /-- The page before the current one. -/
  back : 0 < current → (current - 1).toNat + 1 = current.toNat
  /-- The page after the current one. -/
  on : current < last → (current + 1).toNat = current.toNat + 1
  /-- The page after the window. -/
  after : windowEnd current last < last →
    (windowEnd current last + 1).toNat = (windowEnd current last).toNat + 1
  /-- The numbers of pages. -/
  number : ∀ page ≤ last, (saturatingAdd page 1).toNat = page.toNat + 1
  /-- The beginning of the window, if there are four pages before the current one. -/
  start_iff : ((windowStart current).toNat : Int) = current.toNat - 4 ↔ 4 ≤ current
  /-- Otherwise the window begins with the first page. -/
  start_cut : current < 4 → windowStart current = 0
  /-- The end of the window, if the fourth page after the current one is a word. -/
  stop_iff : (saturatingAdd current pagingWindow).toNat = current.toNat + 4 ↔
    current.toNat + 4 < 0x10000000000000000
  /-- Otherwise the window ends with the last page. -/
  stop_cut : 0x10000000000000000 ≤ current.toNat + 4 → windowEnd current last = last

theorem exactSums (current : UInt64) {last : UInt64}
    (hlast : last.toNat + 1 < 0x10000000000000000) : ExactSums current last := by
  have hfour : (4 : UInt64).toNat = 4 := rfl
  have hwindow : pagingWindow.toNat = 4 := rfl
  constructor
  case back => exact toNat_pred
  case on => exact toNat_succ
  case after => exact toNat_succ
  case number =>
    intro page hpage
    rw [UInt64.le_iff_toNat_le] at hpage
    exact toNat_number (by omega)
  case start_iff =>
    rw [toNat_windowStart, UInt64.le_iff_toNat_le, hfour]
    omega
  case start_cut =>
    intro hlt
    rw [UInt64.lt_iff_toNat_lt, hfour] at hlt
    rw [← UInt64.toNat_inj, toNat_windowStart]
    exact Nat.sub_eq_zero_of_le (Nat.le_of_lt hlt)
  case stop_iff =>
    rw [toNat_saturatingAdd, hwindow]
    omega
  case stop_cut =>
    intro hlarge
    rw [← UInt64.toNat_inj, toNat_windowEnd]
    omega

/-! ### The bar as markup -/

/-- A link to a page of a report, as it is written. -/
def pageAnchor (report : String) (p : Paging) (page : UInt64) (label : String) : String :=
  "<a href=\"" ++ escape ("?" ++ pagingQuery report (p.atPage page)) ++ "\">" ++ label ++
    "</a>"

/-- An entry of the bar, as it is written. -/
def BarItem.markup (report : String) (p : Paging) : BarItem → String
  | previous n => pageAnchor report p n "&laquo; Previous"
  | page n => pageAnchor report p n (Nat.repr (n.toNat + 1))
  | current n => "<strong>" ++ Nat.repr (n.toNat + 1) ++ "</strong>"
  | dots => "&hellip;"
  | next n => pageAnchor report p n "Next &raquo;"

/-- The bar with its entries, as it is written. -/
def barMarkup (report : String) (p : Paging) (items : List BarItem) : String :=
  "<nav class=\"paging\">" ++ String.intercalate " " (items.map (BarItem.markup report p)) ++
    "</nav>\n"

theorem write_pageLink (report : String) (p : Paging) (page : UInt64) (label : List Node) :
    (pageLink report p page label).write = pageAnchor report p page (writeAll label) := by
  have hopening : ("<a" ++ " href=\"" : String) = "<a href=\"" := by decide
  simp only [pageLink, link, Node.write, writeOpening, writeAttribute, pageAnchor, List.map_cons,
    List.map_nil, String.join_cons, String.join_nil, String.append_assoc, ← hopening]
  rfl

theorem BarItem.write_node (report : String) (p : Paging) {item : BarItem}
    (h : ∀ n, item.number? = some n → n.toNat + 1 < 0x10000000000000000) :
    (item.node report p).write = item.markup report p := by
  have hnumber : ∀ n, item.number? = some n →
      writeAll [.text (pageNumber n)] = Nat.repr (n.toNat + 1) := fun n hn => by
    simp [writeAll, Node.write, pageNumber, Text.unsignedText, toNat_number (h n hn), escape_repr]
  cases item with
  | previous n => exact write_pageLink report p n _
  | page n => rw [node, write_pageLink, hnumber n rfl, markup]
  | current n =>
    have hopening : writeOpening "strong" [] = "<strong>" := by decide
    have hclosing : ("</" ++ ("strong" ++ ">") : String) = "</strong>" := by decide
    simp only [node, el, Node.write, hnumber n rfl, hopening, markup, String.append_assoc, hclosing]
  | dots => rfl
  | next n => exact write_pageLink report p n _

theorem writeAll_intersperse (sep : Node) : (nodes : List Node) →
    writeAll (nodes.intersperse sep) = String.intercalate sep.write (nodes.map Node.write)
  | [] => rfl
  | [n] => by simp [writeAll]
  | n :: m :: rest => by
    rw [List.intersperse_cons_cons, writeAll, writeAll, writeAll_intersperse sep (m :: rest),
      List.map_cons, List.map_cons, List.map_cons, String.intercalate_cons_cons,
      String.append_assoc]

theorem writeAll_pagingBar {report : String} {p : Paging} {total : UInt64}
    (hpage : p.page ≤ lastPage total p.perPage) (h : p.perPage < total) :
    writeAll (pagingBar report p total) = barMarkup report p (shownItems p total) := by
  have hmany : ¬total ≤ p.perPage := UInt64.not_le.2 h
  have hlast := toNat_lastPage_lt total p.perPage
  have hspace : escape " " = " " := by decide
  have hnewline : newline.write = "\n" := by decide
  have hopening : writeOpening "nav" [("class", "paging")] = "<nav class=\"paging\">" := by decide
  have hclosing : ("</" ++ ("nav" ++ (">" ++ "\n")) : String) = "</nav>\n" := by decide
  have hitems : (barItems p.page (lastPage total p.perPage)).map
      (Node.write ∘ BarItem.node report p) =
        (barItems p.page (lastPage total p.perPage)).map (BarItem.markup report p) := by
    refine List.map_congr_left fun item hitem => BarItem.write_node report p fun n hn => ?_
    have hnumber := List.mem_filterMap.2 ⟨item, hitem, hn⟩
    rw [filterMap_number?_barItems hpage, mem_barNumbers hpage, UInt64.le_iff_toNat_le] at hnumber
    omega
  rw [pagingBar, shownItems, if_neg hmany, if_neg hmany]
  unfold barMarkup
  simp only [writeAll, Node.write, hopening, hnewline, writeAll_intersperse, List.map_map, hitems,
    hspace, String.append_assoc, String.append_empty, hclosing]

/-- **The paging bar is exact** at every page up to the last one, for every size of pages and every
total. It is empty where all rows stand on one page. Otherwise it shows the pages as `ShowsPages`
says. The last page is that of the last row. None of the sums and differences of the bar leaves the
words, except those that end the window, which are cut off as `ExactSums` says. -/
theorem pagingBar_exact (report : String) (p : Paging) (total : UInt64)
    (hpage : p.page ≤ lastPage total p.perPage) :
    (writeAll (pagingBar report p total) = "" ↔ total ≤ p.perPage) ∧
    (p.perPage < total →
      writeAll (pagingBar report p total) = barMarkup report p (shownItems p total) ∧
      ShowsPages p.page (lastPage total p.perPage) (shownItems p total)) ∧
    (lastPage total p.perPage).toNat = (total.toNat - 1) / max p.perPage.toNat 1 ∧
    ExactSums p.page (lastPage total p.perPage) := by
  refine ⟨⟨fun hempty => ?_, fun hone => ?_⟩, fun hmany => ⟨writeAll_pagingBar hpage hmany, ?_⟩,
    toNat_lastPage total p.perPage, exactSums p.page (toNat_lastPage_lt total p.perPage)⟩
  · by_contra hmany
    rw [writeAll_pagingBar hpage (UInt64.not_le.1 hmany)] at hempty
    unfold barMarkup at hempty
    have hclosing := (String.append_eq_empty_iff.1 hempty).2
    contradiction
  · rw [pagingBar, if_pos hone]
    rfl
  · rw [shownItems, if_neg (UInt64.not_le.2 hmany)]
    exact showsPages_barItems hpage

/-- The bar at the last page that there can be. -/
theorem pagingBar_exact_at_largest_page :
    (18446744073709551614 : UInt64) ≤ lastPage 18446744073709551615 1 ∧
    writeAll (pagingBar "reviews" ⟨18446744073709551614, 1, none, .ascending⟩
      18446744073709551615) ≠ "" ∧
    ShowsPages 18446744073709551614 18446744073709551614
      [.previous 18446744073709551613, .page 0, .dots, .page 18446744073709551610,
        .page 18446744073709551611, .page 18446744073709551612, .page 18446744073709551613,
        .current 18446744073709551614] ∧
    ExactSums 18446744073709551614 18446744073709551614 := by
  have hpage : (18446744073709551614 : UInt64) ≤ lastPage 18446744073709551615 1 := by decide
  obtain ⟨hempty, hshown, -, hsums⟩ := pagingBar_exact "reviews"
    ⟨18446744073709551614, 1, none, .ascending⟩ 18446744073709551615 hpage
  exact ⟨hpage, mt hempty.1 (by decide), (hshown (by decide)).2, hsums⟩

/-- The window is cut off at the first of two pages, where it would begin four pages earlier, and
at the largest page, where it would end with no word. -/
theorem window_cut_off :
    ((0 : UInt64) ≤ lastPage 31 30 ∧ (30 : UInt64) < 31 ∧
      ((windowStart 0).toNat : Int) ≠ (0 : UInt64).toNat - pagingWindow.toNat) ∧
    (18446744073709551614 : UInt64) ≤ lastPage 18446744073709551615 1 ∧
      (1 : UInt64) < 18446744073709551615 ∧
      (saturatingAdd 18446744073709551614 pagingWindow).toNat ≠
        (18446744073709551614 : UInt64).toNat + pagingWindow.toNat := by
  decide

end PagedReports.Html
