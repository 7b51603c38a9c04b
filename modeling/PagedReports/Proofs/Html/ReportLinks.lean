import Mathlib.Data.List.Basic
import PagedReports.Html.ReportPage
import PagedReports.Proofs.Html.Links

/-!
# The links of a report

In the page of a report, the links in the navigation are those of the paging bar, twice
(`linksIn_nav_renderReport`), and the links in the head of the table are those of the sortable
columns (`linksIn_thead_renderReport`), whatever texts and cells the page has.

A link of the bar to another page says which one (`shows_of_mem_barItems`): by its number, or by
being the one back or on.
-/

namespace PagedReports.Html

/-! ### The window -/

theorem toNat_windowStart (current : UInt64) :
    (windowStart current).toNat = current.toNat - 4 := toNat_saturatingSub current 4

/-- The window ends at the last page if there are not four pages after the current one, also where
the sum is no word. -/
theorem toNat_windowEnd (current last : UInt64) :
    (windowEnd current last).toNat = min (current.toNat + 4) last.toNat := by
  have hlast : last.toNat < 0x10000000000000000 := last.toNat_lt
  have hfour : pagingWindow.toNat = 4 := rfl
  rw [windowEnd, UInt64.toNat_min, toNat_saturatingAdd, hfour]
  omega

theorem windowEnd_le (current last : UInt64) : windowEnd current last ≤ last := by
  rw [UInt64.le_iff_toNat_le, toNat_windowEnd]
  exact Nat.min_le_right _ _

theorem mem_pagesBetween {start stop page : UInt64} :
    page ∈ pagesBetween start stop ↔ start ≤ page ∧ page ≤ stop := by
  have hstop : stop.toNat < 0x10000000000000000 := stop.toNat_lt
  rw [pagesBetween, List.mem_map, UInt64.le_iff_toNat_le, UInt64.le_iff_toNat_le]
  constructor
  · rintro ⟨n, hn, rfl⟩
    rw [List.mem_range'_1] at hn
    rw [UInt64.toNat_ofNat_of_lt' (show n < 0x10000000000000000 by omega)]
    omega
  · intro h
    exact ⟨page.toNat, List.mem_range'_1.2 (by omega), UInt64.ofNat_toNat⟩

/-! ### The paging bar -/

/-- The page that an entry of the bar leads to. -/
def BarItem.page? : BarItem → Option UInt64
  | previous n | page n | next n => some n
  | current _ | dots => none

/-- What stands in an entry of the bar. -/
def BarItem.label : BarItem → String
  | previous _ => "&laquo; Previous"
  | page n | current n => pageNumber n
  | dots => "&hellip;"
  | next _ => "Next &raquo;"

/-- The link to a query, with a label. -/
def queryLink (query label : String) : Link := ⟨escape ("?" ++ query), label⟩

/-- The link of an entry of the bar. -/
def BarItem.link? (report : String) (p : Paging) (item : BarItem) : Option Link :=
  item.page?.map fun page => queryLink (pagingQuery report (p.atPage page)) item.label

/-- Signs of markup do not stand in numerals. -/
theorem escape_repr (n : Nat) : escape (Nat.repr n) = Nat.repr n := by
  have h : ∀ cs : List Char, (∀ c ∈ cs, c.isDigit = true) → cs.flatMap escapeChar = cs := by
    intro cs
    induction cs with
    | nil => exact fun _ => rfl
    | cons c cs ih =>
      intro hcs
      have hc : escapeChar c = [c] := by
        have hdigit := hcs c List.mem_cons_self
        unfold escapeChar
        split
        case h_6 => rfl
        all_goals exact absurd hdigit (by decide)
      rw [List.flatMap_cons, hc, ih fun x hx => hcs x (List.mem_cons_of_mem c hx)]
      rfl
  have hdigits : ∀ c ∈ Nat.toDigits 10 n, c.isDigit = true := fun c hc =>
    Nat.isDigit_of_mem_toDigits (by decide) (by decide) hc
  rw [escape, Nat.toList_repr, h _ hdigits, ← Nat.toList_repr, String.ofList_toList]

theorem BarItem.usesOnly_node (report : String) (p : Paging) (item : BarItem) :
    (item.node report p).usesOnly ["a", "href", "strong"] = true := by
  cases item <;> rfl

theorem BarItem.hasLinks (report : String) (p : Paging) (item : BarItem) :
    HasLinks [item.node report p] (item.link? report p).toList := by
  have hnumber : ∀ n, writeAll [.text (pageNumber n)] = pageNumber n := fun n => by
    simp [writeAll, Node.write, pageNumber, Text.unsignedText, escape_repr]
  cases item with
  | previous n => exact HasLinks.link _ rfl _
  | page n =>
    have h := HasLinks.link [.text (pageNumber n)] rfl (pagingQuery report (p.atPage n))
    rwa [hnumber] at h
  | current n => exact HasLinks.of_not_mem ["strong"] (by decide) rfl
  | dots => exact HasLinks.of_not_mem [] (by decide) rfl
  | next n => exact HasLinks.link _ rfl _

theorem mem_intersperse {α : Type} {sep x : α} :
    {xs : List α} → x ∈ xs.intersperse sep → x ∈ xs ∨ x = sep
  | [], h => .inl h
  | [_], h => .inl h
  | y :: z :: zs, h => by
    rw [List.intersperse_cons_cons, List.mem_cons, List.mem_cons] at h
    rcases h with rfl | rfl | h
    · exact .inl List.mem_cons_self
    · exact .inr rfl
    · exact (mem_intersperse h).imp_left (List.mem_cons_of_mem y)

/-- What stands in the navigation. -/
def barContent (report : String) (p : Paging) (items : List BarItem) : List Node :=
  (items.map (BarItem.node report p)).intersperse (.text " ")

theorem usesOnly_barContent (report : String) (p : Paging) (items : List BarItem) :
    allUseOnly ["a", "href", "strong"] (barContent report p items) = true := by
  refine allUseOnly_iff.2 fun n hn => ?_
  rcases mem_intersperse hn with hn | rfl
  · obtain ⟨item, -, rfl⟩ := List.mem_map.1 hn
    exact item.usesOnly_node report p
  · rfl

theorem hasLinks_barContent (report : String) (p : Paging) (items : List BarItem) :
    HasLinks (barContent report p items) (items.filterMap (BarItem.link? report p)) := by
  have hspace : HasLinks [.text " "] [] :=
    HasLinks.of_not_mem [] (by decide) rfl
  rw [List.filterMap_eq_flatMap_toList]
  exact HasLinks.intersperse hspace fun item _ => item.hasLinks report p

/-- The entries of the bar for a total; none when all rows stand on one page. -/
def shownItems (p : Paging) (total : UInt64) : List BarItem :=
  if total ≤ p.perPage then [] else barItems p.page (lastPage total p.perPage)

theorem insideFrom_nav_pagingBar (report : String) (p : Paging) (total : UInt64)
    (rest : List Piece) :
    insideFrom "nav" false (piecesAll (pagingBar report p total) ++ rest) =
      piecesAll (barContent report p (shownItems p total)) ++ insideFrom "nav" false rest := by
  unfold pagingBar shownItems
  split
  · rfl
  · have hcontent := usesOnly_barContent report p
      (barItems p.page (lastPage total p.perPage))
    rw [piecesAll, List.append_assoc]
    exact (insideFrom_element _ (by decide) hcontent _ _).trans
      (congrArg _ (insideFrom_nodes [] (by decide) [newline] rfl rest))

/-! ### The table -/

/-- The names in the rows of a table. -/
def rowNames : List String := ["tr", "td", "colspan", "a", "href"]

/-- The names in the heads of a table. -/
def headNames : List String := ["tr", "th", "a", "href"]

theorem usesOnly_cell (cell : Option Cell) :
    allUseOnly ["a", "href"] (cell.map Cell.node).toList = true := by
  rcases cell with _ | ⟨s⟩ | ⟨href, label⟩ <;> rfl

theorem usesOnly_bodyCells (columns : List Column) (cells : Cells) :
    allUseOnly ["td", "a", "href"] (columns.map (bodyCell cells)) = true := by
  refine allUseOnly_iff.2 (List.forall_mem_map.2 fun c _ => Node.usesOnly_element.2 ?_)
  exact ⟨by decide, by decide, allUseOnly_mono (by decide) _ (usesOnly_cell _)⟩

theorem usesOnly_bodyRows (v : View) : allUseOnly rowNames (bodyRows v) = true := by
  have hrow : ∀ cells, allUseOnly rowNames (bodyRow v.columns cells) = true := by
    intro cells
    have hcells : allUseOnly rowNames (v.columns.map (bodyCell cells)) = true :=
      allUseOnly_mono (by decide) _ (usesOnly_bodyCells v.columns cells)
    exact allUseOnly_cons.2 ⟨Node.usesOnly_element.2 ⟨by decide, by decide, hcells⟩, rfl⟩
  unfold bodyRows
  split
  · rfl
  · refine allUseOnly_iff.2 fun n hn => ?_
    obtain ⟨cells, -, hn⟩ := List.mem_flatMap.1 hn
    exact allUseOnly_iff.1 (hrow cells) n hn

/-- The heads of the columns, in their row. -/
def headContent (report : String) (p : Paging) (columns : List Column) : List Node :=
  [newline, el "tr" (columns.map (columnHead report p)), newline]

theorem usesOnly_sortMark (active : Bool) (d : Direction) :
    allUseOnly [] (sortMark active d) = true := by
  cases active <;> cases d <;> rfl

theorem usesOnly_headContent (report : String) (p : Paging) (columns : List Column) :
    allUseOnly headNames (headContent report p columns) = true := by
  have hhead : ∀ c, (columnHead report p c).usesOnly headNames = true := by
    intro c
    have hmark := allUseOnly_mono (List.nil_subset headNames) _
      (usesOnly_sortMark (p.sortKey = some c.key) p.direction)
    unfold columnHead
    split
    · exact Node.usesOnly_element.2
        ⟨by decide, by decide, allUseOnly_cons.2 ⟨by rfl, hmark⟩⟩
    · rfl
  have hheads : allUseOnly headNames (columns.map (columnHead report p)) = true :=
    allUseOnly_iff.2 (List.forall_mem_map.2 fun c _ => hhead c)
  exact allUseOnly_cons.2 ⟨rfl, allUseOnly_cons.2
    ⟨Node.usesOnly_element.2 ⟨by decide, by decide, hheads⟩, rfl⟩⟩

/-- The link in the head of a sortable column. -/
def headLink (report : String) (p : Paging) (c : Column) : Link :=
  queryLink (pagingQuery report (headTarget p c.key)) (escape c.label)

theorem hasLinks_headContent (report : String) (p : Paging) (columns : List Column) :
    HasLinks (headContent report p columns)
      ((columns.filter Column.isSortable).map (headLink report p)) := by
  have hnewline : HasLinks [newline] [] := HasLinks.of_not_mem [] (by decide) rfl
  have hhead : ∀ c, HasLinks [columnHead report p c]
      (if c.isSortable then [headLink report p c] else []) := by
    intro c
    unfold columnHead
    split
    · have hmark := HasLinks.of_not_mem [] (by decide)
        (usesOnly_sortMark (p.sortKey = some c.key) p.direction)
      have hlabel : writeAll [.text c.label] = escape c.label := by simp [writeAll, Node.write]
      have hlink := HasLinks.link [.text c.label] rfl
        (pagingQuery report (headTarget p c.key))
      rw [hlabel] at hlink
      exact HasLinks.element "th" [] (by simp) (hlink.cons hmark)
    · exact HasLinks.of_not_mem ["th"] (by decide) rfl
  have hlinks : (columns.filter Column.isSortable).map (headLink report p) =
      columns.flatMap fun c => if c.isSortable then [headLink report p c] else [] := by
    rw [← List.filterMap_eq_filter, List.map_filterMap, List.filterMap_eq_flatMap_toList]
    refine List.flatMap_congr fun c _ => ?_
    cases hc : c.isSortable <;> simp [Option.guard, hc]
  have hrow := HasLinks.element "tr" [] (by simp)
    (HasLinks.map fun c (_ : c ∈ columns) => hhead c)
  rw [hlinks, ← List.append_nil (List.flatMap _ _)]
  exact hnewline.cons (hrow.cons hnewline)

/-- The names in a table. -/
def tableNames : List String := ["table", "class", "thead", "tbody"] ++ headNames ++ rowNames

theorem usesOnly_table (v : View) : (table v).usesOnly tableNames = true := by
  have hheads : allUseOnly tableNames
      (headContent v.descriptor.name v.page.paging v.columns) = true :=
    allUseOnly_mono (by decide) _ (usesOnly_headContent _ _ _)
  have hrows : allUseOnly tableNames (bodyRows v) = true :=
    allUseOnly_mono (by decide) _ (usesOnly_bodyRows v)
  have hbody : allUseOnly tableNames (newline :: bodyRows v) = true :=
    allUseOnly_cons.2 ⟨rfl, hrows⟩
  refine Node.usesOnly_element.2 ⟨by decide, by decide, allUseOnly_cons.2 ⟨rfl, ?_⟩⟩
  refine allUseOnly_cons.2 ⟨Node.usesOnly_element.2 ⟨by decide, by decide, hheads⟩, ?_⟩
  refine allUseOnly_cons.2 ⟨rfl, allUseOnly_cons.2 ⟨?_, rfl⟩⟩
  exact Node.usesOnly_element.2 ⟨by decide, by decide, hbody⟩

theorem insideFrom_thead_table (v : View) (rest : List Piece) :
    insideFrom "thead" false ((table v).pieces ++ rest) =
      piecesAll (headContent v.descriptor.name v.page.paging v.columns) ++
        insideFrom "thead" false rest := by
  have hheads := usesOnly_headContent v.descriptor.name v.page.paging v.columns
  have hrows : allUseOnly ("tbody" :: rowNames) (bodyRows v) = true :=
    allUseOnly_mono (by decide) _ (usesOnly_bodyRows v)
  have hbody : allUseOnly ("tbody" :: rowNames) [newline, el "tbody" (newline :: bodyRows v),
      newline] = true :=
    allUseOnly_cons.2 ⟨rfl, allUseOnly_cons.2 ⟨Node.usesOnly_element.2
      ⟨by decide, by decide, allUseOnly_cons.2 ⟨rfl, hrows⟩⟩, rfl⟩⟩
  rw [table, insideFrom_of_ne (by decide), piecesAll, List.append_assoc, piecesAll,
    List.append_assoc]
  refine (insideFrom_nodes [] (by decide) [newline] rfl _).trans ?_
  refine (insideFrom_element headNames (by decide) hheads _ _).trans (congrArg _ ?_)
  exact insideFrom_nodes _ (by decide) _ hbody _

/-! ### The page -/

/-- The names in a page of a report. -/
def reportNames : List String := ["p", "nav", "strong"] ++ tableNames

theorem usesOnly_pagingBar (report : String) (p : Paging) (total : UInt64) :
    allUseOnly ["nav", "class", "strong", "a", "href"] (pagingBar report p total) = true := by
  unfold pagingBar
  split
  · rfl
  · have hcontent : allUseOnly ["nav", "class", "strong", "a", "href"] (barContent report p
        (barItems p.page (lastPage total p.perPage))) = true :=
      allUseOnly_mono (by decide) _ (usesOnly_barContent _ _ _)
    exact allUseOnly_cons.2 ⟨Node.usesOnly_element.2 ⟨by decide, by decide, hcontent⟩, rfl⟩

theorem usesOnly_reportNodes (v : View) : allUseOnly reportNames (reportNodes v) = true := by
  have hbar : allUseOnly reportNames
      (pagingBar v.descriptor.name v.page.paging v.page.total) = true :=
    allUseOnly_mono (by decide) _ (usesOnly_pagingBar _ _ _)
  have htable : (table v).usesOnly reportNames = true :=
    Node.usesOnly_mono (by decide) _ (usesOnly_table v)
  simp only [reportNodes, allUseOnly_append]
  exact ⟨⟨⟨rfl, hbar⟩, allUseOnly_cons.2 ⟨htable, rfl⟩⟩, hbar⟩

theorem read_renderReport (v : View) : read (renderReport v) = piecesAll (reportNodes v) :=
  read_writeAll (by decide) (usesOnly_reportNodes v)

/-- What stands in a part of the table stands nowhere else in the page. -/
theorem insideFrom_renderReport {part : String} {v : View} {content : List Piece}
    (hpart : part ∉ ["p", "class", "nav", "strong", "a", "href"])
    (htable : ∀ rest, insideFrom part false ((table v).pieces ++ rest) =
      content ++ insideFrom part false rest) :
    insideFrom part false (read (renderReport v)) = content := by
  have hbar : allUseOnly ["p", "class", "nav", "strong", "a", "href"]
      (pagingBar v.descriptor.name v.page.paging v.page.total) = true :=
    allUseOnly_mono (by decide) _ (usesOnly_pagingBar _ _ _)
  have htableNodes : piecesAll [table v, newline] = (table v).pieces ++ piecesAll [newline] := rfl
  rw [read_renderReport, reportNodes, ← List.append_nil (piecesAll _)]
  simp only [piecesAll_append, htableNodes, List.append_assoc]
  rw [insideFrom_nodes _ hpart _ rfl, insideFrom_nodes _ hpart _ hbar, htable,
    insideFrom_nodes [] List.not_mem_nil [newline] rfl, insideFrom_nodes _ hpart _ hbar]
  exact List.append_nil _

/-- The links in the navigation of a page are those of the paging bar, which stands twice. -/
theorem linksIn_nav_renderReport (v : View) :
    linksIn "nav" (renderReport v) =
      (shownItems v.page.paging v.page.total).filterMap
          (BarItem.link? v.descriptor.name v.page.paging) ++
        (shownItems v.page.paging v.page.total).filterMap
          (BarItem.link? v.descriptor.name v.page.paging) := by
  have htable : allUseOnly tableNames [table v, newline] = true :=
    allUseOnly_cons.2 ⟨usesOnly_table v, rfl⟩
  have hlinks := hasLinks_barContent v.descriptor.name v.page.paging
    (shownItems v.page.paging v.page.total)
  rw [linksIn, read_renderReport, reportNodes, ← List.append_nil (piecesAll _)]
  simp only [piecesAll_append, List.append_assoc]
  rw [insideFrom_nodes ["p", "class"] (by decide) _ rfl, insideFrom_nav_pagingBar,
    insideFrom_nodes tableNames (by decide) _ htable, insideFrom_nav_pagingBar, hlinks, hlinks]
  exact congrArg _ (List.append_nil _)

/-- The links in the head of the table are those of the sortable columns. -/
theorem linksIn_thead_renderReport (v : View) :
    linksIn "thead" (renderReport v) = (v.columns.filter Column.isSortable).map
      (headLink v.descriptor.name v.page.paging) := by
  have hlinks := hasLinks_headContent v.descriptor.name v.page.paging v.columns
  rw [linksIn, insideFrom_renderReport (by decide) (insideFrom_thead_table v),
    ← List.append_nil (piecesAll _), hlinks]
  exact List.append_nil _

/-! ### What the links of the bar say -/

/-- The label of a link in the navigation says which page it leads to: the one before the current
page, the one after it, or the one with that number, counted from one. -/
inductive Shows (current : UInt64) : String → UInt64 → Prop where
  /-- The link back. -/
  | previous {page : UInt64} (before : page.toNat + 1 = current.toNat) :
    Shows current "&laquo; Previous" page
  /-- A link under a number. -/
  | number (page : UInt64) : Shows current (Nat.repr (page.toNat + 1)) page
  /-- The link on. -/
  | next {page : UInt64} (after : page.toNat = current.toNat + 1) :
    Shows current "Next &raquo;" page

theorem mem_barItems {current last : UInt64} {item : BarItem} (h : item ∈ barItems current last) :
    (0 < current ∧ item = .previous (current - 1)) ∨ (∃ n ≤ last, item = .page n) ∨
      item.page? = none ∨ (current < last ∧ item = .next (current + 1)) := by
  simp only [barItems, List.mem_append, List.mem_map, mem_pagesBetween, List.mem_ite_nil_right,
    List.mem_cons, List.not_mem_nil, or_false] at h
  rcases h with (((⟨hpos, rfl⟩ | ⟨-, rfl | ⟨-, rfl⟩⟩) | ⟨n, hn, rfl⟩) | ⟨-, ⟨-, rfl⟩ | rfl⟩) | hnext
  · exact .inl ⟨hpos, rfl⟩
  · exact .inr (.inl ⟨0, UInt64.zero_le, rfl⟩)
  · exact .inr (.inr (.inl rfl))
  · have hle : n ≤ last := UInt64.le_trans hn.2 (windowEnd_le current last)
    split
    · exact .inr (.inr (.inl rfl))
    · exact .inr (.inl ⟨n, hle, rfl⟩)
  · exact .inr (.inr (.inl rfl))
  · exact .inr (.inl ⟨last, UInt64.le_rfl, rfl⟩)
  · exact .inr (.inr (.inr hnext))

/-- The page before is one less. -/
theorem toNat_pred {n : UInt64} (h : 0 < n) : (n - 1).toNat + 1 = n.toNat := by
  have hone : 1 ≤ n := UInt64.le_iff_toNat_le.2 (UInt64.lt_iff_toNat_lt.1 h)
  have hpos : 0 < n.toNat := UInt64.lt_iff_toNat_lt.1 h
  rw [UInt64.toNat_sub_of_le _ _ hone]
  exact Nat.sub_add_cancel hpos

/-- The page after is one more, if there is a larger word. -/
theorem toNat_succ {n m : UInt64} (h : n < m) : (n + 1).toNat = n.toNat + 1 := by
  have hm : m.toNat < 0x10000000000000000 := m.toNat_lt
  have hlt : n.toNat < m.toNat := UInt64.lt_iff_toNat_lt.1 h
  have hone : (1 : UInt64).toNat = 1 := rfl
  rw [UInt64.toNat_add, hone]
  exact Nat.mod_eq_of_lt (show n.toNat + 1 < 0x10000000000000000 by omega)

/-- The number of a page is one more, if this is a word. -/
theorem toNat_number {n : UInt64} (h : n.toNat + 1 < 0x10000000000000000) :
    (saturatingAdd n 1).toNat = n.toNat + 1 := by
  have hone : (1 : UInt64).toNat = 1 := rfl
  rw [toNat_saturatingAdd, hone]
  omega

/-- No page has a number beyond the words. -/
theorem toNat_lastPage_lt (total perPage : UInt64) :
    (lastPage total perPage).toNat + 1 < 0x10000000000000000 := by
  have htotal : total.toNat < 0x10000000000000000 := total.toNat_lt
  have hle : (total.toNat - 1) / max perPage.toNat 1 ≤ total.toNat - 1 := Nat.div_le_self _ _
  rw [toNat_lastPage]
  omega

/-- An entry of the bar leads where its label says, and not beyond both the current page and the
last one. -/
theorem shows_of_mem_barItems {current last page : UInt64}
    (hlast : last.toNat + 1 < 0x10000000000000000) {item : BarItem}
    (h : item ∈ barItems current last) (hpage : item.page? = some page) :
    Shows current item.label page ∧ page.toNat ≤ max current.toNat last.toNat := by
  rcases mem_barItems h with ⟨hpos, rfl⟩ | ⟨n, hn, rfl⟩ | hnone | ⟨hlt, rfl⟩
  · have hbefore := toNat_pred hpos
    cases hpage
    exact ⟨.previous hbefore, by omega⟩
  · rw [UInt64.le_iff_toNat_le] at hn
    cases hpage
    refine ⟨?_, by omega⟩
    have hshows : Shows current _ page := .number page
    rwa [← toNat_number (by omega)] at hshows
  · rw [hnone] at hpage
    cases hpage
  · have hafter := toNat_succ hlt
    rw [UInt64.lt_iff_toNat_lt] at hlt
    cases hpage
    exact ⟨.next hafter, by omega⟩

theorem shows_of_mem_shownItems {p : Paging} {total page : UInt64} {item : BarItem}
    (h : item ∈ shownItems p total) (hpage : item.page? = some page) :
    Shows p.page item.label page ∧
      page.toNat ≤ max p.page.toNat (lastPage total p.perPage).toNat := by
  unfold shownItems at h
  split at h
  · cases h
  · exact shows_of_mem_barItems (toNat_lastPage_lt total p.perPage) h hpage

end PagedReports.Html
