import PagedReports.Proofs.Html.ReportLinks
import PagedReports.Proofs.Json.Lookup
import PagedReports.Terminal

/-!
# One page, three ways

A page of a report is shown as markup, as a document and as text on a terminal, and all three show
the same cells (`View.shownAlike`).

The cells of the table are found in the written markup by reading it (`cellsIn`): their texts are
what is left when tags are taken away and the five signs of markup are put back, and their targets
are those of the links in them. Whatever texts a page has, they are put back as they were, and the
rows and cells are found where they were written (`cellsIn_tbody`, `cellsIn_thead`).
-/

namespace PagedReports

namespace Html

/-! ### Elements one by one -/

/-- What stands in each element of a name, from within one or from outside. Of the element one is
in, the pieces so far are known. -/
def contentsFrom (name : String) : Option (List Piece) → List Piece → List (List Piece)
  | _, [] => []
  | none, .opening n _ :: rest => contentsFrom name (if n = name then some [] else none) rest
  | none, .char _ :: rest => contentsFrom name none rest
  | none, .closing _ :: rest => contentsFrom name none rest
  | some before, .closing n :: rest =>
    if n = name then before :: contentsFrom name none rest
    else contentsFrom name (some (before ++ [.closing n])) rest
  | some before, .char c :: rest => contentsFrom name (some (before ++ [.char c])) rest
  | some before, .opening n attributes :: rest =>
    contentsFrom name (some (before ++ [.opening n attributes])) rest

/-- What stands in each element of a name, in order. -/
def contents (name : String) (ps : List Piece) : List (List Piece) := contentsFrom name none ps

/-- The character that a piece is. -/
def Piece.char? : Piece → Option Char
  | .char c => some c
  | .opening _ _ | .closing _ => none

/-- What a piece leads to, if it is the opening tag of a link. -/
def Piece.target? : Piece → Option String
  | .opening name attributes =>
    if name = "a" then (attributes.lookup "href").map unescape else none
  | .char _ | .closing _ => none

/-- What a reader sees of a cell. -/
structure Seen where
  /-- The text. -/
  text : String
  /-- What the links lead to. -/
  targets : List String
  deriving DecidableEq, Repr

/-- Pieces without their tags, and with the signs of markup put back. -/
def seen (ps : List Piece) : Seen where
  text := unescape (.ofList (ps.filterMap Piece.char?))
  targets := ps.filterMap Piece.target?

/-- The cells in a part of the table, row by row. -/
def cellsIn (part cell markup : String) : List (List Seen) :=
  (contents "tr" (insideFrom part false (read markup))).map fun row =>
    (contents cell row).map seen

/-! ### Elements among pieces -/

section Elements

variable (vocabulary : List String) {name : String} (hname : name ∉ vocabulary)

include hname

/-- Pieces without the name are collected where one is in an element of that name. -/
theorem contentsFrom_some {ps : List Piece} (h : ∀ p ∈ ps, p.usesOnly vocabulary)
    (before rest : List Piece) :
    contentsFrom name (some before) (ps ++ rest) =
      contentsFrom name (some (before ++ ps)) rest := by
  induction ps generalizing before with
  | nil => rw [List.nil_append, List.append_nil]
  | cons p ps ih =>
    have ih := ih (fun q hq => h q (List.mem_cons_of_mem p hq)) (before ++ [p])
    rw [List.append_assoc, List.singleton_append] at ih
    have hp := h p List.mem_cons_self
    cases p with
    | char c => exact ih
    | opening n attributes => exact ih
    | closing n =>
      have hne : n ≠ name := fun heq => hname (heq ▸ hp)
      rw [List.cons_append, contentsFrom, if_neg hne, ih]

/-- Outside of the elements of a name, pieces without that name do not matter. -/
theorem contentsFrom_none {ps : List Piece} (h : ∀ p ∈ ps, p.usesOnly vocabulary)
    (rest : List Piece) :
    contentsFrom name none (ps ++ rest) = contentsFrom name none rest := by
  induction ps with
  | nil => rfl
  | cons p ps ih =>
    have ih := ih fun q hq => h q (List.mem_cons_of_mem p hq)
    have hp := h p List.mem_cons_self
    cases p with
    | char c => exact ih
    | closing n => exact ih
    | opening n attributes =>
      have hne : n ≠ name := fun heq => hname (heq ▸ hp.1)
      rw [List.cons_append, contentsFrom, if_neg hne, ih]

end Elements

/-- The elements of a name among nodes have these contents, wherever the nodes stand outside of such
elements. -/
def HasContents (name : String) (ns : List Node) (parts : List (List Piece)) : Prop :=
  ∀ rest, contentsFrom name none (piecesAll ns ++ rest) = parts ++ contentsFrom name none rest

namespace HasContents

variable {name : String} {ns ms : List Node} {parts parts' : List (List Piece)}

theorem nil : HasContents name [] [] := fun _ => rfl

theorem append (h : HasContents name ns parts) (h' : HasContents name ms parts') :
    HasContents name (ns ++ ms) (parts ++ parts') := by
  intro rest
  rw [piecesAll_append, List.append_assoc, h, h', List.append_assoc]

/-- Nodes without the name have no such elements. -/
theorem of_not_mem (vocabulary : List String) (hname : name ∉ vocabulary)
    (h : allUseOnly vocabulary ns = true) : HasContents name ns [] := fun rest =>
  contentsFrom_none vocabulary hname (usesOnly_of_mem_piecesAll ns h) rest

/-- An element of the name has its own content. -/
theorem element (vocabulary : List String) (hname : name ∉ vocabulary)
    (h : allUseOnly vocabulary ns = true) (attributes : List (String × String)) :
    HasContents name [.element name attributes ns] [piecesAll ns] := by
  intro rest
  have hcontent := contentsFrom_some vocabulary hname (usesOnly_of_mem_piecesAll ns h) []
    (.closing name :: rest)
  simp only [piecesAll, Node.pieces, List.append_nil, List.cons_append, List.append_assoc,
    List.nil_append, contentsFrom, if_pos]
  rw [hcontent, List.nil_append, contentsFrom, if_pos rfl]

theorem flatMap {α : Type} {nodes : α → List Node} {f : α → List Piece} {xs : List α}
    (h : ∀ x ∈ xs, HasContents name (nodes x) [f x]) :
    HasContents name (xs.flatMap nodes) (xs.map f) := by
  induction xs with
  | nil => exact nil
  | cons x xs ih =>
    exact (h x List.mem_cons_self).append (ih fun y hy => h y (List.mem_cons_of_mem x hy))

theorem contents_eq (h : HasContents name ns parts) : contents name (piecesAll ns) = parts := by
  have hend := h []
  rwa [List.append_nil, contentsFrom, List.append_nil] at hend

end HasContents

/-! ### What is seen of nodes -/

theorem filterMap_char?_chars (cs : List Char) :
    (cs.map Piece.char).filterMap Piece.char? = cs := by
  rw [List.filterMap_map]
  exact List.filterMap_some

theorem filterMap_target?_chars (cs : List Char) :
    (cs.map Piece.char).filterMap Piece.target? = [] := by
  rw [List.filterMap_map]
  exact List.filterMap_eq_nil_iff.2 fun _ _ => rfl

/-- Nodes without tags are seen as what they are written with. -/
theorem seen_of_text (ns : List Node) (h : allUseOnly [] ns = true) :
    seen (piecesAll ns) = ⟨unescape (writeAll ns), []⟩ := by
  rw [seen, piecesAll_of_allUseOnly_nil h, filterMap_char?_chars, filterMap_target?_chars,
    String.ofList_toList]

/-- A link with something after it is seen as its label and that. -/
theorem seen_of_link (label after : List Node) (hlabel : allUseOnly [] label = true)
    (hafter : allUseOnly [] after = true) (href : String) :
    seen (piecesAll (.element "a" [("href", href)] label :: after)) =
      ⟨unescape (writeAll label ++ writeAll after), [href]⟩ := by
  have hpieces : piecesAll (.element "a" [("href", href)] label :: after) =
      .opening "a" [("href", escape href)] :: ((writeAll label).toList.map .char ++
        .closing "a" :: (writeAll after).toList.map .char) := by
    simp [piecesAll, Node.pieces, attributeAsWritten, piecesAll_of_allUseOnly_nil hlabel,
      piecesAll_of_allUseOnly_nil hafter]
  have hopening : Piece.char? (.opening "a" [("href", escape href)]) = none := rfl
  have hclosing : Piece.char? (.closing "a") = none := rfl
  have htarget : Piece.target? (.opening "a" [("href", escape href)]) = some href := by
    simp [Piece.target?, unescape_escape]
  have hend : Piece.target? (.closing "a") = none := rfl
  rw [seen, hpieces, List.filterMap_cons_none hopening, List.filterMap_append,
    List.filterMap_cons_none hclosing, filterMap_char?_chars, filterMap_char?_chars,
    List.filterMap_cons_some htarget, List.filterMap_append, List.filterMap_cons_none hend,
    filterMap_target?_chars, filterMap_target?_chars, String.ofList_append, String.ofList_toList,
    String.ofList_toList]
  rfl

/-- What is to be seen of a cell; nothing where there is none. -/
def Seen.ofCell : Option Cell → Seen
  | none => ⟨"", []⟩
  | some (.text s) => ⟨s, []⟩
  | some (.link href label) => ⟨label, [href]⟩

theorem seen_cell (cell : Option Cell) :
    seen (piecesAll (cell.map Cell.node).toList) = Seen.ofCell cell := by
  have htext : ∀ s, unescape (writeAll [.text s]) = s := fun s => by
    simp [writeAll, Node.write, unescape_escape]
  rcases cell with _ | ⟨s⟩ | ⟨href, label⟩
  · rfl
  · exact (seen_of_text [.text s] rfl).trans (by rw [htext]; rfl)
  · refine (seen_of_link [.text label] [] rfl rfl href).trans ?_
    rw [writeAll, String.append_empty, htext]
    rfl

/-- The sign of the column that rows are sorted by. It is none of the five signs of markup, so it
is seen as it is written. -/
def sortSign (active : Bool) (d : Direction) : String :=
  if active then
    match d with
    | .ascending => " &#9650;"
    | .descending => " &#9660;"
  else ""

theorem unescape_sortMark (active : Bool) (d : Direction) :
    unescape (writeAll (sortMark active d)) = sortSign active d := by
  cases active <;> cases d <;> decide +kernel

/-- What is to be seen of the head of a column: the label, with a sign if rows are sorted by it,
and a link if they can be. -/
def Seen.ofHead (report : String) (p : Paging) (head : Json.Head) : Seen :=
  if head.sortable then
    ⟨head.label ++ sortSign (p.sortKey = some head.key) p.direction,
      ["?" ++ pagingQuery report (headTarget p head.key)]⟩
  else ⟨head.label, []⟩

/-- What stands in the head of a column. -/
def headNodes (report : String) (p : Paging) (c : Column) : List Node :=
  if c.isSortable then
    link (pagingQuery report (headTarget p c.key)) [.text c.label] ::
      sortMark (p.sortKey = some c.key) p.direction
  else [.text c.label]

theorem columnHead_eq (report : String) (p : Paging) (c : Column) :
    columnHead report p c = el "th" (headNodes report p c) := by
  unfold columnHead headNodes
  split <;> rfl

theorem usesOnly_headNodes (report : String) (p : Paging) (c : Column) :
    allUseOnly ["a", "href"] (headNodes report p c) = true := by
  unfold headNodes
  split
  · exact allUseOnly_cons.2 ⟨rfl, allUseOnly_mono (List.nil_subset _) _
      (usesOnly_sortMark (p.sortKey = some c.key) p.direction)⟩
  · rfl

theorem seen_headNodes (report : String) (p : Paging) (c : Column) :
    seen (piecesAll (headNodes report p c)) =
      Seen.ofHead report p ⟨c.key, c.label, c.isSortable⟩ := by
  have hlabel : writeAll [.text c.label] = escape c.label := by simp [writeAll, Node.write]
  unfold headNodes Seen.ofHead
  simp only
  split
  · refine (seen_of_link [.text c.label] _ rfl
      (usesOnly_sortMark (p.sortKey = some c.key) p.direction) _).trans ?_
    rw [hlabel, unescape_escape_append, unescape_sortMark]
  · refine (seen_of_text [.text c.label] rfl).trans ?_
    rw [hlabel, unescape_escape]

/-! ### The table -/

/-- Each cell of a row is found. -/
theorem hasContents_cells (columns : List Column) (cells : Cells) :
    HasContents "td" (columns.map (bodyCell cells))
      (columns.map fun c => piecesAll ((cells.get? c.key).map Cell.node).toList) := by
  rw [List.map_eq_flatMap]
  exact HasContents.flatMap fun c _ =>
    HasContents.element ["a", "href"] (by decide) (usesOnly_cell (cells.get? c.key)) []

/-- Each head of a column is found. -/
theorem hasContents_heads (report : String) (p : Paging) (columns : List Column) :
    HasContents "th" (columns.map (columnHead report p))
      (columns.map fun c => piecesAll (headNodes report p c)) := by
  rw [List.map_eq_flatMap]
  refine HasContents.flatMap fun c _ => ?_
  rw [columnHead_eq]
  exact HasContents.element ["a", "href"] (by decide) (usesOnly_headNodes report p c) []

/-- Each row is found. -/
theorem hasContents_rows {v : View} (hrows : v.page.rows ≠ []) :
    HasContents "tr" (newline :: bodyRows v)
      (v.page.rows.map fun cells => piecesAll (v.columns.map (bodyCell cells))) := by
  have hnewline : HasContents "tr" [newline] [] := HasContents.of_not_mem [] (by decide) rfl
  have hrow : ∀ cells, HasContents "tr" (bodyRow v.columns cells)
      [piecesAll (v.columns.map (bodyCell cells))] := by
    intro cells
    exact (HasContents.element _ (by decide) (usesOnly_bodyCells v.columns cells) []).append
      hnewline
  have hnonempty : v.page.rows.isEmpty = false := List.isEmpty_eq_false_iff.2 hrows
  rw [bodyRows, hnonempty]
  exact hnewline.append (HasContents.flatMap fun cells _ => hrow cells)

/-- The row of heads is found. -/
theorem hasContents_headContent (report : String) (p : Paging) (columns : List Column) :
    HasContents "tr" (headContent report p columns)
      [piecesAll (columns.map (columnHead report p))] := by
  have hnewline : HasContents "tr" [newline] [] := HasContents.of_not_mem [] (by decide) rfl
  have hheads : allUseOnly ["th", "a", "href"] (columns.map (columnHead report p)) = true := by
    refine allUseOnly_iff.2 (List.forall_mem_map.2 fun c _ => ?_)
    rw [columnHead_eq]
    exact Node.usesOnly_element.2
      ⟨by decide, by decide, allUseOnly_mono (by decide) _ (usesOnly_headNodes report p c)⟩
  exact hnewline.append ((HasContents.element _ (by decide) hheads []).append hnewline)

theorem insideFrom_tbody_table (v : View) (rest : List Piece) :
    insideFrom "tbody" false ((table v).pieces ++ rest) =
      piecesAll (newline :: bodyRows v) ++ insideFrom "tbody" false rest := by
  have hrows : allUseOnly rowNames (newline :: bodyRows v) = true :=
    allUseOnly_cons.2 ⟨rfl, usesOnly_bodyRows v⟩
  have hheads : allUseOnly ("thead" :: headNames) [newline,
      el "thead" (headContent v.descriptor.name v.page.paging v.columns), newline] = true :=
    allUseOnly_cons.2 ⟨rfl, allUseOnly_cons.2 ⟨Node.usesOnly_element.2 ⟨by decide, by decide,
      allUseOnly_mono (by decide) _ (usesOnly_headContent _ _ _)⟩, rfl⟩⟩
  have htable : piecesAll [newline,
        el "thead" (headContent v.descriptor.name v.page.paging v.columns), newline,
        el "tbody" (newline :: bodyRows v), newline] =
      piecesAll [newline, el "thead" (headContent v.descriptor.name v.page.paging v.columns),
        newline] ++ ((el "tbody" (newline :: bodyRows v)).pieces ++ piecesAll [newline]) := by
    simp [piecesAll]
  refine (insideFrom_of_ne (by decide) _ _ _).trans ?_
  change insideFrom "tbody" false (piecesAll [newline,
        el "thead" (headContent v.descriptor.name v.page.paging v.columns), newline,
        el "tbody" (newline :: bodyRows v), newline] ++ .closing "table" :: rest) = _
  rw [htable, List.append_assoc, insideFrom_nodes _ (by decide) _ hheads, List.append_assoc]
  refine (insideFrom_element rowNames (by decide) hrows _ _).trans (congrArg _ ?_)
  exact insideFrom_nodes [] (by decide) [newline] rfl _

/-- The cells of the table, in its rows. -/
theorem cellsIn_tbody {v : View} (hrows : v.page.rows ≠ []) :
    cellsIn "tbody" "td" (renderReport v) =
      v.page.rows.map fun cells => v.columns.map fun c => Seen.ofCell (cells.get? c.key) := by
  rw [cellsIn, insideFrom_renderReport (by decide) (insideFrom_tbody_table v),
    (hasContents_rows hrows).contents_eq, List.map_map]
  refine List.map_congr_left fun cells _ => ?_
  rw [Function.comp_apply, (hasContents_cells v.columns cells).contents_eq, List.map_map]
  exact List.map_congr_left fun c _ => seen_cell (cells.get? c.key)

/-- The heads of the table, in their one row. -/
theorem cellsIn_thead (v : View) :
    cellsIn "thead" "th" (renderReport v) =
      [v.columns.map fun c =>
        Seen.ofHead v.descriptor.name v.page.paging ⟨c.key, c.label, c.isSortable⟩] := by
  rw [cellsIn, insideFrom_renderReport (by decide) (insideFrom_thead_table v),
    (hasContents_headContent _ _ _).contents_eq, List.map_singleton,
    (hasContents_heads _ _ _).contents_eq, List.map_map]
  refine congrArg ([·]) (List.map_congr_left fun c _ => ?_)
  exact seen_headNodes v.descriptor.name v.page.paging c

end Html

/-! ### All three forms -/

/-- The cells of a page, row by row and column by column. -/
def View.grid (v : View) : List (List (Option Cell)) :=
  v.page.rows.map fun cells => v.columns.map fun c => cells.get? c.key

/-- The forms of a page show the same. -/
structure View.ShownAlike (v : View) : Prop where
  /-- The document holds the cells of the page, with nothing where there is none. -/
  document : (Json.viewDocument v).viewCells? = some v.grid
  /-- The table has a row for each row and in it a cell for each column, in their order. Its text is
  that of the cell, or the label of a link, which leads where the cell does; where there is no cell,
  there is no text. -/
  markup : Html.cellsIn "tbody" "td" (Html.renderReport v) = v.grid.map (List.map Html.Seen.ofCell)
  /-- The terminal is given the same texts. -/
  terminal : (Terminal.viewGrid v).rows =
    v.grid.map (List.map fun cell => (Html.Seen.ofCell cell).text)
  /-- They are the texts of the rows under the keys of the columns. -/
  texts : v.grid.map (List.map fun cell => (Html.Seen.ofCell cell).text) =
    v.page.rows.map fun cells => v.columns.map fun c => cells.text c.key
  /-- The heads of the table are those of the document, with a link where it says that rows can be
  sorted, and with a sign where they are. -/
  heads : ∃ heads, (Json.viewDocument v).viewHeads? = some heads ∧
    Html.cellsIn "thead" "th" (Html.renderReport v) =
      [heads.map (Html.Seen.ofHead v.descriptor.name v.page.paging)]

theorem Cells.text_eq (cells : Cells) (key : String) :
    (Html.Seen.ofCell (cells.get? key)).text = cells.text key := by
  rw [text]
  rcases cells.get? key with _ | ⟨s⟩ | ⟨href, label⟩ <;> rfl

/-- **The forms of a page show the same data**, whatever texts and targets its cells have, if it has
rows and no two columns have one key. -/
theorem View.shownAlike {v : View} (hkeys : (v.columns.map Column.key).Nodup)
    (hrows : v.page.rows ≠ []) : v.ShownAlike := by
  have htexts : v.grid.map (List.map fun cell => (Html.Seen.ofCell cell).text) =
      v.page.rows.map fun cells => v.columns.map fun c => cells.text c.key := by
    rw [grid, List.map_map]
    refine List.map_congr_left fun cells _ => ?_
    rw [Function.comp_apply, List.map_map]
    exact List.map_congr_left fun c _ => cells.text_eq c.key
  constructor
  case document => exact Json.viewCells?_viewDocument hkeys
  case markup =>
    rw [Html.cellsIn_tbody hrows, grid, List.map_map]
    refine List.map_congr_left fun cells _ => ?_
    rw [Function.comp_apply, List.map_map]
    rfl
  case terminal => exact htexts.symm
  case texts => exact htexts
  case heads =>
    refine ⟨_, Json.viewHeads?_viewDocument v, ?_⟩
    rw [Html.cellsIn_thead, List.map_map]
    rfl

/-- A page with a link, a text and a place without a cell, whose columns do not stand in the order
of their keys. -/
def pageOfAllKinds : View :=
  ⟨⟨"queue", "Queue", "What waits", true, false⟩,
    [⟨"z", "A & B", [.verbatim "1"]⟩, ⟨"a", "&amp;", []⟩, ⟨"m", "<td>", []⟩],
    ⟨⟨0, 1, some "z", .descending⟩,
      [⟨[("a", .text "&lt;/td>&#39;"), ("z", .link "/?a=1&b=\"2\"" "</a>")]⟩], 1⟩⟩

/-- Texts that look like markup or like its signs are shown as they are. -/
theorem View.shownAlike_pageOfAllKinds :
    (pageOfAllKinds.columns.map Column.key).Nodup ∧ pageOfAllKinds.page.rows ≠ [] ∧
    pageOfAllKinds.ShownAlike ∧
    Html.cellsIn "tbody" "td" (Html.renderReport pageOfAllKinds) =
      [[⟨"</a>", ["/?a=1&b=\"2\""]⟩, ⟨"&lt;/td>&#39;", []⟩, ⟨"", []⟩]] := by
  have hkeys : (pageOfAllKinds.columns.map Column.key).Nodup := by decide
  have hrows : pageOfAllKinds.page.rows ≠ [] := by decide
  have halike := View.shownAlike hkeys hrows
  exact ⟨hkeys, hrows, halike, halike.markup.trans (by decide)⟩

end PagedReports
