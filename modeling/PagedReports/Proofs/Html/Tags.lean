import PagedReports.Proofs.Html.ReportLinks

/-!
# The tags of a page

What a page says is text from outside; which tags it has is not. The tags of the page of a report
depend on its shape alone (`tags_renderReport`): on the columns that can be sorted by, on the kinds
of cells, and on the page, its size and the total. The tags around a body and those of a refusal are
the same for all texts (`tags_wrap`, `tags_renderDenied`).

Reading markup forgets how it is spelled, so it is also said that nothing is forgotten: the pieces
that a reader makes of a page spell it, and no value of an attribute has a quotation mark in it
(`Quoted`). Every value therefore ends at the quotation mark that was written for it.
-/

namespace PagedReports.Html

/-! ### Tags -/

/-- A tag without the values of its attributes. -/
inductive Tag where
  /-- An opening tag. -/
  | opening (name : String) (keys : List String)
  /-- A closing tag. -/
  | closing (name : String)
  deriving DecidableEq, Repr

/-- The tag that a piece is. -/
def Piece.tag? : Piece → Option Tag
  | .char _ => none
  | .opening name attributes => some (.opening name (attributes.map Prod.fst))
  | .closing name => some (.closing name)

/-- The tags among pieces. -/
def tagsOf (ps : List Piece) : List Tag := ps.filterMap Piece.tag?

/-- The tags of markup, in order. -/
def tags (markup : String) : List Tag := tagsOf (read markup)

/-- The tags of nodes that have been written. -/
def tagsAll (ns : List Node) : List Tag := tagsOf (piecesAll ns)

/-- An element around tags. -/
def enclosed (name : String) (keys : List String) (content : List Tag) : List Tag :=
  .opening name keys :: content ++ [.closing name]

section Nodes

variable {ns ms : List Node}

theorem tagsOf_append (ps qs : List Piece) : tagsOf (ps ++ qs) = tagsOf ps ++ tagsOf qs :=
  List.filterMap_append

theorem tagsOf_chars (cs : List Char) : tagsOf (cs.map .char) = [] := by
  rw [tagsOf, List.filterMap_map]
  exact List.filterMap_eq_nil_iff.2 fun _ _ => rfl

@[simp] theorem tagsAll_nil : tagsAll [] = [] := rfl

@[simp] theorem tagsAll_append : tagsAll (ns ++ ms) = tagsAll ns ++ tagsAll ms := by
  rw [tagsAll, piecesAll_append, tagsOf_append]
  rfl

/-- Texts have no tags. -/
@[simp] theorem tagsAll_text (s : String) : tagsAll (.text s :: ns) = tagsAll ns := by
  rw [tagsAll, piecesAll, tagsOf_append, Node.pieces, tagsOf_chars]
  rfl

@[simp] theorem tagsAll_entity (name : String) : tagsAll (.entity name :: ns) = tagsAll ns := by
  rw [tagsAll, piecesAll, tagsOf_append, Node.pieces, tagsOf_chars]
  rfl

@[simp] theorem tagsAll_newline : tagsAll (newline :: ns) = tagsAll ns := tagsAll_text "\n"

/-- An element has its own tags around those of its content. -/
@[simp] theorem tagsAll_element (name : String) (attributes : List (String × String)) :
    tagsAll (.element name attributes ms :: ns) =
      enclosed name (attributes.map Prod.fst) (tagsAll ms) ++ tagsAll ns := by
  have hkeys : (attributes.map attributeAsWritten).map Prod.fst = attributes.map Prod.fst := by
    rw [List.map_map]
    rfl
  rw [tagsAll, piecesAll, tagsOf_append, Node.pieces, List.cons_append, tagsOf, List.filterMap_cons,
    Piece.tag?, hkeys, List.filterMap_append]
  rfl

@[simp] theorem tagsAll_el (name : String) :
    tagsAll (el name ms :: ns) = enclosed name [] (tagsAll ms) ++ tagsAll ns :=
  tagsAll_element name []

@[simp] theorem tagsAll_bare (name : String) (attributes : List (String × String)) :
    tagsAll (.bare name attributes :: ns) =
      .opening name (attributes.map Prod.fst) :: tagsAll ns := by
  have hkeys : (attributes.map attributeAsWritten).map Prod.fst = attributes.map Prod.fst := by
    rw [List.map_map]
    rfl
  rw [tagsAll, piecesAll, Node.pieces, List.singleton_append, tagsOf, List.filterMap_cons,
    Piece.tag?, hkeys]
  rfl

/-- The tags of a link whose label has none. -/
def linkTags : List Tag := enclosed "a" ["href"] []

@[simp] theorem tagsAll_link (query : String) :
    tagsAll (link query ms :: ns) = enclosed "a" ["href"] (tagsAll ms) ++ tagsAll ns :=
  tagsAll_element "a" [("href", "?" ++ query)]

variable {α : Type} {node : α → Node} {nodes : α → List Node} {f : α → List Tag}

theorem tagsAll_flatMap {xs : List α} (h : ∀ x ∈ xs, tagsAll (nodes x) = f x) :
    tagsAll (xs.flatMap nodes) = xs.flatMap f := by
  induction xs with
  | nil => rfl
  | cons x xs ih =>
    rw [List.flatMap_cons, tagsAll_append, h x List.mem_cons_self,
      ih fun y hy => h y (List.mem_cons_of_mem x hy), List.flatMap_cons]

theorem tagsAll_map {xs : List α} (h : ∀ x ∈ xs, tagsAll [node x] = f x) :
    tagsAll (xs.map node) = xs.flatMap f := by
  rw [List.map_eq_flatMap]
  exact tagsAll_flatMap h

/-- Texts between nodes do not matter. -/
theorem tagsAll_intersperse (s : String) : (ns : List Node) →
    tagsAll (ns.intersperse (.text s)) = tagsAll ns
  | [] => rfl
  | [_] => rfl
  | n :: m :: ns => by
    have hcons : ∀ ms : List Node, tagsAll ([n] ++ ms) = tagsAll [n] ++ tagsAll ms := fun _ =>
      tagsAll_append
    have hrest := tagsAll_intersperse s (m :: ns)
    rw [List.intersperse_cons_cons]
    exact (hcons _).trans ((congrArg _ ((tagsAll_text s).trans hrest)).trans (hcons _).symm)

end Nodes

/-! ### Spelling -/

/-- How an attribute is spelled, after the space that separates it. -/
def spellAttribute (a : String × String) : String := " " ++ a.1 ++ "=\"" ++ a.2 ++ "\""

/-- How a piece is spelled: with every value between two quotation marks. The declaration of the
document type has no values. -/
def Piece.spelling : Piece → String
  | .char c => .singleton c
  | .opening name attributes =>
    if name = "!DOCTYPE" then "<!DOCTYPE html>"
    else "<" ++ name ++ String.join (attributes.map spellAttribute) ++ ">"
  | .closing name => "</" ++ name ++ ">"

/-- No value of an attribute has a quotation mark in it. -/
def Piece.Quoted : Piece → Prop
  | .opening _ attributes => ∀ a ∈ attributes, '"' ∉ a.2.toList
  | .char _ | .closing _ => True

/-- Pieces spell markup, with all values quoted. -/
structure Spells (ps : List Piece) (markup : String) : Prop where
  /-- One after another they are the markup. -/
  spelled : (ps.flatMap fun p => p.spelling.toList) = markup.toList
  /-- No value has a quotation mark in it. -/
  quoted : ∀ p ∈ ps, p.Quoted

/-- What a reader makes of markup spells it, with every value between quotation marks of its own. -/
def Quoted (markup : String) : Prop := Spells (read markup) markup

namespace Spells

variable {ps qs : List Piece} {m m' : String}

theorem append (h : Spells ps m) (h' : Spells qs m') : Spells (ps ++ qs) (m ++ m') := by
  refine ⟨?_, fun p hp => (List.mem_append.1 hp).elim (h.quoted p) (h'.quoted p)⟩
  rw [List.flatMap_append, h.spelled, h'.spelled, String.toList_append]

theorem chars (s : String) : Spells (s.toList.map .char) s := by
  refine ⟨?_, List.forall_mem_map.2 fun _ _ => trivial⟩
  simp only [List.flatMap_map, Piece.spelling, String.toList_singleton]
  exact List.flatMap_singleton' s.toList

theorem opening {name : String} (h : name ≠ "!DOCTYPE") (attributes : List (String × String)) :
    Spells [.opening name (attributes.map attributeAsWritten)] (writeOpening name attributes) := by
  refine ⟨?_, fun p hp => ?_⟩
  · rw [List.flatMap_singleton, Piece.spelling, if_neg h, List.map_map]
    rfl
  · rw [List.mem_singleton.1 hp]
    exact List.forall_mem_map.2 fun a _ hquote => (mem_escape hquote).2 rfl

theorem closing (name : String) : Spells [.closing name] ("</" ++ name ++ ">") := by
  refine ⟨List.flatMap_singleton _ _, fun p hp => ?_⟩
  rw [List.mem_singleton.1 hp]
  trivial

/-- The declaration of the document type. -/
theorem doctype : Spells Node.doctype.pieces "<!DOCTYPE html>" := by
  refine ⟨rfl, fun p hp => ?_⟩
  rw [List.mem_singleton.1 hp]
  exact fun a ha => by simp [List.mem_singleton.1 ha]

end Spells

mutual

/-- The pieces of a node spell what is written of it. -/
theorem Node.spells {vocabulary : List String} (hdoctype : "!DOCTYPE" ∉ vocabulary) :
    (n : Node) → n.usesOnly vocabulary = true → Spells n.pieces n.write
  | .text s, _ => Spells.chars (escape s)
  | .entity name, _ => Spells.chars ("&" ++ name ++ ";")
  | .element name attributes content, h => by
    obtain ⟨hname, -, hcontent⟩ := Node.usesOnly_element.1 h
    have hne : name ≠ "!DOCTYPE" := fun heq => hdoctype (heq ▸ hname)
    have hspells := ((Spells.opening hne attributes).append
      (spells_piecesAll hdoctype content hcontent)).append (Spells.closing name)
    simpa only [Node.write, Node.pieces, List.singleton_append, String.append_assoc] using hspells
  | .bare name attributes, h => by
    obtain ⟨hname, -⟩ := Node.usesOnly_bare.1 h
    exact Spells.opening (fun heq => hdoctype (heq ▸ hname)) attributes
  | .doctype, h => by simp [Node.usesOnly] at h
  | .written _, h => by simp [Node.usesOnly] at h

theorem spells_piecesAll {vocabulary : List String} (hdoctype : "!DOCTYPE" ∉ vocabulary) :
    (ns : List Node) → allUseOnly vocabulary ns = true → Spells (piecesAll ns) (writeAll ns)
  | [], _ => Spells.chars ""
  | n :: ns, h => by
    obtain ⟨hn, hns⟩ := allUseOnly_cons.1 h
    exact (Node.spells hdoctype n hn).append (spells_piecesAll hdoctype ns hns)

end

/-- Nodes that have been written are read with their own quotation marks. -/
theorem quoted_writeAll {vocabulary : List String}
    (hplain : ∀ name ∈ vocabulary, isPlainName name = true) {ns : List Node}
    (h : allUseOnly vocabulary ns = true) : Quoted (writeAll ns) := by
  have hdoctype : "!DOCTYPE" ∉ vocabulary := fun hmem => absurd (hplain _ hmem) (by decide)
  rw [Quoted, read_writeAll hplain h]
  exact spells_piecesAll hdoctype ns h

/-! ### The page of a report -/

/-- What stands in a place of a table. -/
inductive CellKind where
  /-- Nothing. -/
  | missing
  /-- A text. -/
  | text
  /-- A link. -/
  | link
  deriving DecidableEq, Repr

/-- The kind of a cell. -/
def CellKind.of : Option Cell → CellKind
  | none => missing
  | some (.text _) => text
  | some (.link _ _) => link

/-- A page apart from its texts. -/
structure Shape where
  /-- For each column, whether rows can be sorted by it. -/
  sortable : List Bool
  /-- For each row, the kinds of its cells. -/
  cells : List (List CellKind)
  /-- The page, from zero. -/
  page : UInt64
  /-- Rows per page. -/
  perPage : UInt64
  /-- How many rows the report has. -/
  total : UInt64
  deriving DecidableEq, Repr

end Html

/-- The shape of a page. -/
def View.shape (v : View) : Html.Shape where
  sortable := v.columns.map Column.isSortable
  cells := v.page.rows.map fun cells => v.columns.map fun c => .of (cells.get? c.key)
  page := v.page.paging.page
  perPage := v.page.paging.perPage
  total := v.page.total

namespace Html

/-- The tags of an entry of the bar. -/
def BarItem.tags : BarItem → List Tag
  | previous _ | page _ | next _ => linkTags
  | current _ => enclosed "strong" [] []
  | dots => []

/-- The tags in the head of a column. -/
def headTags (isSortable : Bool) : List Tag :=
  enclosed "th" [] (if isSortable then linkTags else [])

/-- The tags of a cell. -/
def cellTags : CellKind → List Tag
  | .missing | .text => enclosed "td" [] []
  | .link => enclosed "td" [] linkTags

/-- The tags of a row. -/
def rowTags (cells : List CellKind) : List Tag := enclosed "tr" [] (cells.flatMap cellTags)

namespace Shape

/-- The tags of the paging bar. -/
def barTags (s : Shape) : List Tag :=
  if s.total ≤ s.perPage then []
  else enclosed "nav" ["class"]
    ((barItems s.page (lastPage s.total s.perPage)).flatMap BarItem.tags)

/-- The tags of the rows, or of the note that there are none. -/
def rowsTags (s : Shape) : List Tag :=
  if s.cells.isEmpty then enclosed "tr" [] (enclosed "td" ["colspan"] [])
  else s.cells.flatMap rowTags

/-- The tags of the table. -/
def tableTags (s : Shape) : List Tag :=
  enclosed "table" ["class"]
    (enclosed "thead" [] (enclosed "tr" [] (s.sortable.flatMap headTags)) ++
      enclosed "tbody" [] s.rowsTags)

/-- The tags of a page of that shape. -/
def tags (s : Shape) : List Tag :=
  enclosed "p" ["class"] [] ++ s.barTags ++ s.tableTags ++ s.barTags

end Shape

theorem tagsAll_pagingBar (v : View) :
    tagsAll (pagingBar v.descriptor.name v.page.paging v.page.total) = v.shape.barTags := by
  have hitem : ∀ item : BarItem, tagsAll [item.node v.descriptor.name v.page.paging] =
      item.tags := by
    intro item
    cases item <;> simp [BarItem.node, pageLink, BarItem.tags, linkTags]
  unfold pagingBar Shape.barTags
  by_cases h : v.page.total ≤ v.page.paging.perPage
  · exact (congrArg tagsAll (if_pos h)).trans (if_pos h).symm
  · refine (congrArg tagsAll (if_neg h)).trans (Eq.trans ?_ (if_neg h).symm)
    simp only [tagsAll_element, tagsAll_newline, tagsAll_nil, List.append_nil, tagsAll_intersperse,
      tagsAll_map fun item _ => hitem item]
    rfl

/-- The mark of the column that rows are sorted by is not a tag. -/
theorem tagsAll_sortMark (active : Bool) (d : Direction) : tagsAll (sortMark active d) = [] := by
  cases active <;> cases d <;> simp [sortMark]

theorem tagsAll_columnHead (report : String) (p : Paging) (c : Column) :
    tagsAll [columnHead report p c] = headTags c.isSortable := by
  unfold columnHead headTags
  split <;> simp [tagsAll_sortMark, linkTags]

theorem tagsAll_bodyCell (cells : Cells) (c : Column) :
    tagsAll [bodyCell cells c] = cellTags (.of (cells.get? c.key)) := by
  unfold bodyCell
  rcases cells.get? c.key with _ | ⟨s⟩ | ⟨href, label⟩ <;>
    simp [Cell.node, CellKind.of, cellTags, linkTags]

theorem tagsAll_bodyRows (v : View) : tagsAll (bodyRows v) = v.shape.rowsTags := by
  have hrow : ∀ cells, tagsAll (bodyRow v.columns cells) =
      rowTags (v.columns.map fun c => .of (cells.get? c.key)) := by
    intro cells
    simp only [bodyRow, tagsAll_el, tagsAll_newline, tagsAll_nil, List.append_nil,
      tagsAll_map fun c _ => tagsAll_bodyCell cells c]
    rw [rowTags, List.flatMap_map]
  unfold bodyRows Shape.rowsTags
  simp only [View.shape, List.isEmpty_map]
  split
  · simp
  · rw [tagsAll_flatMap fun cells _ => hrow cells, List.flatMap_map]

theorem tagsAll_table (v : View) : tagsAll [table v, newline] = v.shape.tableTags := by
  have hheads : tagsAll (v.columns.map (columnHead v.descriptor.name v.page.paging)) =
      v.shape.sortable.flatMap headTags := by
    rw [tagsAll_map fun c _ => tagsAll_columnHead _ _ c, View.shape, List.flatMap_map]
  simp [table, Shape.tableTags, hheads, tagsAll_bodyRows]

/-- The tags of the page of a report are those of its shape. -/
theorem tags_renderReport (v : View) : tags (renderReport v) = v.shape.tags := by
  have hbar := tagsAll_pagingBar v
  have htable := tagsAll_table v
  rw [tags, read_renderReport]
  change tagsAll (reportNodes v) = _
  simp only [reportNodes, tagsAll_append, hbar, htable, tagsAll_element, tagsAll_text,
    tagsAll_newline, tagsAll_nil, List.append_nil]
  rfl

/-! ### The frame of a page -/

/-- The head of a document, and the ends of lines around it. -/
def frameHead (site title : String) : List Node :=
  [newline,
    el "head"
      [newline, .bare "meta" [("charset", "utf-8")], newline,
        el "title" [.text title, .text " | ", .text site], newline],
    newline]

/-- The title above a body, and the ends of lines around it. -/
def frameTitle (title : String) : List Node := [newline, el "h1" [.text title], newline]

/-- What stands before the body of a document. -/
def frameStart (site title : String) : String :=
  "<!DOCTYPE html>" ++ (writeAll [newline] ++ (writeOpening "html" [("lang", "en")] ++
    (writeAll (frameHead site title) ++ (writeOpening "body" [] ++ writeAll (frameTitle title)))))

/-- What stands after the body of a document. -/
def frameEnd : String := "\n</body>\n</html>\n"

theorem wrap_eq (site title body : String) :
    wrap site title body = frameStart site title ++ body ++ frameEnd := by
  have hend : writeAll [newline] ++ ("</" ++ "body" ++ ">" ++ (writeAll [newline] ++
      ("</" ++ "html" ++ ">" ++ writeAll [newline]))) = frameEnd := by decide +kernel
  rw [← hend]
  simp only [wrap, shell, frameStart, frameHead, frameTitle, writeAll, Node.write, newline, el,
    writeOpening, String.append_assoc, String.append_empty]

/-- What a reader makes of the start of a document. -/
def framePieces (site title : String) : List Piece :=
  Node.doctype.pieces ++ (piecesAll [newline] ++ ([.opening "html" [("lang", "en")]] ++
    (piecesAll (frameHead site title) ++
      ([.opening "body" []] ++ piecesAll (frameTitle title)))))

/-- The names in the head and in the title of a document. -/
def frameNames : List String := ["head", "meta", "charset", "title", "h1"]

theorem isPlainName_frameNames : ∀ name ∈ frameNames, isPlainName name = true := by decide

/-- A body is read as if nothing stood before it. -/
theorem readFrom_frameStart (site title : String) (rest : List Char) :
    readFrom .text ((frameStart site title).toList ++ rest) =
      framePieces site title ++ readFrom .text rest := by
  have hdoctype : ∀ rest, readFrom .text ("<!DOCTYPE html>".toList ++ rest) =
      Node.doctype.pieces ++ readFrom .text rest := fun rest => by
    simp [readFrom, step, Node.pieces]
  have hnewline := readFrom_writeAll isPlainName_frameNames [newline] rfl
  have hhtml : ∀ rest, readFrom .text ((writeOpening "html" [("lang", "en")]).toList ++ rest) =
      .opening "html" [("lang", "en")] :: readFrom .text rest :=
    readFrom_opening (by decide) (by decide)
  have hhead := readFrom_writeAll isPlainName_frameNames (frameHead site title) rfl
  have hbody : ∀ rest, readFrom .text ((writeOpening "body" []).toList ++ rest) =
      .opening "body" [] :: readFrom .text rest :=
    readFrom_opening (by decide) (by decide)
  have htitle := readFrom_writeAll isPlainName_frameNames (frameTitle title) rfl
  simp only [frameStart, framePieces, String.toList_append, List.append_assoc, hdoctype, hnewline,
    hhtml, hhead, hbody, htitle]
  rfl

theorem quoted_frameStart (site title : String) : Quoted (frameStart site title) := by
  have hnodes : ∀ ns : List Node, allUseOnly frameNames ns = true →
      Spells (piecesAll ns) (writeAll ns) := spells_piecesAll (by decide)
  have hread : read (frameStart site title) = framePieces site title := by
    have h := readFrom_frameStart site title []
    rwa [List.append_nil, readFrom, List.append_nil] at h
  rw [Quoted, hread]
  exact Spells.doctype.append ((hnodes [newline] rfl).append
    ((Spells.opening (by decide) [("lang", "en")]).append
      ((hnodes (frameHead site title) rfl).append
        ((Spells.opening (by decide) []).append (hnodes (frameTitle title) rfl)))))

/-- The tags before the body of a document. -/
def frameTags : List Tag :=
  [.opening "!DOCTYPE" ["html"], .opening "html" ["lang"], .opening "head" [],
    .opening "meta" ["charset"], .opening "title" [], .closing "title", .closing "head",
    .opening "body" [], .opening "h1" [], .closing "h1"]

theorem tagsOf_framePieces (site title : String) :
    tagsOf (framePieces site title) = frameTags := by
  have hnodes : ∀ ns, tagsOf (piecesAll ns) = tagsAll ns := fun _ => rfl
  simp only [framePieces, tagsOf_append, hnodes]
  simp [frameHead, frameTitle, enclosed, Node.pieces, tagsOf, Piece.tag?, frameTags]

/-- A document has the tags of its frame and then those of its body. -/
theorem tags_wrap (site title body : String) :
    tags (wrap site title body) = frameTags ++ tags (body ++ frameEnd) := by
  rw [wrap_eq, String.append_assoc, tags, read, String.toList_append, readFrom_frameStart,
    tagsOf_append, tagsOf_framePieces]
  rfl

/-! ### Refusals -/

/-- The element that a refusal stands in. -/
def deniedNodes (words : String) : List Node :=
  [.element "div" [("class", "error")] [.text words], newline]

/-- The names in a refusal. -/
def deniedNames : List String := ["div", "class"]

theorem isPlainName_deniedNames : ∀ name ∈ deniedNames, isPlainName name = true := by decide

theorem tags_renderDenied (words : String) :
    tags (renderDenied words) = enclosed "div" ["class"] [] := by
  have hread : read (renderDenied words) = piecesAll (deniedNodes words) :=
    read_writeAll isPlainName_deniedNames rfl
  rw [tags, hread]
  change tagsAll (deniedNodes words) = _
  simp [deniedNodes]

/-! ### Two texts, one structure -/

/-- Two pieces of markup have the same tags, whose values end at quotation marks of their own. -/
structure SameTags (m m' : String) : Prop where
  /-- They have the same tags, in the same order. -/
  tags_eq : tags m = tags m'
  /-- In the one, values are between quotation marks of their own. -/
  left : Quoted m
  /-- So are they in the other. -/
  right : Quoted m'

/-- **Texts do not change the structure of a page.** Two pages of the same shape have the same tags,
whatever their names, descriptions, labels, sort keys and cells are. So have the documents with any
two sites and titles around one body, which may be any markup: it is read as if nothing stood before
it. So have any two refusals. -/
theorem sameTags_of_shape {v w : View} (h : v.shape = w.shape) :
    SameTags (renderReport v) (renderReport w) ∧
      (∀ site title site' title' body : String,
        tags (wrap site title body) = tags (wrap site' title' body) ∧
        wrap site title body = frameStart site title ++ body ++ frameEnd ∧
        Quoted (frameStart site title)) ∧
      ∀ words words' : String, SameTags (renderDenied words) (renderDenied words') := by
  have hreport : ∀ v : View, Quoted (renderReport v) := fun v =>
    quoted_writeAll (by decide) (usesOnly_reportNodes v)
  have hdenied : ∀ words : String, Quoted (renderDenied words) := fun words =>
    quoted_writeAll isPlainName_deniedNames rfl
  refine ⟨⟨?_, hreport v, hreport w⟩, fun site title site' title' body =>
    ⟨?_, wrap_eq site title body, quoted_frameStart site title⟩, fun words words' =>
    ⟨?_, hdenied words, hdenied words'⟩⟩
  · rw [tags_renderReport, tags_renderReport, h]
  · rw [tags_wrap, tags_wrap]
  · rw [tags_renderDenied, tags_renderDenied]

/-- The second page of many, with one row of a link and of a place without a cell. -/
def pageOfTexts (name description key label href : String) (d : Direction) : View :=
  ⟨⟨name, "", description, true, false⟩,
    [⟨key, label, [.verbatim "1"]⟩, ⟨key ++ "?", label, []⟩],
    ⟨⟨1, 1, some key, d⟩, [⟨[(key, .link href label)]⟩], 30⟩⟩

/-- A page of ordinary texts. -/
def plainPage : View := pageOfTexts "queue" "What waits" "plugin" "Plugin" "/p" .ascending

/-- A page of texts that try to end values, tags and elements. -/
def hostilePage : View :=
  pageOfTexts "\"><b>" "</p><p class=\"x" "' onclick='" "</a><script>" "\" id=\"" .descending

/-- Hostile texts stay texts. -/
theorem sameTags_of_hostilePage :
    plainPage.shape = hostilePage.shape ∧
      SameTags (renderReport plainPage) (renderReport hostilePage) ∧
      (∀ site title site' title' body : String,
        tags (wrap site title body) = tags (wrap site' title' body) ∧
        wrap site title body = frameStart site title ++ body ++ frameEnd ∧
        Quoted (frameStart site title)) ∧
      ∀ words words' : String, SameTags (renderDenied words) (renderDenied words') := by
  have hshape : plainPage.shape = hostilePage.shape := by decide +kernel
  exact ⟨hshape, sameTags_of_shape hshape⟩

end PagedReports.Html
