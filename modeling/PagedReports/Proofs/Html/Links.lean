import PagedReports.Html.ReportPage
import PagedReports.Proofs.Html.Markup

/-!
# The links of a page

The links that stand in the elements of one name are found in written markup by reading it
(`linksIn`). In the pieces of nodes, an element that others do not use is found as what it contains
(`insideFrom_element`), and links are found node by node (`HasLinks`).
-/

namespace PagedReports.Html

/-! ### Finding links -/

/-- A link as it stands in markup. -/
structure Link where
  /-- What it leads to, in its written form. -/
  href : String
  /-- The characters inside it. -/
  label : String
  deriving DecidableEq, Repr

/-- The pieces inside the elements of a name, from within one or from outside. -/
def insideFrom (name : String) : Bool → List Piece → List Piece
  | _, [] => []
  | false, .opening n _ :: rest => insideFrom name (n = name) rest
  | false, .char _ :: rest => insideFrom name false rest
  | false, .closing _ :: rest => insideFrom name false rest
  | true, .closing n :: rest =>
    if n = name then insideFrom name false rest else .closing n :: insideFrom name true rest
  | true, .char c :: rest => .char c :: insideFrom name true rest
  | true, .opening n attributes :: rest => .opening n attributes :: insideFrom name true rest

/-- The links among pieces. In a link, its element, its reference and the characters so far are
known. -/
def linksFrom : Option (String × String × List Char) → List Piece → List Link
  | _, [] => []
  | none, .opening n attributes :: rest =>
    linksFrom ((attributes.lookup "href").map fun href => (n, href, [])) rest
  | none, .char _ :: rest => linksFrom none rest
  | none, .closing _ :: rest => linksFrom none rest
  | some (name, href, label), .closing n :: rest =>
    if n = name then ⟨href, .ofList label⟩ :: linksFrom none rest
    else linksFrom (some (name, href, label)) rest
  | some (name, href, label), .char c :: rest => linksFrom (some (name, href, label ++ [c])) rest
  | some link, .opening _ _ :: rest => linksFrom (some link) rest

/-- All links. -/
def allLinks (markup : String) : List Link := linksFrom none (read markup)

/-- The links in the elements of a name. -/
def linksIn (element markup : String) : List Link :=
  linksFrom none (insideFrom element false (read markup))

/-! ### Elements among pieces -/

section Elements

variable (vocabulary : List String) {name : String} (hname : name ∉ vocabulary)

include hname

/-- Pieces without a name are not in an element of that name, or all of them are. -/
theorem insideFrom_append {ps : List Piece} (h : ∀ p ∈ ps, p.usesOnly vocabulary) (within : Bool)
    (rest : List Piece) : insideFrom name within (ps ++ rest) =
      (if within then ps else []) ++ insideFrom name within rest := by
  induction ps with
  | nil => cases within <;> rfl
  | cons p ps ih =>
    have ih := ih fun q hq => h q (List.mem_cons_of_mem p hq)
    have hp := h p List.mem_cons_self
    cases p with
    | char c => cases within <;> simpa [insideFrom] using ih
    | opening n attributes =>
      have hne : n ≠ name := fun heq => hname (heq ▸ hp.1)
      cases within <;> simpa [insideFrom, hne] using ih
    | closing n =>
      have hne : n ≠ name := fun heq => hname (heq ▸ hp)
      cases within <;> simpa [insideFrom, hne] using ih

theorem insideFrom_nodes (ns : List Node) (h : allUseOnly vocabulary ns = true)
    (rest : List Piece) :
    insideFrom name false (piecesAll ns ++ rest) = insideFrom name false rest := by
  rw [insideFrom_append vocabulary hname (usesOnly_of_mem_piecesAll ns h)]
  rfl

/-- An element of the name is found as what it contains. -/
theorem insideFrom_element {content : List Node} (h : allUseOnly vocabulary content = true)
    (attributes : List (String × String)) (rest : List Piece) :
    insideFrom name false ((Node.element name attributes content).pieces ++ rest) =
      piecesAll content ++ insideFrom name false rest := by
  have hcontent := insideFrom_append vocabulary hname (usesOnly_of_mem_piecesAll content h) true
  simp [Node.pieces, insideFrom, hcontent]

end Elements

/-- In an element of another name one looks on. -/
theorem insideFrom_of_ne {name other : String} (h : other ≠ name)
    (attributes : List (String × String)) (content : List Node) (rest : List Piece) :
    insideFrom name false ((Node.element other attributes content).pieces ++ rest) =
      insideFrom name false (piecesAll content ++ .closing other :: rest) := by
  simp [Node.pieces, insideFrom, h]

/-! ### Links among pieces -/

/-- Nodes have these links, wherever they stand outside of links. -/
def HasLinks (ns : List Node) (links : List Link) : Prop :=
  ∀ rest, linksFrom none (piecesAll ns ++ rest) = links ++ linksFrom none rest

namespace HasLinks

variable {ns ms : List Node} {links links' : List Link}

theorem nil : HasLinks [] [] := fun _ => rfl

theorem append (h : HasLinks ns links) (h' : HasLinks ms links') :
    HasLinks (ns ++ ms) (links ++ links') := by
  intro rest
  rw [piecesAll_append, List.append_assoc, h, h', List.append_assoc]

theorem cons {n : Node} (h : HasLinks [n] links) (h' : HasLinks ns links') :
    HasLinks (n :: ns) (links ++ links') :=
  append h h'

/-- Without references there are no links. -/
theorem of_not_mem (vocabulary : List String) (hhref : "href" ∉ vocabulary)
    (h : allUseOnly vocabulary ns = true) : HasLinks ns [] := by
  have hpieces : ∀ ps : List Piece, (∀ p ∈ ps, p.usesOnly vocabulary) → ∀ rest,
      linksFrom none (ps ++ rest) = linksFrom none rest := by
    intro ps
    induction ps with
    | nil => exact fun _ _ => rfl
    | cons p ps ih =>
      intro hps rest
      have hrest := ih (fun q hq => hps q (List.mem_cons_of_mem p hq)) rest
      have hp := hps p List.mem_cons_self
      cases p with
      | char c => exact hrest
      | closing n => exact hrest
      | opening n attributes =>
        have hnone : attributes.lookup "href" = none := by
          refine List.lookup_eq_none_iff.2 fun a ha => bne_iff_ne.2 ?_
          rintro heq
          exact hhref (heq ▸ hp.2 a ha)
        rw [List.cons_append, linksFrom, hnone]
        exact hrest
  exact fun rest => hpieces _ (usesOnly_of_mem_piecesAll ns h) rest

/-- An element without a reference has the links of its content. -/
theorem element (name : String) (attributes : List (String × String))
    (hhref : ∀ a ∈ attributes, a.1 ≠ "href") (h : HasLinks ns links) :
    HasLinks [.element name attributes ns] links := by
  intro rest
  have hnone : (attributes.map attributeAsWritten).lookup "href" = none := by
    refine List.lookup_eq_none_iff.2 (List.forall_mem_map.2 fun a ha => bne_iff_ne.2 ?_)
    exact fun heq => hhref a ha heq.symm
  simp only [piecesAll, Node.pieces, List.append_nil, List.cons_append, List.append_assoc,
    linksFrom, hnone, Option.map_none]
  exact h _

/-- A link around a text is the link with that text. -/
theorem link (label : List Node) (h : allUseOnly [] label = true) (query : String) :
    HasLinks [link query label] [⟨escape ("?" ++ query), writeAll label⟩] := by
  intro rest
  have hlabel : ∀ (href : String) (cs before : List Char) (rest : List Piece),
      linksFrom (some ("a", href, before)) (cs.map .char ++ rest) =
        linksFrom (some ("a", href, before ++ cs)) rest := by
    intro href cs
    induction cs with
    | nil => exact fun before rest => by rw [List.append_nil]; rfl
    | cons c cs ih =>
      intro before rest
      rw [List.map_cons, List.cons_append, linksFrom, ih, List.append_assoc]
      rfl
  simp [Html.link, piecesAll, Node.pieces, piecesAll_of_allUseOnly_nil h, attributeAsWritten,
    linksFrom, hlabel]

variable {α : Type} {node : α → Node} {nodes : α → List Node} {f : α → List Link}

/-- Parts one after another have the links of each. -/
theorem flatMap {xs : List α} (h : ∀ x ∈ xs, HasLinks (nodes x) (f x)) :
    HasLinks (xs.flatMap nodes) (xs.flatMap f) := by
  induction xs with
  | nil => exact nil
  | cons x xs ih =>
    exact (h x List.mem_cons_self).append (ih fun y hy => h y (List.mem_cons_of_mem x hy))

/-- Nodes one after another have the links of each. -/
theorem map {xs : List α} (h : ∀ x ∈ xs, HasLinks [node x] (f x)) :
    HasLinks (xs.map node) (xs.flatMap f) := by
  rw [List.map_eq_flatMap]
  exact flatMap h

/-- Nodes without links between them do not matter. -/
theorem intersperse {sep : Node} (hsep : HasLinks [sep] []) :
    {xs : List α} → (∀ x ∈ xs, HasLinks [node x] (f x)) →
      HasLinks ((xs.map node).intersperse sep) (xs.flatMap f)
  | [], _ => nil
  | [_], h => map h
  | _ :: _ :: _, h =>
    have hrest := intersperse hsep fun y hy => h y (List.mem_cons_of_mem _ hy)
    (h _ List.mem_cons_self).cons (hsep.cons hrest)

end HasLinks

end PagedReports.Html
