import PagedReports.Html.Node

/-!
# Reading markup

A reader of written markup takes one character at a time and gives the characters between the tags
and the tags, with attribute values as they stand in the markup (`read`). It reads the written form
of nodes as their pieces (`read_writeAll`): whatever texts and attribute values are, they neither
end a tag nor begin one. Escaping loses nothing either (`unescape_escape`).

Element and attribute names are written as they are, so nodes are read back if their names are
plain. `Node.usesOnly` says from which vocabulary the names of a node come; its pieces have no other
names.
-/

namespace PagedReports.Html

/-! ### The reader -/

/-- What a reader makes of markup. -/
inductive Piece where
  /-- A character between tags. -/
  | char (c : Char)
  /-- An opening tag. An attribute without a value has the empty one. -/
  | opening (name : String) (attributes : List (String × String))
  /-- A closing tag. -/
  | closing (name : String)
  deriving DecidableEq, Repr

/-- Where a reader stands, with what it has read of a tag. -/
inductive Place where
  /-- Between tags. -/
  | text
  /-- After the sign that begins a tag. -/
  | start
  /-- In the name of a closing tag. -/
  | closing (name : List Char)
  /-- In the name of an opening tag. -/
  | name (name : List Char)
  /-- After the name of an opening tag, outside its attributes. -/
  | between (name : String) (attributes : List (String × String))
  /-- In the name of an attribute. -/
  | key (name : String) (attributes : List (String × String)) (key : List Char)
  /-- Between the name of an attribute and the quotation mark before its value. -/
  | equals (name : String) (attributes : List (String × String)) (key : String)
  /-- In the value of an attribute. -/
  | value (name : String) (attributes : List (String × String)) (key : String) (value : List Char)

/-- Takes in one character. -/
def step : Place → Char → Place × List Piece
  | .text, c => if c = '<' then (.start, []) else (.text, [.char c])
  | .start, c => if c = '/' then (.closing [], []) else (.name [c], [])
  | .closing n, c =>
    if c = '>' then (.text, [.closing (.ofList n)]) else (.closing (n ++ [c]), [])
  | .name n, c =>
    if c = '>' then (.text, [.opening (.ofList n) []])
    else if c = ' ' then (.between (.ofList n) [], [])
    else (.name (n ++ [c]), [])
  | .between n attributes, c =>
    if c = '>' then (.text, [.opening n attributes])
    else if c = ' ' then (.between n attributes, [])
    else (.key n attributes [c], [])
  | .key n attributes k, c =>
    if c = '>' then (.text, [.opening n (attributes ++ [(.ofList k, "")])])
    else if c = ' ' then (.between n (attributes ++ [(.ofList k, "")]), [])
    else if c = '=' then (.equals n attributes (.ofList k), [])
    else (.key n attributes (k ++ [c]), [])
  | .equals n attributes k, c =>
    if c = '"' then (.value n attributes k [], []) else (.equals n attributes k, [])
  | .value n attributes k v, c =>
    if c = '"' then (.between n (attributes ++ [(k, .ofList v)]), [])
    else (.value n attributes k (v ++ [c]), [])

/-- Reads on from a place. A tag that does not end gives nothing. -/
def readFrom : Place → List Char → List Piece
  | _, [] => []
  | p, c :: rest => (step p c).2 ++ readFrom (step p c).1 rest

/-- Reads markup. -/
def read (markup : String) : List Piece := readFrom .text markup.toList

/-- An attribute as it stands in markup. -/
def attributeAsWritten (a : String × String) : String × String := (a.1, escape a.2)

mutual

/-- What a reader makes of a node that has been written. -/
def Node.pieces : Node → List Piece
  | .text s => (escape s).toList.map .char
  | .entity name => ("&" ++ name ++ ";").toList.map .char
  | .element name attributes content =>
    .opening name (attributes.map attributeAsWritten) :: piecesAll content ++ [.closing name]
  | .bare name attributes => [.opening name (attributes.map attributeAsWritten)]
  | .doctype => [.opening "!DOCTYPE" [("html", "")]]
  | .written markup => read markup

/-- What a reader makes of nodes that have been written. -/
def piecesAll : List Node → List Piece
  | [] => []
  | n :: rest => n.pieces ++ piecesAll rest

end

theorem piecesAll_append (ns ms : List Node) :
    piecesAll (ns ++ ms) = piecesAll ns ++ piecesAll ms := by
  induction ns with
  | nil => rfl
  | cons n ns ih => simp [piecesAll, ih]

/-! ### Vocabularies -/

mutual

/-- The names of all elements and attributes of a node are in a vocabulary, and it has neither a
document type nor anything that was written before. -/
def Node.usesOnly (vocabulary : List String) : Node → Bool
  | .text _ => true
  | .entity name => name.toList.all (· ≠ '<')
  | .element name attributes content =>
    vocabulary.contains name && attributes.all (fun a => vocabulary.contains a.1) &&
      allUseOnly vocabulary content
  | .bare name attributes =>
    vocabulary.contains name && attributes.all fun a => vocabulary.contains a.1
  | .doctype | .written _ => false

/-- The same of all nodes of a list. -/
def allUseOnly (vocabulary : List String) : List Node → Bool
  | [] => true
  | n :: rest => n.usesOnly vocabulary && allUseOnly vocabulary rest

end

theorem Node.usesOnly_element {vocabulary : List String} {name : String}
    {attributes : List (String × String)} {content : List Node} :
    (Node.element name attributes content).usesOnly vocabulary = true ↔
      name ∈ vocabulary ∧ (∀ a ∈ attributes, a.1 ∈ vocabulary) ∧
        allUseOnly vocabulary content = true := by
  simp [Node.usesOnly, and_assoc]

theorem Node.usesOnly_bare {vocabulary : List String} {name : String}
    {attributes : List (String × String)} :
    (Node.bare name attributes).usesOnly vocabulary = true ↔
      name ∈ vocabulary ∧ ∀ a ∈ attributes, a.1 ∈ vocabulary := by
  simp [Node.usesOnly]

theorem allUseOnly_cons {vocabulary : List String} {n : Node} {ns : List Node} :
    allUseOnly vocabulary (n :: ns) = true ↔
      n.usesOnly vocabulary = true ∧ allUseOnly vocabulary ns = true := by
  simp [allUseOnly]

theorem allUseOnly_iff {vocabulary : List String} {ns : List Node} :
    allUseOnly vocabulary ns = true ↔ ∀ n ∈ ns, n.usesOnly vocabulary = true := by
  induction ns with
  | nil => simp [allUseOnly]
  | cons n ns ih => simp [allUseOnly, ih]

mutual

theorem Node.usesOnly_mono {vocabulary larger : List String} (h : vocabulary ⊆ larger) :
    (n : Node) → n.usesOnly vocabulary = true → n.usesOnly larger = true
  | .text _, _ => rfl
  | .entity _, hn => hn
  | .element name attributes content, hn => by
    obtain ⟨hname, hattributes, hcontent⟩ := Node.usesOnly_element.1 hn
    exact Node.usesOnly_element.2
      ⟨h hname, fun a ha => h (hattributes a ha), allUseOnly_mono h content hcontent⟩
  | .bare name attributes, hn => by
    obtain ⟨hname, hattributes⟩ := Node.usesOnly_bare.1 hn
    exact Node.usesOnly_bare.2 ⟨h hname, fun a ha => h (hattributes a ha)⟩

theorem allUseOnly_mono {vocabulary larger : List String} (h : vocabulary ⊆ larger) :
    (ns : List Node) → allUseOnly vocabulary ns = true → allUseOnly larger ns = true
  | [], _ => rfl
  | n :: rest, hns => by
    obtain ⟨hn, hrest⟩ := allUseOnly_cons.1 hns
    exact allUseOnly_cons.2 ⟨Node.usesOnly_mono h n hn, allUseOnly_mono h rest hrest⟩

end

theorem allUseOnly_append {vocabulary : List String} {ns ms : List Node} :
    allUseOnly vocabulary (ns ++ ms) = true ↔
      allUseOnly vocabulary ns = true ∧ allUseOnly vocabulary ms = true := by
  simp only [allUseOnly_iff, List.forall_mem_append]

/-- The names of a piece are in a vocabulary. -/
def Piece.usesOnly (vocabulary : List String) : Piece → Prop
  | .char _ => True
  | .opening name attributes => name ∈ vocabulary ∧ ∀ a ∈ attributes, a.1 ∈ vocabulary
  | .closing name => name ∈ vocabulary

mutual

/-- A node has no piece with a name that it does not use. -/
theorem Node.usesOnly_of_mem_pieces {vocabulary : List String} :
    (n : Node) → n.usesOnly vocabulary = true → ∀ p ∈ n.pieces, p.usesOnly vocabulary
  | .text s, _, p, hp => by
    obtain ⟨c, -, rfl⟩ := List.mem_map.1 (by simpa only [Node.pieces] using hp)
    trivial
  | .entity name, _, p, hp => by
    obtain ⟨c, -, rfl⟩ := List.mem_map.1 (by simpa only [Node.pieces] using hp)
    trivial
  | .element name attributes content, h, p, hp => by
    obtain ⟨hname, hattributes, hcontent⟩ := Node.usesOnly_element.1 h
    simp only [Node.pieces, List.cons_append, List.mem_cons, List.mem_append, List.not_mem_nil,
      or_false] at hp
    rcases hp with rfl | hp | rfl
    · exact ⟨hname, List.forall_mem_map.2 hattributes⟩
    · exact usesOnly_of_mem_piecesAll content hcontent p hp
    · exact hname
  | .bare name attributes, h, p, hp => by
    obtain ⟨hname, hattributes⟩ := Node.usesOnly_bare.1 h
    simp only [Node.pieces, List.mem_singleton] at hp
    subst hp
    exact ⟨hname, List.forall_mem_map.2 hattributes⟩
  | .doctype, h, _, _ => by simp [Node.usesOnly] at h
  | .written _, h, _, _ => by simp [Node.usesOnly] at h

theorem usesOnly_of_mem_piecesAll {vocabulary : List String} :
    (ns : List Node) → allUseOnly vocabulary ns = true → ∀ p ∈ piecesAll ns, p.usesOnly vocabulary
  | [], _, p, hp => by simp [piecesAll] at hp
  | n :: rest, h, p, hp => by
    obtain ⟨hn, hrest⟩ := allUseOnly_cons.1 h
    rcases List.mem_append.1 (by simpa only [piecesAll] using hp) with hp | hp
    · exact Node.usesOnly_of_mem_pieces n hn p hp
    · exact usesOnly_of_mem_piecesAll rest hrest p hp

end

/-- Nodes without tags are read as the characters they are written with. -/
theorem piecesAll_of_allUseOnly_nil {ns : List Node} (h : allUseOnly [] ns = true) :
    piecesAll ns = (writeAll ns).toList.map .char := by
  induction ns with
  | nil => rfl
  | cons n ns ih =>
    obtain ⟨h, hrest⟩ := allUseOnly_cons.1 h
    have hn : n.pieces = n.write.toList.map .char := by
      cases n with
      | text s => simp [Node.pieces, Node.write]
      | entity name => simp [Node.pieces, Node.write]
      | element name attributes content => simp [Node.usesOnly] at h
      | bare name attributes => simp [Node.usesOnly] at h
      | doctype => simp [Node.usesOnly] at h
      | written markup => simp [Node.usesOnly] at h
    rw [piecesAll, writeAll, ih hrest, hn, String.toList_append, List.map_append]

/-! ### Escaping -/

/-- No character is written with the signs that begin tags and end values. -/
theorem all_escapeChar (c : Char) :
    (escapeChar c).all (fun x => x ≠ '<' && x ≠ '"') = true := by
  unfold escapeChar
  split
  case h_6 hamp hlt hgt hquote happ =>
    have hne : c ≠ '<' ∧ c ≠ '"' := ⟨hlt, hquote⟩
    simp [hne]
  all_goals rfl

theorem mem_escape {s : String} {x : Char} (h : x ∈ (escape s).toList) : x ≠ '<' ∧ x ≠ '"' := by
  rw [escape, String.toList_ofList] at h
  obtain ⟨c, -, hx⟩ := List.mem_flatMap.1 h
  simpa using List.all_eq_true.1 (all_escapeChar c) x hx

/-- Puts the characters with a meaning in markup back in place of the names they are written
with. -/
def unescapeChars : List Char → List Char
  | [] => []
  | '&' :: 'a' :: 'm' :: 'p' :: ';' :: rest => '&' :: unescapeChars rest
  | '&' :: 'l' :: 't' :: ';' :: rest => '<' :: unescapeChars rest
  | '&' :: 'g' :: 't' :: ';' :: rest => '>' :: unescapeChars rest
  | '&' :: 'q' :: 'u' :: 'o' :: 't' :: ';' :: rest => '"' :: unescapeChars rest
  | '&' :: '#' :: '3' :: '9' :: ';' :: rest => '\'' :: unescapeChars rest
  | c :: rest => c :: unescapeChars rest

/-- The text that stands in markup in its written form. -/
def unescape (markup : String) : String := .ofList (unescapeChars markup.toList)

theorem unescapeChars_escapeChar (c : Char) (rest : List Char) :
    unescapeChars (escapeChar c ++ rest) = c :: unescapeChars rest := by
  unfold escapeChar
  split
  case h_6 hamp _ _ _ _ =>
    rw [List.singleton_append, unescapeChars] <;> exact fun _ h _ => hamp h
  all_goals rfl

/-- A text comes back from its written form, whatever stands after it. -/
theorem unescape_escape_append (s markup : String) :
    unescape (escape s ++ markup) = s ++ unescape markup := by
  have h : ∀ cs rest : List Char,
      unescapeChars (cs.flatMap escapeChar ++ rest) = cs ++ unescapeChars rest := by
    intro cs rest
    induction cs with
    | nil => rfl
    | cons c cs ih =>
      rw [List.flatMap_cons, List.append_assoc, unescapeChars_escapeChar, ih, List.cons_append]
  rw [unescape, unescape, escape, String.toList_append, String.toList_ofList, h,
    String.ofList_append, String.ofList_toList]

theorem unescape_escape (s : String) : unescape (escape s) = s := by
  have h := unescape_escape_append s ""
  rwa [String.append_empty, show unescape "" = "" from rfl, String.append_empty] at h

/-! ### Reading what was written -/

/-- A name that tags can have. -/
def isPlainName (name : String) : Bool := name ≠ "" && name.toList.all Char.isAlphanum

theorem exists_letters {name : String} (h : isPlainName name = true) :
    ∃ c cs, name.toList = c :: cs ∧ ∀ x ∈ c :: cs, x.isAlphanum = true := by
  simp only [isPlainName, Bool.and_eq_true, decide_eq_true_eq, List.all_eq_true] at h
  obtain ⟨hne, hletter⟩ := h
  obtain ⟨c, cs, hchars⟩ := List.exists_cons_of_ne_nil (mt String.toList_eq_nil_iff.1 hne)
  exact ⟨c, cs, hchars, hchars ▸ hletter⟩

theorem ne_of_isAlphanum {c x : Char} (h : c.isAlphanum = true) (hx : x.isAlphanum = false) :
    c ≠ x := by
  rintro rfl
  rw [h] at hx
  cases hx

theorem readFrom_text {cs : List Char} (h : ∀ c ∈ cs, c ≠ '<') (rest : List Char) :
    readFrom .text (cs ++ rest) = cs.map .char ++ readFrom .text rest := by
  induction cs with
  | nil => rfl
  | cons c cs ih =>
    rw [List.cons_append, readFrom, step, if_neg (h c List.mem_cons_self),
      ih fun x hx => h x (List.mem_cons_of_mem c hx)]
    rfl

/-- A reader that collects characters has collected them all. -/
theorem readFrom_collected (place : List Char → Place) (cs : List Char)
    (h : ∀ c ∈ cs, ∀ before, step (place before) c = (place (before ++ [c]), []))
    (before rest : List Char) :
    readFrom (place before) (cs ++ rest) = readFrom (place (before ++ cs)) rest := by
  induction cs generalizing before with
  | nil => rw [List.nil_append, List.append_nil]
  | cons c cs ih =>
    rw [List.cons_append, readFrom, h c List.mem_cons_self,
      ih fun x hx => h x (List.mem_cons_of_mem c hx)]
    simp

theorem readFrom_closing {name : String} (h : isPlainName name = true) (rest : List Char) :
    readFrom .text (("</" ++ name ++ ">").toList ++ rest) =
      .closing name :: readFrom .text rest := by
  simp only [isPlainName, Bool.and_eq_true, List.all_eq_true] at h
  have hcollect := readFrom_collected Place.closing name.toList fun c hc before =>
    if_neg (ne_of_isAlphanum (h.2 c hc) (by decide))
  simp [readFrom, step, hcollect]

theorem readFrom_key {k : String} (h : isPlainName k = true) (name : String)
    (before : List (String × String)) (rest : List Char) :
    readFrom (.between name before) (k.toList ++ '=' :: '"' :: rest) =
      readFrom (.value name before k []) rest := by
  obtain ⟨c, cs, hk, hletter⟩ := exists_letters h
  have hc := hletter c List.mem_cons_self
  have hletters := readFrom_collected (Place.key name before) cs fun x hx read => by
    have hx := hletter x (List.mem_cons_of_mem c hx)
    simp [step, ne_of_isAlphanum hx]
  have hcollected : String.ofList (c :: cs) = k := by rw [← hk, String.ofList_toList]
  simp [hk, readFrom, step, ne_of_isAlphanum hc, hletters, hcollected]

theorem readFrom_attribute {a : String × String} (h : isPlainName a.1 = true) (name : String)
    (before : List (String × String)) (rest : List Char) :
    readFrom (.between name before) ((writeAttribute a).toList ++ rest) =
      readFrom (.between name (before ++ [attributeAsWritten a])) rest := by
  have hvalue := readFrom_collected (Place.value name before a.1) (escape a.2).toList
    fun x hx read => if_neg (mem_escape hx).2
  have hwritten : (writeAttribute a).toList ++ rest =
      ' ' :: (a.1.toList ++ '=' :: '"' :: ((escape a.2).toList ++ '"' :: rest)) := by
    simp [writeAttribute]
  have hspace : ∀ rest, readFrom (.between name before) (' ' :: rest) =
      readFrom (.between name before) rest := fun _ => rfl
  rw [hwritten, hspace, readFrom_key h, hvalue, List.nil_append, readFrom, step, if_pos rfl,
    String.ofList_toList]
  rfl

/-- Attributes are read one by one, up to the end of their tag. -/
theorem readFrom_attributes {attributes : List (String × String)}
    (h : ∀ a ∈ attributes, isPlainName a.1 = true) (name : String) (before : List (String × String))
    (rest : List Char) :
    readFrom (.between name before)
        ((String.join (attributes.map writeAttribute)).toList ++ '>' :: rest) =
      .opening name (before ++ attributes.map attributeAsWritten) :: readFrom .text rest := by
  induction attributes generalizing before with
  | nil => simp [readFrom, step]
  | cons a attributes ih =>
    rw [List.map_cons, String.join_cons, String.toList_append, List.append_assoc,
      readFrom_attribute (h a List.mem_cons_self), ih fun b hb => h b (List.mem_cons_of_mem a hb)]
    simp

theorem readFrom_opening {name : String} {attributes : List (String × String)}
    (hname : isPlainName name = true) (h : ∀ a ∈ attributes, isPlainName a.1 = true)
    (rest : List Char) :
    readFrom .text ((writeOpening name attributes).toList ++ rest) =
      .opening name (attributes.map attributeAsWritten) :: readFrom .text rest := by
  obtain ⟨c, cs, hchars, hletter⟩ := exists_letters hname
  have hc := hletter c List.mem_cons_self
  have hletters := readFrom_collected Place.name cs fun x hx read => by
    have hx := hletter x (List.mem_cons_of_mem c hx)
    simp [step, ne_of_isAlphanum hx]
  have hcollected : String.ofList (c :: cs) = name := by rw [← hchars, String.ofList_toList]
  have hwritten : (writeOpening name attributes).toList ++ rest = '<' :: c ::
      (cs ++ ((String.join (attributes.map writeAttribute)).toList ++ '>' :: rest)) := by
    simp [writeOpening, hchars]
  -- A name ends where the first attribute or the end of the tag begins.
  have hend : readFrom (.name (c :: cs))
        ((String.join (attributes.map writeAttribute)).toList ++ '>' :: rest) =
      readFrom (.between name [])
        ((String.join (attributes.map writeAttribute)).toList ++ '>' :: rest) := by
    cases attributes with
    | nil => simp [readFrom, step, hcollected]
    | cons a attributes => simp [writeAttribute, readFrom, step, hcollected]
  have hstart : ∀ rest, readFrom .text ('<' :: c :: rest) = readFrom (.name [c]) rest := fun _ => by
    simp [readFrom, step, ne_of_isAlphanum hc]
  rw [hwritten, hstart, hletters, List.singleton_append, hend, readFrom_attributes h,
    List.nil_append]

mutual

/-- A reader between tags makes its pieces of a node and stands between tags again. -/
theorem Node.readFrom_write {vocabulary : List String}
    (hplain : ∀ name ∈ vocabulary, isPlainName name = true) :
    (n : Node) → n.usesOnly vocabulary = true → ∀ rest,
      readFrom .text (n.write.toList ++ rest) = n.pieces ++ readFrom .text rest
  | .text s, _, rest => by
    rw [Node.write, Node.pieces, readFrom_text fun c hc => (mem_escape hc).1]
  | .entity name, h, rest => by
    simp only [Node.usesOnly, List.all_eq_true, decide_eq_true_eq] at h
    rw [Node.write, Node.pieces, readFrom_text fun c hc => ?_]
    simp only [String.toList_append, List.mem_append] at hc
    rcases hc with (hc | hc) | hc
    · rw [List.mem_singleton.1 (show c ∈ ['&'] from hc)]
      decide
    · exact h c hc
    · rw [List.mem_singleton.1 (show c ∈ [';'] from hc)]
      decide
  | .element name attributes content, h, rest => by
    obtain ⟨hname, hattributes, hcontent⟩ := Node.usesOnly_element.1 h
    have hwritten : (Node.element name attributes content).write.toList ++ rest =
        (writeOpening name attributes).toList ++ ((writeAll content).toList ++
          (("</" ++ name ++ ">").toList ++ rest)) := by
      simp [Node.write]
    rw [hwritten, readFrom_opening (hplain name hname) fun a ha => hplain _ (hattributes a ha),
      readFrom_writeAll hplain content hcontent, readFrom_closing (hplain name hname), Node.pieces]
    simp
  | .bare name attributes, h, rest => by
    obtain ⟨hname, hattributes⟩ := Node.usesOnly_bare.1 h
    rw [Node.write, Node.pieces,
      readFrom_opening (hplain name hname) fun a ha => hplain _ (hattributes a ha)]
    rfl
  | .doctype, h, _ => by simp [Node.usesOnly] at h
  | .written _, h, _ => by simp [Node.usesOnly] at h

theorem readFrom_writeAll {vocabulary : List String}
    (hplain : ∀ name ∈ vocabulary, isPlainName name = true) :
    (ns : List Node) → allUseOnly vocabulary ns = true → ∀ rest,
      readFrom .text ((writeAll ns).toList ++ rest) = piecesAll ns ++ readFrom .text rest
  | [], _, rest => rfl
  | n :: ns, h, rest => by
    obtain ⟨hn, hns⟩ := allUseOnly_cons.1 h
    rw [writeAll, piecesAll, String.toList_append, List.append_assoc, List.append_assoc,
      Node.readFrom_write hplain n hn, readFrom_writeAll hplain ns hns]

end

/-- Nodes that have been written are read as their pieces. -/
theorem read_writeAll {vocabulary : List String}
    (hplain : ∀ name ∈ vocabulary, isPlainName name = true) {ns : List Node}
    (h : allUseOnly vocabulary ns = true) : read (writeAll ns) = piecesAll ns := by
  have hread := readFrom_writeAll hplain ns h []
  rwa [List.append_nil, readFrom, List.append_nil] at hread

end PagedReports.Html
