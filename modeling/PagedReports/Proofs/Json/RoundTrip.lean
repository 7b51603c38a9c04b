import PagedReports.Json.Basic
import PagedReports.Proofs.Json.Spelling
import PagedReports.Proofs.Text.Numeral

/-!
# Documents read back

What is written of a document is a spelling of its tree (`Value.spelled`), so it is read as that
tree. A text comes back character by character, although some characters are written as letters
after a backslash and others by their number; a number comes back as its digits.
-/

namespace PagedReports.Json

/-! ### Texts -/

/-- The piece that a written character is read as. Control characters without a letter of their own
are written by their number. -/
def pieceOf (c : Char) : Piece :=
  if c = '\n' ∨ c = '\r' ∨ c = '\t' ∨ c.toNat = 8 ∨ c.toNat = 12 then .char c
  else if c.toNat < 32 then .unit c.toNat
  else .char c

/-- The pieces that a written text is read as. -/
def piecesOf (s : String) : List Piece := s.toList.map pieceOf

theorem hexUnit?_hexDigit : ∀ n < 32,
    hexUnit? '0' '0' (hexDigit (n / 16)) (hexDigit (n % 16)) = some n := by decide

theorem eq_ofNat_of_toNat {c : Char} {n : Nat} (h : c.toNat = n) : c = Char.ofNat n := by
  rw [← h, Char.ofNat_toNat]

/-- A written character spells its piece. -/
theorem spelledText_escapeChar (c : Char) {ps : List Piece} {cs : List Char}
    (h : SpelledText ps cs) : SpelledText (pieceOf c :: ps) (escapeChar c ++ cs) := by
  unfold escapeChar pieceOf
  by_cases hquote : c = '"'
  · subst hquote
    exact .escaped rfl h
  by_cases hslash : c = '\\'
  · subst hslash
    exact .escaped rfl h
  by_cases hn : c = '\n'
  · subst hn
    exact .escaped rfl h
  by_cases hr : c = '\r'
  · subst hr
    exact .escaped rfl h
  by_cases ht : c = '\t'
  · subst ht
    exact .escaped rfl h
  by_cases hb : c.toNat = 8
  · have hc := eq_ofNat_of_toNat hb
    subst hc
    exact .escaped rfl h
  by_cases hf : c.toNat = 12
  · have hc := eq_ofNat_of_toNat hf
    subst hc
    exact .escaped rfl h
  by_cases hlow : c.toNat < 32
  · simp only [hquote, hslash, hn, hr, ht, hb, hf, hlow, if_false, if_true, or_self]
    exact .unit (hexUnit?_hexDigit _ hlow) h
  · simp only [hquote, hslash, hn, hr, ht, hb, hf, hlow, if_false, or_self]
    exact .char hlow hquote hslash h

/-- A written text spells its pieces. -/
theorem spelledText_quoted (s : String) :
    SpelledText (piecesOf s) (s.toList.flatMap escapeChar ++ ['"']) := by
  rw [piecesOf]
  induction s.toList with
  | nil => exact .done
  | cons c cs ih =>
    rw [List.flatMap_cons, List.append_assoc]
    exact spelledText_escapeChar c ih

/-- The pieces of a text stand for its characters. -/
theorem characters?_piecesOf (s : String) : characters? (piecesOf s) = some s.toList := by
  have h : ∀ cs : List Char, characters? (cs.map pieceOf) = some cs := by
    intro cs
    induction cs with
    | nil => rfl
    | cons c cs ih =>
      rw [List.map_cons, pieceOf]
      split
      · rw [characters?, ih]
        rfl
      split
      · rename_i hlow
        have hhalf : (isHighHalf c.toNat || isLowHalf c.toNat) = false := by
          simp only [isHighHalf, isLowHalf, Bool.or_eq_false_iff, Bool.and_eq_false_iff,
            decide_eq_false_iff_not]
          omega
        rw [characters?.eq_def]
        simp only [hhalf, Bool.false_eq_true, if_false, ih, Char.ofNat_toNat]
        rfl
      · rw [characters?, ih]
        rfl
  exact h s.toList

/-! ### Numbers -/

/-- A numeral with more than one digit does not start with a zero. -/
theorem head?_toDigits {n : Nat} (hn : 0 < n) : (Nat.toDigits 10 n).head? ≠ some '0' := by
  induction n using Nat.strongRecOn with
  | ind n ih =>
    by_cases hlt : n < 10
    · rw [Nat.toDigits_of_lt_base hlt]
      have h : ∀ n < 10, 0 < n → [Nat.digitChar n].head? ≠ some '0' := by decide
      exact h n hlt hn
    · rw [Nat.toDigits_of_base_le (by decide) (by omega),
        List.head?_append_of_ne_nil _ Nat.toDigits_ne_nil]
      exact ih (n / 10) (by omega) (by omega)

/-- A numeral is a number. -/
theorem isNumber_toDigits (n : Nat) : IsNumber (Nat.toDigits 10 n) := by
  have hwhole : IsWhole (Nat.toDigits 10 n) := by
    rcases Nat.eq_zero_or_pos n with rfl | hn
    · exact .zero
    · have hfirst := head?_toDigits hn
      have hdigits : IsDigits (Nat.toDigits 10 n) :=
        ⟨Nat.toDigits_ne_nil, Text.isDigit_of_mem_toDigits⟩
      obtain ⟨d, ds, hchars⟩ := List.exists_cons_of_ne_nil hdigits.ne_nil
      rw [hchars] at hfirst hdigits ⊢
      exact .digits (fun hd => hfirst (congrArg some hd)) hdigits
  have hmagnitude := IsMagnitude.parts hwhole .none .none
  rw [List.append_nil, List.append_nil] at hmagnitude
  exact .bare hmagnitude

/-! ### Documents -/

mutual

/-- The tree that a written document is read as. -/
def Value.tree : Value → Tree
  | .null => .null
  | .bool b => .bool b
  | .number n => .number (Nat.toDigits 10 n)
  | .string s => .string (piecesOf s)
  | .array items => .array (treesOf items)
  | .object entries => .object (entryTrees entries)

/-- The trees of items. -/
def treesOf : List Value → List Tree
  | [] => []
  | v :: rest => v.tree :: treesOf rest

/-- The trees of entries. -/
def entryTrees : List (String × Value) → List (List Piece × Tree)
  | [] => []
  | (key, v) :: rest => (piecesOf key, v.tree) :: entryTrees rest

end

theorem treesOf_eq_map (items : List Value) : treesOf items = items.map Value.tree := by
  induction items with
  | nil => rfl
  | cons v items ih => rw [treesOf, ih, List.map_cons]

/-- The start of a line is blank. -/
theorem isBlank_indent (level : Nat) : IsBlank (indent level).toList := by
  intro c hc
  rw [indent, String.toList_ofList, List.mem_cons] at hc
  rcases hc with rfl | hc
  · rfl
  · rw [List.eq_of_mem_replicate hc]
    rfl

/-- A name, a colon and a document on a line of their own spell an entry. -/
theorem spelledEntry_line (level : Nat) (key : String) {t : Tree} {cs after : List Char}
    (h : SpelledTree t cs) (hafter : IsBlank after) :
    SpelledEntry (piecesOf key, t)
      ((indent level).toList ++ ((quote key).toList ++ (": ".toList ++ (cs ++ after)))) := by
  have hspace : IsBlank [' '] := fun c hc => List.mem_singleton.1 hc ▸ rfl
  have hentry :=
    SpelledEntry.mk (isBlank_indent level) (spelledText_quoted key) isBlank_nil hspace h hafter
  rw [quote, String.toList_ofList, List.cons_append]
  exact hentry

mutual

/-- **What is written of a document spells its tree.** -/
theorem Value.spelled (level : Nat) : (v : Value) → SpelledTree v.tree (v.write level).toList
  | .null => by
    rw [Value.write, Value.tree]
    exact .null
  | .bool true => by
    rw [Value.write, Value.tree]
    exact .true
  | .bool false => by
    rw [Value.write, Value.tree]
    exact .false
  | .number k => by
    rw [Value.write, Nat.toList_repr, Value.tree]
    exact .number (isNumber_toDigits k)
  | .string s => by
    rw [Value.write, quote, String.toList_ofList, Value.tree]
    exact .string (spelledText_quoted s)
  | .array [] => by
    rw [Value.write, Value.tree]
    exact .noItems isBlank_nil
  | .array (v :: items) => by
    simp only [Value.write, Value.tree, treesOf, String.toList_append, List.append_assoc]
    exact .items (spelledItems_write level items (Value.spelled (level + 1) v))
  | .object [] => by
    rw [Value.write, Value.tree]
    exact .noEntries isBlank_nil
  | .object ((key, v) :: entries) => by
    simp only [Value.write, Value.tree, entryTrees, String.toList_append, List.append_assoc]
    exact .entries (spelledEntries_write level entries key (Value.spelled (level + 1) v))

/-- The items of a list are spelled line by line, the first one as it was. -/
theorem spelledItems_write (level : Nat) : (items : List Value) → ∀ {t : Tree} {cs : List Char},
    SpelledTree t cs → SpelledItems (t :: treesOf items) ((indent (level + 1)).toList ++
      (cs ++ ((writeItems level items).toList ++ ((indent level).toList ++ "]".toList))))
  | [], t, cs, h => .last (isBlank_indent (level + 1)) h (isBlank_indent level)
  | v :: items, t, cs, h => by
    have hrest := spelledItems_write level items (Value.spelled (level + 1) v)
    have hmore := SpelledItems.more (isBlank_indent (level + 1)) h isBlank_nil hrest
    simp only [writeItems, treesOf, String.toList_append, List.append_assoc]
    exact hmore

/-- The entries of an object are spelled line by line, the document of the first one as it was. -/
theorem spelledEntries_write (level : Nat) : (entries : List (String × Value)) →
    ∀ (key : String) {t : Tree} {cs : List Char}, SpelledTree t cs →
      SpelledEntries ((piecesOf key, t) :: entryTrees entries) ((indent (level + 1)).toList ++
        ((quote key).toList ++ (": ".toList ++ (cs ++ ((writeEntries level entries).toList ++
          ((indent level).toList ++ "\x7d".toList))))))
  | [], key, t, cs, h => by
    have hentry := spelledEntry_line (level + 1) key h (isBlank_indent level)
    have hlast := SpelledEntries.last hentry
    simp only [List.append_assoc] at hlast
    exact hlast
  | (key', v) :: entries, key, t, cs, h => by
    have hentry := spelledEntry_line (level + 1) key h isBlank_nil
    have hrest := spelledEntries_write level entries key' (Value.spelled (level + 1) v)
    have hmore := SpelledEntries.more hentry hrest
    simp only [List.append_assoc, List.nil_append] at hmore
    simp only [writeEntries, entryTrees, String.toList_append, List.append_assoc]
    exact hmore

end

/-- A document that is written on lines of its own spells its tree. -/
theorem spelled_pretty (v : Value) : Spelled v.tree (v.pretty ++ "\n") :=
  ⟨[], v.pretty.toList, ['\n'], isBlank_nil, v.spelled 0,
    fun _ hc => List.mem_singleton.1 hc ▸ rfl, String.toList_append⟩

/-- A document that is written on lines of its own is read as its tree. -/
theorem read?_pretty (v : Value) : Tree.read? (v.pretty ++ "\n") = some v.tree :=
  read?_of_spelled (spelled_pretty v)

/-! ### Fields -/

/-- The entries of a written object come back with their names. -/
theorem named?_entryTrees (entries : List (String × Value)) :
    Tree.named? (entryTrees entries) = some (entries.map fun e => (e.1, e.2.tree)) := by
  induction entries with
  | nil => rfl
  | cons e entries ih =>
    obtain ⟨key, v⟩ := e
    rw [Tree.named?] at ih
    rw [entryTrees, Tree.named?, List.mapM_cons, characters?_piecesOf, ih]
    simp only [Option.map_some, String.ofList_toList]
    rfl

/-- The fields of a written object are looked up among what was written. -/
theorem fields?_tree_object (names : List String) (entries : List (String × Value)) :
    (Value.object entries).tree.fields? names =
      names.mapM (Tree.single? (entries.map fun e => (e.1, e.2.tree))) := by
  rw [Value.tree, Tree.fields?, named?_entryTrees, Option.bind_some]

theorem text?_tree_string (s : String) : (Value.string s).tree.text? = some s := by
  rw [Value.tree, Tree.text?, characters?_piecesOf, Option.map_some, String.ofList_toList]

theorem word?_tree_number (n : UInt64) : (Value.number n.toNat).tree.word? = some n := by
  rw [Value.tree, Tree.word?, Text.digitsValue?_toDigits, Option.bind_some, Text.unsigned?_toNat]

end PagedReports.Json
