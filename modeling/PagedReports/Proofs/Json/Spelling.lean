import Mathlib.Data.List.Basic
import PagedReports.Json.Reader

/-!
# Spelling documents

A document can be spelled in many ways: with blanks between its parts, with a character of a text as
it is or after a backslash, with a number's fraction and exponent or without them. `Spelled` says
which texts spell a document. The reader reads each of them as that document, with whatever stands
after it left over (`readTree?_spelled`), so a spelling with blanks around it is read as a whole
(`read?_of_spelled`).
-/

namespace PagedReports.Json

/-! ### Numbers -/

/-- Digits, at least one. -/
structure IsDigits (cs : List Char) : Prop where
  /-- There is a digit. -/
  ne_nil : cs ≠ []
  /-- There is nothing else. -/
  isDigit : ∀ c ∈ cs, c.isDigit = true

/-- A whole number. Only zero begins with a zero. -/
inductive IsWhole : List Char → Prop where
  /-- Zero. -/
  | zero : IsWhole ['0']
  /-- Any other number. -/
  | digits {d : Char} {ds : List Char} (hd : d ≠ '0') (h : IsDigits (d :: ds)) : IsWhole (d :: ds)

/-- A point and digits after it, or nothing. -/
inductive IsFraction : List Char → Prop where
  /-- Nothing. -/
  | none : IsFraction []
  /-- A point and digits. -/
  | point {ds : List Char} (h : IsDigits ds) : IsFraction ('.' :: ds)

/-- Digits that may have a sign. -/
inductive IsPower : List Char → Prop where
  /-- No sign. -/
  | bare {ds : List Char} (h : IsDigits ds) : IsPower ds
  /-- A plus sign. -/
  | plus {ds : List Char} (h : IsDigits ds) : IsPower ('+' :: ds)
  /-- A minus sign. -/
  | minus {ds : List Char} (h : IsDigits ds) : IsPower ('-' :: ds)

/-- A letter and a power after it, or nothing. -/
inductive IsExponent : List Char → Prop where
  /-- Nothing. -/
  | none : IsExponent []
  /-- A small letter and a power. -/
  | small {cs : List Char} (h : IsPower cs) : IsExponent ('e' :: cs)
  /-- A capital letter and a power. -/
  | capital {cs : List Char} (h : IsPower cs) : IsExponent ('E' :: cs)

/-- A number without a sign. -/
inductive IsMagnitude : List Char → Prop where
  /-- A whole number, a fraction and an exponent. -/
  | parts {whole fraction exponent : List Char} (hw : IsWhole whole) (hf : IsFraction fraction)
    (he : IsExponent exponent) : IsMagnitude (whole ++ (fraction ++ exponent))

/-- A number. -/
inductive IsNumber : List Char → Prop where
  /-- A number without a sign. -/
  | bare {cs : List Char} (h : IsMagnitude cs) : IsNumber cs
  /-- A number after a minus sign. -/
  | minus {cs : List Char} (h : IsMagnitude cs) : IsNumber ('-' :: cs)

/-- What stands after digits is not one of them. -/
def StopsDigits (rest : List Char) : Prop := ∀ c ∈ rest.head?, c.isDigit = false

/-- What stands after a number is not part of it. -/
def Ends (rest : List Char) : Prop :=
  ∀ c ∈ rest.head?, c.isDigit = false ∧ c ≠ '.' ∧ c ≠ 'e' ∧ c ≠ 'E'

theorem Ends.stopsDigits {rest : List Char} (h : Ends rest) : StopsDigits rest :=
  fun c hc => (h c hc).1

theorem readDigits?_append {ds rest : List Char} (h : IsDigits ds) (hrest : StopsDigits rest) :
    readDigits? (ds ++ rest) = some (ds, rest) := by
  have hstop : rest.takeWhile Char.isDigit = [] ∧ rest.dropWhile Char.isDigit = rest := by
    cases rest with
    | nil => exact ⟨rfl, rfl⟩
    | cons c rest =>
      have hc := hrest c rfl
      simp [hc]
  unfold readDigits?
  rw [List.takeWhile_append_of_pos h.isDigit, List.dropWhile_append_of_pos h.isDigit, hstop.1,
    hstop.2, List.append_nil]
  cases ds with
  | nil => exact absurd rfl h.ne_nil
  | cons d ds => rfl

theorem readWhole?_append {cs rest : List Char} (h : IsWhole cs) (hrest : StopsDigits rest) :
    readWhole? (cs ++ rest) = some (cs, rest) := by
  cases h with
  | zero => rfl
  | digits hd h =>
    have hread := readDigits?_append h hrest
    rw [List.cons_append] at hread ⊢
    rw [readWhole?]
    · exact hread
    · exact fun _ heq => hd (List.cons.inj heq).1

theorem readFraction?_append {cs rest : List Char} (h : IsFraction cs) (hrest : StopsDigits rest)
    (hpoint : rest.head? ≠ some '.') : readFraction? (cs ++ rest) = some (cs, rest) := by
  cases h with
  | none =>
    rw [List.nil_append, readFraction?]
    rintro _ rfl
    exact hpoint rfl
  | point h => rw [List.cons_append, readFraction?, readDigits?_append h hrest, Option.map_some]

/-- A digit is no other sign. -/
theorem ne_of_isDigit {d c : Char} (hd : d.isDigit = true) (hc : c.isDigit = false) : d ≠ c := by
  rintro rfl
  rw [hd] at hc
  cases hc

theorem readPower?_append {cs rest : List Char} (h : IsPower cs) (hrest : StopsDigits rest) :
    readPower? (cs ++ rest) = some (cs, rest) := by
  cases h with
  | plus h => rw [List.cons_append, readPower?, readDigits?_append h hrest, Option.map_some]
  | minus h => rw [List.cons_append, readPower?, readDigits?_append h hrest, Option.map_some]
  | bare h =>
    have hread := readDigits?_append h hrest
    obtain ⟨d, ds, rfl⟩ := List.exists_cons_of_ne_nil h.ne_nil
    have hd : d.isDigit = true := h.isDigit d List.mem_cons_self
    rw [List.cons_append] at hread ⊢
    rw [readPower?]
    · exact hread
    · exact fun _ heq => ne_of_isDigit hd (by decide) (List.cons.inj heq).1
    · exact fun _ heq => ne_of_isDigit hd (by decide) (List.cons.inj heq).1

theorem readExponent?_append {cs rest : List Char} (h : IsExponent cs) (hrest : Ends rest) :
    readExponent? (cs ++ rest) = some (cs, rest) := by
  cases h with
  | small h =>
    rw [List.cons_append, readExponent?, readPower?_append h hrest.stopsDigits, Option.map_some]
  | capital h =>
    rw [List.cons_append, readExponent?, readPower?_append h hrest.stopsDigits, Option.map_some]
  | none =>
    rw [List.nil_append, readExponent?]
    · rintro _ rfl
      exact (hrest 'e' rfl).2.2.1 rfl
    · rintro _ rfl
      exact (hrest 'E' rfl).2.2.2 rfl

/-- What comes after the digits of a whole number in a number. -/
theorem stopsDigits_fraction {fraction exponent rest : List Char} (hf : IsFraction fraction)
    (he : IsExponent exponent) (hrest : Ends rest) :
    StopsDigits (fraction ++ (exponent ++ rest)) := by
  cases hf with
  | point => exact fun c hc => Option.some.inj hc ▸ (by decide)
  | none =>
    cases he with
    | none => exact hrest.stopsDigits
    | small => exact fun c hc => Option.some.inj hc ▸ (by decide)
    | capital => exact fun c hc => Option.some.inj hc ▸ (by decide)

/-- What comes after a fraction has no point. -/
theorem head?_exponent {exponent rest : List Char} (he : IsExponent exponent) (hrest : Ends rest) :
    (exponent ++ rest).head? ≠ some '.' := by
  cases he with
  | none => exact fun hc => (hrest '.' hc).2.1 rfl
  | small => exact fun hc => absurd (Option.some.inj hc) (by decide)
  | capital => exact fun hc => absurd (Option.some.inj hc) (by decide)

theorem readMagnitude?_append {cs rest : List Char} (h : IsMagnitude cs) (hrest : Ends rest) :
    readMagnitude? (cs ++ rest) = some (cs, rest) := by
  obtain ⟨hw, hf, he⟩ := h
  rename_i whole fraction exponent
  have hwhole := readWhole?_append hw (stopsDigits_fraction hf he hrest)
  have hstops : StopsDigits (exponent ++ rest) := stopsDigits_fraction .none he hrest
  have hfraction := readFraction?_append hf hstops (head?_exponent he hrest)
  have hexponent := readExponent?_append he hrest
  simp only [readMagnitude?, List.append_assoc, hwhole, hfraction, hexponent, Option.map_some]

/-- A number without a sign begins with a digit. -/
theorem IsMagnitude.exists_digit {cs : List Char} (h : IsMagnitude cs) :
    ∃ d ds, cs = d :: ds ∧ d.isDigit = true := by
  obtain ⟨hw, -, -⟩ := h
  cases hw with
  | zero => exact ⟨'0', _, rfl, by decide⟩
  | digits hd h => exact ⟨_, _, rfl, h.isDigit _ List.mem_cons_self⟩

/-- A number begins with a digit or a minus sign. -/
theorem IsNumber.exists_head {cs : List Char} (h : IsNumber cs) :
    ∃ d ds, cs = d :: ds ∧ (d.isDigit = true ∨ d = '-') := by
  cases h with
  | bare h =>
    obtain ⟨d, ds, rfl, hd⟩ := h.exists_digit
    exact ⟨d, ds, rfl, .inl hd⟩
  | minus => exact ⟨'-', _, rfl, .inr rfl⟩

/-- A number is read as it is written. -/
theorem readNumber?_append {cs rest : List Char} (h : IsNumber cs) (hrest : Ends rest) :
    readNumber? (cs ++ rest) = some (cs, rest) := by
  cases h with
  | minus h => rw [List.cons_append, readNumber?, readMagnitude?_append h hrest, Option.map_some]
  | bare h =>
    have hread := readMagnitude?_append h hrest
    obtain ⟨d, ds, rfl, hd⟩ := h.exists_digit
    rw [List.cons_append] at hread ⊢
    rw [readNumber?]
    · exact hread
    · exact fun _ heq => ne_of_isDigit hd (by decide) (List.cons.inj heq).1

/-! ### Texts -/

/-- What spells the pieces of a text after its opening quote, up to the closing one. -/
inductive SpelledText : List Piece → List Char → Prop where
  /-- The closing quote. -/
  | done : SpelledText [] ['"']
  /-- A character as it is. -/
  | char {c : Char} {ps : List Piece} {cs : List Char} (hlow : ¬c.toNat < 32) (hquote : c ≠ '"')
    (hslash : c ≠ '\\') (h : SpelledText ps cs) : SpelledText (.char c :: ps) (c :: cs)
  /-- A character by its letter after a backslash. -/
  | escaped {e c : Char} {ps : List Piece} {cs : List Char} (hc : escaped? e = some c)
    (h : SpelledText ps cs) : SpelledText (.char c :: ps) ('\\' :: e :: cs)
  /-- A number of sixteen bits by its four digits. -/
  | unit {a b c d : Char} {n : Nat} {ps : List Piece} {cs : List Char}
    (hn : hexUnit? a b c d = some n) (h : SpelledText ps cs) :
    SpelledText (.unit n :: ps) ('\\' :: 'u' :: a :: b :: c :: d :: cs)

/-- The spelling of a text is read as its pieces. -/
theorem readPieces?_spelled {ps : List Piece} {cs : List Char} (h : SpelledText ps cs)
    (rest : List Char) : readPieces? (cs ++ rest) = some (ps, rest) := by
  induction h with
  | done => rfl
  | char hlow hquote hslash _ ih =>
    rw [List.cons_append, readPieces?, if_neg hlow, ih]
    · rfl
    · exact hquote
    · exact fun _ _ _ _ _ h _ => hslash h
    · exact fun _ _ h _ => hslash h
  | escaped hc _ ih =>
    rw [List.cons_append, List.cons_append, readPieces?]
    · simp only [hc, ih]
      rfl
    · rintro _ _ _ _ _ rfl
      cases hc
  | unit hn _ ih =>
    simp only [List.cons_append, readPieces?, hn, ih]
    rfl

/-! ### Blanks -/

/-- Nothing but blanks. -/
def IsBlank (cs : List Char) : Prop := ∀ c ∈ cs, isSpace c = true

theorem isBlank_nil : IsBlank [] := fun _ hc => by cases hc

theorem skip_skip (cs : List Char) : skip (skip cs) = skip cs := by
  cases hkept : cs.dropWhile isSpace with
  | nil => rw [skip, skip, hkept]; rfl
  | cons c rest =>
    have hfirst := List.head_dropWhile_not isSpace (l := cs) (by simp [hkept])
    simp only [hkept, List.head_cons] at hfirst
    rw [skip, skip, hkept, List.dropWhile_cons_of_neg (by simp [hfirst])]

theorem skip_cons {c : Char} (h : isSpace c = false) (cs : List Char) : skip (c :: cs) = c :: cs :=
  List.dropWhile_cons_of_neg (by simp [h])

theorem skip_blank {ws : List Char} (h : IsBlank ws) (cs : List Char) :
    skip (ws ++ cs) = skip cs := by
  rw [skip, List.dropWhile_append_of_pos h]
  rfl

/-- Blanks before a document do not matter. -/
theorem readTree?_skip (n : Nat) (cs : List Char) : readTree? n (skip cs) = readTree? n cs := by
  cases n with
  | zero => rw [readTree?, readTree?]
  | succ n => rw [readTree?, readTree?, skip_skip]

theorem readItems?_skip (n : Nat) (cs : List Char) : readItems? n (skip cs) = readItems? n cs := by
  cases n with
  | zero => rw [readItems?, readItems?]
  | succ n => rw [readItems?, readItems?, readTree?_skip]

theorem readEntries?_skip (n : Nat) (cs : List Char) :
    readEntries? n (skip cs) = readEntries? n cs := by
  cases n with
  | zero => rw [readEntries?, readEntries?]
  | succ n => rw [readEntries?, readEntries?, skip_skip]

theorem readTree?_blank {ws : List Char} (h : IsBlank ws) (n : Nat) (cs : List Char) :
    readTree? n (ws ++ cs) = readTree? n cs := by
  rw [← readTree?_skip, skip_blank h, readTree?_skip]

/-! ### Documents -/

mutual

/-- What spells a document, without blanks around it. -/
inductive SpelledTree : Tree → List Char → Prop where
  /-- Nothing. -/
  | null : SpelledTree .null ['n', 'u', 'l', 'l']
  /-- True. -/
  | true : SpelledTree (.bool true) ['t', 'r', 'u', 'e']
  /-- False. -/
  | false : SpelledTree (.bool false) ['f', 'a', 'l', 's', 'e']
  /-- A number. -/
  | number {cs : List Char} (h : IsNumber cs) : SpelledTree (.number cs) cs
  /-- A text. -/
  | string {ps : List Piece} {cs : List Char} (h : SpelledText ps cs) :
    SpelledTree (.string ps) ('"' :: cs)
  /-- A list without items. -/
  | noItems {ws : List Char} (hws : IsBlank ws) : SpelledTree (.array []) ('[' :: (ws ++ [']']))
  /-- A list of items. -/
  | items {ts : List Tree} {cs : List Char} (h : SpelledItems ts cs) :
    SpelledTree (.array ts) ('[' :: cs)
  /-- An object without entries. -/
  | noEntries {ws : List Char} (hws : IsBlank ws) :
    SpelledTree (.object []) ('\x7b' :: (ws ++ ['\x7d']))
  /-- An object of entries. -/
  | entries {es : List (List Piece × Tree)} {cs : List Char} (h : SpelledEntries es cs) :
    SpelledTree (.object es) ('\x7b' :: cs)

/-- What spells items up to the closing bracket. -/
inductive SpelledItems : List Tree → List Char → Prop where
  /-- The last item. -/
  | last {t : Tree} {before cs after : List Char} (hbefore : IsBlank before)
    (h : SpelledTree t cs) (hafter : IsBlank after) :
    SpelledItems [t] (before ++ (cs ++ (after ++ [']'])))
  /-- An item before others. -/
  | more {t : Tree} {before cs after : List Char} {ts : List Tree} {rest : List Char}
    (hbefore : IsBlank before) (h : SpelledTree t cs) (hafter : IsBlank after)
    (hrest : SpelledItems ts rest) :
    SpelledItems (t :: ts) (before ++ (cs ++ (after ++ ',' :: rest)))

/-- What spells an entry: a name, a colon and a document, with blanks around each. -/
inductive SpelledEntry : List Piece × Tree → List Char → Prop where
  /-- The four places for blanks. -/
  | mk {key : List Piece} {t : Tree} {first name second third cs fourth : List Char}
    (hfirst : IsBlank first) (hname : SpelledText key name) (hsecond : IsBlank second)
    (hthird : IsBlank third) (h : SpelledTree t cs) (hfourth : IsBlank fourth) :
    SpelledEntry (key, t) (first ++ '"' :: (name ++ (second ++ ':' :: (third ++ (cs ++ fourth)))))

/-- What spells entries up to the closing brace. -/
inductive SpelledEntries : List (List Piece × Tree) → List Char → Prop where
  /-- The last entry. -/
  | last {e : List Piece × Tree} {cs : List Char} (h : SpelledEntry e cs) :
    SpelledEntries [e] (cs ++ ['\x7d'])
  /-- An entry before others. -/
  | more {e : List Piece × Tree} {cs : List Char} {es : List (List Piece × Tree)}
    {rest : List Char} (h : SpelledEntry e cs) (hrest : SpelledEntries es rest) :
    SpelledEntries (e :: es) (cs ++ ',' :: rest)

end

/-- The spellings of a document, with blanks around them. -/
def Spelled (t : Tree) (s : String) : Prop :=
  ∃ before cs after, IsBlank before ∧ SpelledTree t cs ∧ IsBlank after ∧
    s.toList = before ++ (cs ++ after)

/-! ### Reading a spelling -/

theorem ends_nil : Ends [] := fun _ hc => by cases hc

/-- The signs between items end a number. -/
theorem ends_sign {c : Char} (hc : c ∈ [',', ']', '\x7d']) (rest : List Char) :
    Ends (c :: rest) := by
  intro x hx
  obtain rfl : c = x := Option.some.inj hx
  simp only [List.mem_cons, List.not_mem_nil, or_false] at hc
  rcases hc with rfl | rfl | rfl <;> decide

/-- Blanks end a number. -/
theorem ends_blank {ws rest : List Char} (h : IsBlank ws) (hrest : Ends rest) :
    Ends (ws ++ rest) := by
  cases ws with
  | nil => exact hrest
  | cons w ws =>
    intro x hx
    obtain rfl : w = x := Option.some.inj hx
    have hw := h w List.mem_cons_self
    simp only [isSpace, Bool.or_eq_true, beq_iff_eq] at hw
    rcases hw with ((rfl | rfl) | rfl) | rfl <;> decide

/-- A document that begins with a digit or a minus sign is a number. -/
theorem readTree?_number {d : Char} (hd : d.isDigit = true ∨ d = '-') (n : Nat) (cs : List Char) :
    readTree? (n + 1) (d :: cs) = (readNumber? (d :: cs)).map fun r => (.number r.1, r.2) := by
  have hother : ∀ c, c.isDigit = false → c ≠ '-' → d ≠ c := fun c hc hminus heq => by
    rcases hd with hd | hd
    · exact ne_of_isDigit hd hc heq
    · exact hminus (heq ▸ hd)
  have hspace : isSpace d = false := by
    by_contra h
    simp only [isSpace, Bool.not_eq_false, Bool.or_eq_true, beq_iff_eq] at h
    rcases h with ((h | h) | h) | h <;> exact hother _ (by decide) (by decide) h
  rw [readTree?, skip_cons hspace]
  split
  case h_7 => rfl
  all_goals
    rename_i h
    exact absurd (List.cons.inj h).1 (hother _ (by decide) (by decide))

/-- The end of a list is not a document. -/
theorem readTree?_bracket (n : Nat) (cs : List Char) : readTree? n (']' :: cs) = none := by
  cases n with
  | zero => rw [readTree?]
  | succ n => rfl

theorem exists_of_lt {m n : Nat} (h : m < n) : ∃ k, n = k + 1 := ⟨n - 1, by omega⟩

/-- The characters are read as the document, if the depth of the recursion may be larger than they
are many. -/
def TreeRead (t : Tree) (cs : List Char) : Prop :=
  ∀ n rest, cs.length < n → Ends rest → readTree? n (cs ++ rest) = some (t, rest)

/-- The characters are read as the items. -/
def ItemsRead (ts : List Tree) (cs : List Char) : Prop :=
  ∀ n rest, cs.length < n → readItems? n (cs ++ rest) = some (ts, rest)

/-- The characters are read as the entry. The sign after it decides whether there are more. -/
def EntryRead (e : List Piece × Tree) (cs : List Char) : Prop :=
  ∀ n rest, cs.length < n →
    readEntries? (n + 1) (cs ++ '\x7d' :: rest) = some ([e], rest) ∧
    readEntries? (n + 1) (cs ++ ',' :: rest) =
      (readEntries? n rest).map fun r => (e :: r.1, r.2)

/-- The characters are read as the entries. -/
def EntriesRead (es : List (List Piece × Tree)) (cs : List Char) : Prop :=
  ∀ n rest, cs.length < n → readEntries? n (cs ++ rest) = some (es, rest)

theorem treeRead_number {cs : List Char} (h : IsNumber cs) : TreeRead (.number cs) cs := by
  intro n rest hn hrest
  obtain ⟨n, rfl⟩ := exists_of_lt hn
  have hread := readNumber?_append h hrest
  obtain ⟨d, ds, rfl, hd⟩ := h.exists_head
  rw [List.cons_append] at hread ⊢
  rw [readTree?_number hd, hread, Option.map_some]

theorem treeRead_string {ps : List Piece} {cs : List Char} (h : SpelledText ps cs) :
    TreeRead (.string ps) ('"' :: cs) := by
  intro n rest hn _
  obtain ⟨n, rfl⟩ := exists_of_lt hn
  rw [List.cons_append, readTree?, skip_cons (by decide)]
  simp only [readPieces?_spelled h, Option.map_some]

theorem treeRead_noItems {ws : List Char} (h : IsBlank ws) :
    TreeRead (.array []) ('[' :: (ws ++ [']'])) := by
  intro n rest hn _
  obtain ⟨n, rfl⟩ := exists_of_lt hn
  have hskip : skip (ws ++ ']' :: rest) = ']' :: rest := by
    rw [skip_blank h, skip_cons (by decide)]
  rw [List.cons_append, List.append_assoc, List.singleton_append, readTree?,
    skip_cons (by decide)]
  simp only [hskip]

theorem treeRead_noEntries {ws : List Char} (h : IsBlank ws) :
    TreeRead (.object []) ('\x7b' :: (ws ++ ['\x7d'])) := by
  intro n rest hn _
  obtain ⟨n, rfl⟩ := exists_of_lt hn
  have hskip : skip (ws ++ '\x7d' :: rest) = '\x7d' :: rest := by
    rw [skip_blank h, skip_cons (by decide)]
  rw [List.cons_append, List.append_assoc, List.singleton_append, readTree?,
    skip_cons (by decide)]
  simp only [hskip]

/-- Items are not the end of a list. -/
theorem treeRead_items {ts : List Tree} {cs : List Char} (h : ItemsRead ts cs) :
    TreeRead (.array ts) ('[' :: cs) := by
  intro n rest hn _
  obtain ⟨n, rfl⟩ := exists_of_lt hn
  have hitems := h n rest (Nat.lt_of_succ_lt_succ hn)
  rw [← readItems?_skip] at hitems
  rw [List.cons_append, readTree?, skip_cons (by decide)]
  simp only
  split
  · rename_i hend
    rw [hend] at hitems
    cases n with
    | zero => cases hitems
    | succ n =>
      rw [readItems?, readTree?_bracket] at hitems
      cases hitems
  · rw [hitems, Option.map_some]

/-- Entries are not the end of an object. -/
theorem treeRead_entries {es : List (List Piece × Tree)} {cs : List Char} (h : EntriesRead es cs) :
    TreeRead (.object es) ('\x7b' :: cs) := by
  intro n rest hn _
  obtain ⟨n, rfl⟩ := exists_of_lt hn
  have hentries := h n rest (Nat.lt_of_succ_lt_succ hn)
  rw [← readEntries?_skip] at hentries
  rw [List.cons_append, readTree?, skip_cons (by decide)]
  simp only
  split
  · rename_i hend
    rw [hend] at hentries
    cases n with
    | zero => cases hentries
    | succ n =>
      rw [readEntries?, skip_cons (by decide)] at hentries
      cases hentries
  · rw [hentries, Option.map_some]

section Items

variable {t : Tree} {before cs after : List Char} (hbefore : IsBlank before) (h : TreeRead t cs)
  (hafter : IsBlank after)

include hbefore h hafter

theorem itemsRead_last : ItemsRead [t] (before ++ (cs ++ (after ++ [']']))) := by
  intro n rest hn
  obtain ⟨n, rfl⟩ := exists_of_lt hn
  simp only [List.length_append, List.length_singleton] at hn
  have hread := h n (after ++ ']' :: rest) (by omega) (ends_blank hafter (ends_sign (by simp) rest))
  have hskip : skip (after ++ ']' :: rest) = ']' :: rest := by
    rw [skip_blank hafter, skip_cons (by decide)]
  simp only [List.append_assoc, List.singleton_append]
  rw [readItems?, readTree?_blank hbefore, hread]
  simp only [hskip]

theorem itemsRead_more {ts : List Tree} {rest : List Char} (hrest : ItemsRead ts rest) :
    ItemsRead (t :: ts) (before ++ (cs ++ (after ++ ',' :: rest))) := by
  intro n others hn
  obtain ⟨n, rfl⟩ := exists_of_lt hn
  simp only [List.length_append, List.length_cons] at hn
  have hread := h n (after ++ ',' :: (rest ++ others)) (by omega)
    (ends_blank hafter (ends_sign (by simp) _))
  have hskip : skip (after ++ ',' :: (rest ++ others)) = ',' :: (rest ++ others) := by
    rw [skip_blank hafter, skip_cons (by decide)]
  have hothers := hrest n others (by omega)
  simp only [List.append_assoc, List.cons_append]
  rw [readItems?, readTree?_blank hbefore, hread]
  simp only [hskip, hothers, Option.map_some]

end Items

theorem entryRead_mk {key : List Piece} {t : Tree} {first name second third cs fourth : List Char}
    (hfirst : IsBlank first) (hname : SpelledText key name) (hsecond : IsBlank second)
    (hthird : IsBlank third) (h : TreeRead t cs) (hfourth : IsBlank fourth) :
    EntryRead (key, t)
      (first ++ '"' :: (name ++ (second ++ ':' :: (third ++ (cs ++ fourth))))) := by
  intro n rest hn
  simp only [List.length_append, List.length_cons] at hn
  have hquote : ∀ cs, skip (first ++ '"' :: cs) = '"' :: cs := fun cs => by
    rw [skip_blank hfirst, skip_cons (by decide)]
  have hcolon : ∀ cs, skip (second ++ ':' :: cs) = ':' :: cs := fun cs => by
    rw [skip_blank hsecond, skip_cons (by decide)]
  have hread : ∀ {c}, c ∈ [',', ']', '\x7d'] →
      readTree? n (third ++ (cs ++ (fourth ++ c :: rest))) = some (t, fourth ++ c :: rest) := by
    intro c hc
    rw [readTree?_blank hthird]
    exact h n _ (by omega) (ends_blank hfourth (ends_sign hc rest))
  constructor
  · have hskip : skip (fourth ++ '\x7d' :: rest) = '\x7d' :: rest := by
      rw [skip_blank hfourth, skip_cons (by decide)]
    simp only [List.append_assoc, List.cons_append, readEntries?, hquote,
      readPieces?_spelled hname, hcolon, hread (show '\x7d' ∈ _ by simp), hskip]
  · have hskip : skip (fourth ++ ',' :: rest) = ',' :: rest := by
      rw [skip_blank hfourth, skip_cons (by decide)]
    simp only [List.append_assoc, List.cons_append, readEntries?, hquote,
      readPieces?_spelled hname, hcolon, hread (show ',' ∈ _ by simp), hskip]

theorem entriesRead_last {e : List Piece × Tree} {cs : List Char} (h : EntryRead e cs) :
    EntriesRead [e] (cs ++ ['\x7d']) := by
  intro n rest hn
  obtain ⟨n, rfl⟩ := exists_of_lt hn
  simp only [List.length_append, List.length_singleton] at hn
  rw [List.append_assoc, List.singleton_append]
  exact (h n rest (by omega)).1

theorem entriesRead_more {e : List Piece × Tree} {cs : List Char} {es : List (List Piece × Tree)}
    {rest : List Char} (h : EntryRead e cs) (hrest : EntriesRead es rest) :
    EntriesRead (e :: es) (cs ++ ',' :: rest) := by
  intro n others hn
  obtain ⟨n, rfl⟩ := exists_of_lt hn
  simp only [List.length_append, List.length_cons] at hn
  rw [List.append_assoc, List.cons_append, (h n (rest ++ others) (by omega)).2,
    hrest n others (by omega), Option.map_some]

mutual

/-- **A spelling of a document is read as that document**, with whatever stands after it left
over. -/
theorem SpelledTree.read {t : Tree} {cs : List Char} : SpelledTree t cs → TreeRead t cs
  | .null => fun n rest hn _ => by obtain ⟨n, rfl⟩ := exists_of_lt hn; rfl
  | .true => fun n rest hn _ => by obtain ⟨n, rfl⟩ := exists_of_lt hn; rfl
  | .false => fun n rest hn _ => by obtain ⟨n, rfl⟩ := exists_of_lt hn; rfl
  | .number h => treeRead_number h
  | .string h => treeRead_string h
  | .noItems h => treeRead_noItems h
  | .items h => treeRead_items h.read
  | .noEntries h => treeRead_noEntries h
  | .entries h => treeRead_entries h.read

theorem SpelledItems.read {ts : List Tree} {cs : List Char} : SpelledItems ts cs → ItemsRead ts cs
  | .last hbefore h hafter => itemsRead_last hbefore h.read hafter
  | .more hbefore h hafter hrest => itemsRead_more hbefore h.read hafter hrest.read

theorem SpelledEntry.read {e : List Piece × Tree} {cs : List Char} :
    SpelledEntry e cs → EntryRead e cs
  | .mk hfirst hname hsecond hthird h hfourth =>
    entryRead_mk hfirst hname hsecond hthird h.read hfourth

theorem SpelledEntries.read {es : List (List Piece × Tree)} {cs : List Char} :
    SpelledEntries es cs → EntriesRead es cs
  | .last h => entriesRead_last h.read
  | .more h hrest => entriesRead_more h.read hrest.read

end

/-- A spelling with blanks around it is read as a whole. -/
theorem read?_of_spelled {t : Tree} {s : String} (h : Spelled t s) : Tree.read? s = some t := by
  obtain ⟨before, cs, after, hbefore, hcs, hafter, hs⟩ := h
  have hlength : s.length = before.length + (cs.length + after.length) := by
    rw [← String.length_toList, hs, List.length_append, List.length_append]
  have hends := ends_blank hafter ends_nil
  have hskip := skip_blank hafter []
  rw [List.append_nil] at hends hskip
  have hread := hcs.read (2 * s.length + 2) after (by omega) hends
  rw [Tree.read?, hs, readTree?_blank hbefore, hread]
  simp only [hskip]
  rfl

end PagedReports.Json
