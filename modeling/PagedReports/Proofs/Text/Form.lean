import Mathlib.Data.List.Basic
import PagedReports.Proofs.Text.Utf8
import PagedReports.Text.Blank
import PagedReports.Text.Form

/-!
# Query strings read back

The written form of a byte stands for that byte (`percentDecode_writtenBytes`), and it consists of
plain bytes, plus and percent signs only (`mem_writtenBytes`). So the signs between pairs and
between a name and its value never come from the pairs themselves, and a query string that was
written from pairs reads as these pairs (`parse_render`).

Any other query string is read pair by pair as well (`parse_eq_map_pieces`).
-/

namespace PagedReports.Text.Form

/-! ### Bytes -/

/-- The bytes of the written form of one byte. -/
def writtenBytes (b : UInt8) : List UInt8 := (encodeByte b).flatMap Utf8.encodeChar

/-- The byte of a hexadecimal digit. -/
def hexByte (n : Nat) : UInt8 := UInt8.ofNat (hexDigit n).toNat

theorem hexDigit_lt : ∀ n < 16, (hexDigit n).toNat < 128 := by decide

theorem isPlain_hexByte : ∀ n < 16, isPlain (hexByte n) = true := by decide

theorem hexValue?_hexByte : ∀ n < 16, hexValue? (hexByte n) = some n := by decide

theorem toNat_of_isPlain {b : UInt8} (h : isPlain b = true) :
    b.toNat < 128 ∧ b.toNat ≠ 37 ∧ b.toNat ≠ 38 ∧ b.toNat ≠ 43 ∧ b.toNat ≠ 61 ∧ b.toNat ≠ 63 := by
  simp only [isPlain, Bool.or_eq_true, Bool.and_eq_true, decide_eq_true_eq, beq_iff_eq] at h
  omega

/-- A byte is written as itself, as a plus sign, or as a percent sign and two digits. -/
theorem writtenBytes_eq (b : UInt8) : writtenBytes b =
    if isPlain b then [b]
    else if b.toNat = 32 then [43]
    else [37, hexByte (b.toNat / 16), hexByte (b.toNat % 16)] := by
  have hb : b.toNat < 256 := b.toNat_lt
  unfold writtenBytes encodeByte
  split
  · rename_i hplain
    have hlt := (toNat_of_isPlain hplain).1
    have hchar : (Char.ofNat b.toNat).toNat = b.toNat := by
      rw [Char.ofNat, dif_pos (.inl (by omega))]
      rfl
    rw [List.flatMap_singleton, Utf8.encodeChar_ascii (by omega), hchar, UInt8.ofNat_toNat]
  · split
    · rfl
    · have hhigh := hexDigit_lt (b.toNat / 16) (by omega)
      have hlow := hexDigit_lt (b.toNat % 16) (by omega)
      simp only [List.flatMap_cons, List.flatMap_nil, Utf8.encodeChar_ascii hhigh,
        Utf8.encodeChar_ascii hlow]
      rfl

theorem mem_writtenBytes {b x : UInt8} (h : x ∈ writtenBytes b) :
    isPlain x = true ∨ x = 43 ∨ x = 37 := by
  have hb : b.toNat < 256 := b.toNat_lt
  rw [writtenBytes_eq] at h
  split at h
  · rename_i hplain
    rw [List.mem_singleton.1 h]
    exact .inl hplain
  split at h
  · exact .inr (.inl (List.mem_singleton.1 h))
  · simp only [List.mem_cons, List.not_mem_nil, or_false] at h
    rcases h with rfl | rfl | rfl
    · exact .inr (.inr rfl)
    · exact .inl (isPlain_hexByte _ (by omega))
    · exact .inl (isPlain_hexByte _ (by omega))

theorem unplus_of_isPlain {b : UInt8} (h : isPlain b = true) : unplus b = b :=
  if_neg (toNat_of_isPlain h).2.2.2.1

theorem percentDecode_cons_of_ne {b : UInt8} (h : b.toNat ≠ 37) (rest : List UInt8) :
    percentDecode (b :: rest) = b :: percentDecode rest := by
  match rest with
  | [] => rfl
  | [_] => rfl
  | _ :: _ :: _ => rw [percentDecode, if_neg h]

/-- The written form of a byte stands for that byte. -/
theorem percentDecode_writtenBytes (b : UInt8) (rest : List UInt8) :
    percentDecode ((writtenBytes b).map unplus ++ rest) = b :: percentDecode rest := by
  have hb : b.toNat < 256 := b.toNat_lt
  rw [writtenBytes_eq]
  split
  · rename_i hplain
    rw [List.map_singleton, unplus_of_isPlain hplain, List.singleton_append,
      percentDecode_cons_of_ne (toNat_of_isPlain hplain).2.1]
  split
  · rename_i hspace
    have hb32 : b = 32 := UInt8.toNat_inj.1 hspace
    rw [hb32]
    exact percentDecode_cons_of_ne (by decide) rest
  · have hhigh : b.toNat / 16 < 16 := by omega
    have hlow : b.toNat % 16 < 16 := by omega
    have hvalue : b.toNat / 16 * 16 + b.toNat % 16 = b.toNat := by omega
    have hpercent : unplus 37 = 37 := rfl
    simp only [List.map_cons, List.map_nil, unplus_of_isPlain (isPlain_hexByte _ hhigh),
      unplus_of_isPlain (isPlain_hexByte _ hlow), List.cons_append, List.nil_append, hpercent,
      percentDecode, hexValue?_hexByte _ hhigh, hexValue?_hexByte _ hlow, hvalue,
      UInt8.ofNat_toNat]
    rfl

/-! ### Names and values -/

/-- The bytes of the written form of a name or a value. -/
def writtenText (s : String) : List UInt8 := (Utf8.encode s).flatMap writtenBytes

theorem encodeChars_bytes (s : String) :
    (encodeChars s).flatMap Utf8.encodeChar = writtenText s :=
  List.flatMap_assoc

/-- A text of plain characters is written as it is. -/
theorem encodeChars_eq_self {s : String}
    (h : ∀ c ∈ s.toList, c.toNat < 128 ∧ isPlain (UInt8.ofNat c.toNat) = true) :
    encodeChars s = s.toList := by
  have hchar : ∀ c ∈ s.toList, (Utf8.encodeChar c).flatMap encodeByte = [c] := by
    intro c hc
    obtain ⟨hascii, hplain⟩ := h c hc
    have hvalue : (UInt8.ofNat c.toNat).toNat = c.toNat :=
      UInt8.toNat_ofNat_of_lt' (Nat.lt_trans hascii (by decide))
    rw [Utf8.encodeChar_ascii hascii, List.flatMap_singleton, encodeByte, if_pos hplain, hvalue,
      Char.ofNat_toNat]
  rw [encodeChars, Utf8.encode, List.flatMap_assoc, List.flatMap_congr hchar,
    List.flatMap_singleton']

theorem percentDecode_flatMap_writtenBytes (bs : List UInt8) :
    percentDecode ((bs.flatMap writtenBytes).map unplus) = bs := by
  induction bs with
  | nil => rfl
  | cons b bs ih => rw [List.flatMap_cons, List.map_append, percentDecode_writtenBytes, ih]

/-- The written form of a name or a value reads as it. -/
theorem decode_writtenText (s : String) : decode (writtenText s) = s := by
  rw [decode, writtenText, percentDecode_flatMap_writtenBytes, Utf8.decode_encode]

/-- The signs that end names and pairs do not occur in names and values. -/
theorem not_mem_writtenText {x : UInt8} (h : x = 38 ∨ x = 61 ∨ x = 63) (s : String) :
    x ∉ writtenText s := by
  intro hx
  obtain ⟨b, -, hb⟩ := List.mem_flatMap.1 hx
  rcases mem_writtenBytes hb with hplain | rfl | rfl
  · have hbounds := toNat_of_isPlain hplain
    rcases h with rfl | rfl | rfl <;> simp at hbounds
  · revert h
    decide
  · revert h
    decide

/-! ### Pairs -/

/-- The bytes of the written form of a pair. -/
def pairBytes (p : String × String) : List UInt8 := writtenText p.1 ++ 61 :: writtenText p.2

theorem pairChars_bytes (p : String × String) :
    (pairChars p).flatMap Utf8.encodeChar = pairBytes p := by
  rw [pairChars, List.flatMap_append, List.flatMap_cons, encodeChars_bytes, encodeChars_bytes]
  rfl

theorem not_mem_pairBytes {x : UInt8} (h : x = 38 ∨ x = 63) (p : String × String) :
    x ∉ pairBytes p := by
  have hne : x ≠ 61 := by rcases h with rfl | rfl <;> decide
  have hsign : x = 38 ∨ x = 61 ∨ x = 63 := by rcases h with rfl | rfl <;> decide
  simp [pairBytes, hne, not_mem_writtenText hsign]

/-- The written form of a pair reads as that pair: its name ends at the first equals sign. -/
theorem pair_pairBytes (p : String × String) : pair (pairBytes p) = p := by
  have hname : ∀ x ∈ writtenText p.1, (x != 61) = true := fun x hx => by
    refine bne_iff_ne.2 fun heq => ?_
    rw [heq] at hx
    exact not_mem_writtenText (.inr (.inl rfl)) p.1 hx
  rw [pair, pairBytes, List.takeWhile_append_of_pos hname, List.dropWhile_append_of_pos hname]
  simp [decode_writtenText]

theorem flatMap_intercalate {α β : Type} (f : α → List β) (sep : List α) (xss : List (List α)) :
    (List.intercalate sep xss).flatMap f =
      List.intercalate (sep.flatMap f) (xss.map (List.flatMap f)) := by
  match xss with
  | [] => rfl
  | [xs] => simp
  | xs :: ys :: rest =>
    have ih := flatMap_intercalate f sep (ys :: rest)
    simp only [List.map_cons] at ih ⊢
    rw [List.intercalate_cons_cons, List.intercalate_cons_cons, List.flatMap_append,
      List.flatMap_append, ih]

/-- The bytes of a query string. -/
theorem encode_render (pairs : List (String × String)) :
    Utf8.encode (render pairs) = List.intercalate [38] (pairs.map pairBytes) := by
  rw [Utf8.encode, render, String.toList_ofList, flatMap_intercalate, List.map_map]
  simp only [Function.comp_def, pairChars_bytes]
  rfl

/-- **A query string reads as the pairs that it was written from.** -/
theorem parse_render (pairs : List (String × String)) : parse (render pairs) = pairs := by
  rw [parse, encode_render]
  by_cases hnil : pairs = []
  · rw [hnil]
    rfl
  · have hand : ∀ bytes ∈ pairs.map pairBytes, (38 : UInt8) ∉ bytes := by
      intro bytes hbytes
      obtain ⟨p, -, rfl⟩ := List.mem_map.1 hbytes
      exact not_mem_pairBytes (.inl rfl) p
    have hkept : ∀ bytes ∈ pairs.map pairBytes, decide (bytes ≠ []) = true := by
      intro bytes hbytes
      obtain ⟨p, -, rfl⟩ := List.mem_map.1 hbytes
      simp [pairBytes]
    rw [List.splitOn_intercalate 38 hand (by simpa using hnil), List.filter_eq_self.2 hkept,
      List.map_map]
    simp [Function.comp_def, pair_pairBytes]

theorem mem_intercalate {α : Type} {sep : List α} {xss : List (List α)} {x : α}
    (h : x ∈ List.intercalate sep xss) : x ∈ sep ∨ ∃ xs ∈ xss, x ∈ xs := by
  match xss with
  | [] => simp at h
  | [xs] => exact .inr ⟨xs, by simp, by simpa using h⟩
  | xs :: ys :: rest =>
    rw [List.intercalate_cons_cons, List.mem_append, List.mem_append] at h
    rcases h with (h | h) | h
    · exact .inr ⟨xs, by simp, h⟩
    · exact .inl h
    · rcases mem_intercalate h with h | ⟨zs, hzs, h⟩
      · exact .inl h
      · exact .inr ⟨zs, List.mem_cons_of_mem _ hzs, h⟩

/-- There is nothing to drop before a query string that was written from pairs, which has no
question mark at all. -/
theorem dropLeading_render (pairs : List (String × String)) :
    dropLeading '?' (render pairs) = render pairs := by
  have hnone : '?' ∉ (render pairs).toList := by
    intro h
    have hbyte : (63 : UInt8) ∈ Utf8.encode (render pairs) :=
      List.mem_flatMap.2 ⟨'?', h, by decide⟩
    rw [encode_render] at hbyte
    rcases mem_intercalate hbyte with hsep | ⟨bytes, hbytes, hmem⟩
    · revert hsep
      decide
    · obtain ⟨p, -, rfl⟩ := List.mem_map.1 hbytes
      exact not_mem_pairBytes (.inr rfl) p hmem
  rw [dropLeading]
  cases hchars : (render pairs).toList with
  | nil => rw [← String.toList_inj, hchars]; rfl
  | cons c rest =>
    have hc : (c == '?') = false := by
      refine beq_eq_false_iff_ne.2 fun heq => hnone ?_
      rw [hchars, heq]
      exact List.mem_cons_self
    rw [List.dropWhile_cons_of_neg (by simp [hc]), ← hchars, String.ofList_toList]

/-! ### Query strings as they come -/

/-- The bytes of texts with `&` between them. -/
theorem encode_intercalate (pieces : List String) :
    Utf8.encode ("&".intercalate pieces) = List.intercalate [38] (pieces.map Utf8.encode) := by
  rw [Utf8.encode, String.toList_intercalate, flatMap_intercalate, List.map_map]
  rfl

/-- A query string reads piece by piece: as the pairs of the pieces between `&` that are not
empty. -/
theorem parse_intercalate {pieces : List String} (h : ∀ piece ∈ pieces, '&' ∉ piece.toList) :
    parse ("&".intercalate pieces) =
      ((pieces.map Utf8.encode).filter (· ≠ [])).map pair := by
  rw [parse, encode_intercalate]
  by_cases hnil : pieces = []
  · rw [hnil]
    rfl
  · have hand : ∀ bytes ∈ pieces.map Utf8.encode, (38 : UInt8) ∉ bytes := by
      intro bytes hbytes hmem
      obtain ⟨piece, hpiece, rfl⟩ := List.mem_map.1 hbytes
      exact h piece hpiece (Utf8.mem_of_mem_encode (by decide) hmem)
    rw [List.splitOn_intercalate 38 hand (by simpa using hnil)]


/-- The texts between `&` in a query string that are not empty: those of its pairs. -/
def pieces (query : String) : List String :=
  ((query.toList.splitOn '&').map String.ofList).filter (· ≠ "")

/-- The pair that a text without `&` stands for. -/
def pairOf (piece : String) : String × String := pair (Utf8.encode piece)

/-- The written form of a pair stands for that pair. -/
theorem pairOf_pairChars (p : String × String) : pairOf (String.ofList (pairChars p)) = p := by
  rw [pairOf, Utf8.encode, String.toList_ofList, pairChars_bytes, pair_pairBytes]

theorem not_mem_of_mem_splitOn {α : Type} [DecidableEq α] {a : α} {xs : List α} :
    ∀ part ∈ xs.splitOn a, a ∉ part := by
  induction xs with
  | nil => simp
  | cons x xs ih =>
    intro part hpart
    rw [List.splitOn_cons_eq_if_modifyHead] at hpart
    split at hpart
    · rcases List.mem_cons.1 hpart with rfl | hpart
      · exact List.not_mem_nil
      · exact ih part hpart
    · rename_i hx
      -- The character stands at the beginning of the first part.
      cases hparts : xs.splitOn a with
      | nil => exact absurd hparts (List.splitOn_ne_nil a xs)
      | cons first parts =>
        rw [hparts] at ih
        rw [hparts, List.modifyHead_cons, List.mem_cons] at hpart
        rcases hpart with rfl | hpart
        · rw [List.mem_cons, not_or]
          exact ⟨fun heq => hx (beq_iff_eq.2 heq.symm), ih first List.mem_cons_self⟩
        · exact ih part (List.mem_cons_of_mem first hpart)

theorem encode_eq_nil_iff {s : String} : Utf8.encode s = [] ↔ s = "" := by
  refine ⟨fun h => ?_, fun h => h ▸ rfl⟩
  rw [← Utf8.decode_encode s, h, Utf8.decode, Utf8.decodeChars]

/-- A query string is read pair by pair. -/
theorem parse_eq_map_pieces (query : String) : parse query = (pieces query).map pairOf := by
  have hand : ∀ piece ∈ (query.toList.splitOn '&').map String.ofList, '&' ∉ piece.toList := by
    refine List.forall_mem_map.2 fun part hpart => ?_
    rw [String.toList_ofList]
    exact not_mem_of_mem_splitOn part hpart
  have hquery : "&".intercalate ((query.toList.splitOn '&').map String.ofList) = query := by
    have hchars : ((query.toList.splitOn '&').map String.ofList).map String.toList =
        query.toList.splitOn '&' := by
      simp [Function.comp_def]
    rw [← String.toList_inj, String.toList_intercalate, hchars]
    exact List.intercalate_splitOn '&'
  have hkept : ∀ piece : String, decide (Utf8.encode piece ≠ []) = decide (piece ≠ "") :=
    fun piece => decide_eq_decide.2 (not_congr encode_eq_nil_iff)
  rw [← hquery, parse_intercalate hand, hquery, pieces, List.filter_map]
  simp only [Function.comp_def, hkept, List.map_map]
  rfl

end PagedReports.Text.Form
