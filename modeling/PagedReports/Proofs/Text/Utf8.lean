import Mathlib.Tactic.SplitIfs
import PagedReports.Text.Utf8

/-!
# UTF-8 reads back and keeps the order

The bytes of a text read as that text. A character takes one to four bytes by its size, and the
reader tells from the first byte how many follow; that these are read as a character at all, and
not as bytes out of place, is where the ranges of the second byte come in.

Texts stand in the order of their bytes (`encode_lt_encode_iff`): a larger character has a larger
first byte, or as many bytes of which the first that differs is larger.
-/

namespace PagedReports.Text.Utf8

theorem toNat_byte {n : Nat} (h : n < 256) : (UInt8.ofNat n).toNat = n :=
  UInt8.toNat_ofNat_of_lt' h

theorem isContinuation_byte {n : Nat} (h : n < 64) :
    isContinuation (UInt8.ofNat (0x80 + n)) = true := by
  simp only [isContinuation, toNat_byte (show 0x80 + n < 256 by omega), Bool.and_eq_true,
    decide_eq_true_eq]
  omega

/-- A character of one byte. -/
theorem first_one {n : Nat} (h : n < 0x80) (rest : List UInt8) :
    first (UInt8.ofNat n) rest = (Char.ofNat n, 0) := by
  simp only [first, toNat_byte (show n < 256 by omega), if_pos h]

/-- A character of two bytes. -/
theorem first_two {n : Nat} (hmin : 0x80 ≤ n) (hmax : n < 0x800) (rest : List UInt8) :
    first (UInt8.ofNat (0xC0 + n / 64)) (UInt8.ofNat (0x80 + n % 64) :: rest) =
      (Char.ofNat n, 1) := by
  have hlead : 0xC0 + n / 64 < 256 := by omega
  have hsecond : 0x80 + n % 64 < 256 := by omega
  have hcontinues := isContinuation_byte (show n % 64 < 64 by omega)
  have hvalue : (0xC0 + n / 64 - 0xC0) * 64 + (0x80 + n % 64 - 0x80) = n := by omega
  simp only [first, toNat_byte hlead, toNat_byte hsecond, hcontinues, if_true, hvalue]
  rw [if_neg (by omega), if_pos (by simp; omega)]

/-- A character of three bytes. The second byte is in range because the character needs three
bytes and is no half of a pair. -/
theorem first_three {n : Nat} (hmin : 0x800 ≤ n) (hmax : n < 0x10000)
    (hpair : n < 0xD800 ∨ 0xDFFF < n) (rest : List UInt8) :
    first (UInt8.ofNat (0xE0 + n / 4096))
        (UInt8.ofNat (0x80 + n / 64 % 64) :: UInt8.ofNat (0x80 + n % 64) :: rest) =
      (Char.ofNat n, 2) := by
  have hlead : 0xE0 + n / 4096 < 256 := by omega
  have hsecond : 0x80 + n / 64 % 64 < 256 := by omega
  have hthird : 0x80 + n % 64 < 256 := by omega
  have hrange : isSecondOfThree (0xE0 + n / 4096) (0x80 + n / 64 % 64) = true := by
    simp only [isSecondOfThree, Bool.and_eq_true, decide_eq_true_eq]
    constructor <;> split <;> omega
  have hcontinues := isContinuation_byte (show n % 64 < 64 by omega)
  have hvalue : (0xE0 + n / 4096 - 0xE0) * 4096 + (0x80 + n / 64 % 64 - 0x80) * 64 +
      (0x80 + n % 64 - 0x80) = n := by omega
  simp only [first, toNat_byte hlead, toNat_byte hsecond, toNat_byte hthird, hrange, hcontinues,
    if_true, hvalue]
  rw [if_neg (by omega), if_neg (by simp; omega), if_pos (by simp; omega)]

/-- A character of four bytes. The second byte is in range because the character needs four bytes
and is not beyond the last one. -/
theorem first_four {n : Nat} (hmin : 0x10000 ≤ n) (hmax : n < 0x110000) (rest : List UInt8) :
    first (UInt8.ofNat (0xF0 + n / 262144))
        (UInt8.ofNat (0x80 + n / 4096 % 64) :: UInt8.ofNat (0x80 + n / 64 % 64) ::
          UInt8.ofNat (0x80 + n % 64) :: rest) =
      (Char.ofNat n, 3) := by
  have hlead : 0xF0 + n / 262144 < 256 := by omega
  have hsecond : 0x80 + n / 4096 % 64 < 256 := by omega
  have hthird : 0x80 + n / 64 % 64 < 256 := by omega
  have hfourth : 0x80 + n % 64 < 256 := by omega
  have hrange : isSecondOfFour (0xF0 + n / 262144) (0x80 + n / 4096 % 64) = true := by
    simp only [isSecondOfFour, Bool.and_eq_true, decide_eq_true_eq]
    constructor <;> split <;> omega
  have hcontinues := isContinuation_byte (show n % 64 < 64 by omega)
  have hcontinues' := isContinuation_byte (show n / 64 % 64 < 64 by omega)
  have hvalue : (0xF0 + n / 262144 - 0xF0) * 262144 + (0x80 + n / 4096 % 64 - 0x80) * 4096 +
      (0x80 + n / 64 % 64 - 0x80) * 64 + (0x80 + n % 64 - 0x80) = n := by omega
  simp only [first, toNat_byte hlead, toNat_byte hsecond, toNat_byte hthird, toNat_byte hfourth,
    hrange, hcontinues, hcontinues', if_true, hvalue]
  rw [if_neg (by omega), if_neg (by simp; omega), if_neg (by simp; omega),
    if_pos (by simp; omega)]

/-- The bytes of a character, and whatever follows, read as that character and the rest. -/
theorem decodeChars_encodeChar (c : Char) (rest : List UInt8) :
    decodeChars (encodeChar c ++ rest) = c :: decodeChars rest := by
  have hvalid : c.toNat < 0xD800 ∨ 0xDFFF < c.toNat ∧ c.toNat < 0x110000 := c.valid
  have hchar : Char.ofNat c.toNat = c := Char.ofNat_toNat c
  unfold encodeChar
  simp only
  split
  · rename_i hone
    rw [List.singleton_append, decodeChars, first_one hone, hchar]
    rfl
  split
  · rename_i hone htwo
    rw [List.cons_append, List.singleton_append, decodeChars, first_two (by omega) htwo, hchar]
    rfl
  split
  · rename_i hone htwo hthree
    rw [List.cons_append, List.cons_append, List.singleton_append, decodeChars,
      first_three (by omega) hthree (by omega), hchar]
    rfl
  · rename_i hone htwo hthree
    rw [List.cons_append, List.cons_append, List.cons_append, List.singleton_append, decodeChars,
      first_four (by omega) (by omega), hchar]
    rfl

theorem encodeChar_ne_nil (c : Char) : encodeChar c ≠ [] := by
  intro h
  have hread := decodeChars_encodeChar c []
  simp [h, decodeChars] at hread

theorem decodeChars_flatMap_encodeChar (cs : List Char) :
    decodeChars (cs.flatMap encodeChar) = cs := by
  induction cs with
  | nil => rw [List.flatMap_nil, decodeChars]
  | cons c cs ih => rw [List.flatMap_cons, decodeChars_encodeChar, ih]

/-- **The bytes of a text read as that text.** -/
theorem decode_encode (s : String) : decode (encode s) = s := by
  rw [decode, encode, decodeChars_flatMap_encodeChar, String.ofList_toList]

/-- A character below 128 is one byte. -/
theorem encodeChar_ascii {c : Char} (h : c.toNat < 0x80) : encodeChar c = [UInt8.ofNat c.toNat] :=
  if_pos h

/-! ### Order -/

theorem cons_byte_lt_iff {m n : Nat} (hm : m < 256) (hn : n < 256) {xs ys : List UInt8} :
    UInt8.ofNat m :: xs < UInt8.ofNat n :: ys ↔ m < n ∨ m = n ∧ xs < ys := by
  rw [List.cons_lt_cons_iff, UInt8.lt_iff_toNat_lt, ← UInt8.toNat_inj, toNat_byte hm,
    toNat_byte hn]

/-- Bytes of different characters differ before either sequence ends. -/
theorem encodeChar_append_lt {c d : Char} (h : c < d) (xs ys : List UInt8) :
    encodeChar c ++ xs < encodeChar d ++ ys := by
  have hlt : c.toNat < d.toNat := h
  have hd : d.toNat < 0x110000 := by
    have hvalid : d.toNat < 0xD800 ∨ 0xDFFF < d.toNat ∧ d.toNat < 0x110000 := d.valid
    omega
  unfold encodeChar
  simp only
  -- The first byte tells how many follow, and grows with their number; then the parts decide.
  split_ifs <;>
    simp (disch := omega) only [List.cons_append, List.nil_append, cons_byte_lt_iff] <;>
    omega

theorem encodeChars_lt {cs ds : List Char} (h : cs < ds) :
    cs.flatMap encodeChar < ds.flatMap encodeChar := by
  induction h with
  | nil =>
    rename_i d ds
    obtain ⟨b, bs, hb⟩ := List.exists_cons_of_ne_nil (encodeChar_ne_nil d)
    rw [List.flatMap_cons, hb]
    exact List.nil_lt_cons _ _
  | rel hlt =>
    rw [List.flatMap_cons, List.flatMap_cons]
    exact encodeChar_append_lt hlt _ _
  | cons _ ih =>
    rw [List.flatMap_cons, List.flatMap_cons]
    exact List.append_left_lt ih

/-- **The order of texts is the order of their bytes.** -/
theorem encode_lt_encode_iff {s t : String} : encode s < encode t ↔ s < t := by
  constructor
  · intro h
    rcases Std.lt_trichotomy s t with hlt | heq | hgt
    · exact hlt
    · subst heq
      exact absurd h (List.lt_irrefl _)
    · exact absurd h (List.lt_asymm (encodeChars_lt hgt))
  · exact fun h => encodeChars_lt h

/-- A byte below 128 is a character of its own. -/
theorem toNat_eq_of_mem_encodeChar {c : Char} {b : UInt8} (hb : b ∈ encodeChar c)
    (h : b.toNat < 0x80) : c.toNat = b.toNat := by
  have hc : c.toNat < 0x110000 := by
    rcases c.valid with hlow | ⟨-, hhigh⟩
    · exact Nat.lt_trans hlow (by decide)
    · exact hhigh
  have hbyte : ∀ n, 0x80 ≤ n → n < 0x100 → b ≠ UInt8.ofNat n := by
    rintro n hmin hmax rfl
    rw [toNat_byte hmax] at h
    omega
  unfold encodeChar at hb
  simp only at hb
  split_ifs at hb with hone htwo hthree
  · rw [List.mem_singleton.1 hb, toNat_byte (by omega)]
  all_goals
    simp only [List.mem_cons, List.not_mem_nil, or_false] at hb
    exfalso
  · rcases hb with hb | hb <;> exact hbyte _ (by omega) (by omega) hb
  · rcases hb with hb | hb | hb <;> exact hbyte _ (by omega) (by omega) hb
  · rcases hb with hb | hb | hb | hb <;> exact hbyte _ (by omega) (by omega) hb

/-- The bytes of a text have a byte below 128 only where the text has that character. -/
theorem mem_of_mem_encode {s : String} {c : Char} (hc : c.toNat < 0x80)
    (h : UInt8.ofNat c.toNat ∈ encode s) : c ∈ s.toList := by
  obtain ⟨d, hd, hmem⟩ := List.mem_flatMap.1 h
  have hbyte : (UInt8.ofNat c.toNat).toNat = c.toNat := toNat_byte (by omega)
  have heq : d.toNat = c.toNat := (toNat_eq_of_mem_encodeChar hmem (by omega)).trans hbyte
  rwa [← Char.ofNat_toNat c, ← heq, Char.ofNat_toNat]

end PagedReports.Text.Utf8
