import PagedReports.Proofs.Text.Numeral
import PagedReports.Text.Grouped

/-!
# Groups of three digits

The digits of a number are written in groups (`grouped_exact`): a first group of one to three
digits, and then groups of three digits, each after a comma. Without the commas this is the numeral
of the number, so that no two numbers are written alike.
-/

namespace PagedReports.Text

/-! ### Groups -/

/-- Digits in groups: a first group of one to three digits, and then groups of three digits. -/
structure ThreeGroups where
  /-- The first group. -/
  first : List Char
  /-- The further groups. -/
  more : List (List Char)
  /-- The first group is not empty. -/
  first_ne_nil : first ≠ []
  /-- The first group has at most three digits. -/
  length_first_le : first.length ≤ 3
  /-- Each further group has three digits. -/
  length_more : ∀ g ∈ more, g.length = 3

namespace ThreeGroups

/-- The digits of all groups. -/
def digits (g : ThreeGroups) : List Char := g.first ++ g.more.flatten

/-- The groups with a comma before each but the first. -/
def written (g : ThreeGroups) : List Char := g.first ++ g.more.flatMap (',' :: ·)

theorem length_digits (g : ThreeGroups) : g.digits.length = g.first.length + 3 * g.more.length := by
  have hmore : (g.more.map List.length).sum = 3 * g.more.length := by
    rw [List.map_eq_replicate_iff.2 g.length_more, List.sum_replicate_nat, Nat.mul_comm]
  rw [digits, List.length_append, List.length_flatten, hmore]

/-- One digit. -/
def one (c : Char) : ThreeGroups := ⟨[c], [], by simp, by simp, by simp⟩

/-- A further digit in front, which opens a group if the first one is full. -/
def cons (c : Char) (g : ThreeGroups) : ThreeGroups :=
  if h : g.first.length = 3 then
    ⟨[c], g.first :: g.more, by simp, by simp, List.forall_mem_cons.2 ⟨h, g.length_more⟩⟩
  else
    ⟨c :: g.first, g.more, by simp, by
      have := g.length_first_le
      rw [List.length_cons]
      omega, g.length_more⟩

theorem digits_cons (c : Char) (g : ThreeGroups) : (g.cons c).digits = c :: g.digits := by
  unfold cons
  split <;> simp [digits]

theorem written_cons (c : Char) (g : ThreeGroups) :
    (g.cons c).written =
      if g.first.length = 3 then c :: ',' :: g.written else c :: g.written := by
  unfold cons
  split <;> simp [written]

end ThreeGroups

/-- Commas stand between groups of three digits. -/
theorem exists_threeGroups {cs : List Char} (h : cs ≠ []) :
    ∃ g : ThreeGroups, g.digits = cs ∧ g.written = separate cs := by
  induction cs with
  | nil => exact absurd rfl h
  | cons c rest ih =>
    by_cases hrest : rest = []
    · subst hrest
      exact ⟨.one c, rfl, rfl⟩
    obtain ⟨g, hdigits, hwritten⟩ := ih hrest
    -- The first group is full when the digits after `c` are a multiple of three.
    have hfull : rest.length % 3 = 0 ↔ g.first.length = 3 := by
      have hlength := g.length_digits
      have hpos := List.length_pos_iff.2 g.first_ne_nil
      have hle := g.length_first_le
      rw [hdigits] at hlength
      omega
    refine ⟨g.cons c, by rw [g.digits_cons, hdigits], ?_⟩
    rw [g.written_cons, hwritten, separate]
    simp only [hrest, ne_eq, not_false_eq_true, true_and, hfull]

/-! ### Signed numbers -/

theorem ne_comma_of_isDigit {c : Char} (h : c.isDigit = true) : c ≠ ',' := by
  rintro rfl
  cases h

theorem ne_minus_of_isDigit {c : Char} (h : c.isDigit = true) : c ≠ '-' := by
  rintro rfl
  cases h

theorem lt_zero_iff (n : Int64) : n.toInt < 0 ↔ n < 0 := by
  rw [Int64.lt_iff_toInt_lt, Int64.toInt_zero]

theorem toList_signedText (n : Int64) :
    (signedText n).toList = (if n < 0 then ['-'] else []) ++ Nat.toDigits 10 n.toInt.natAbs := by
  simp only [signedText, lt_zero_iff]
  split <;> simp [Nat.toList_repr]

theorem toList_grouped (n : Int64) :
    (grouped n).toList =
      (if n < 0 then ['-'] else []) ++ separate (Nat.toDigits 10 n.toInt.natAbs) := by
  simp only [grouped, lt_zero_iff, Nat.toList_repr]
  split <;> simp

/-- The numeral of a signed number reads as that number. -/
theorem readSigned?_signedText (n : Int64) : readSigned? (signedText n) = some n := by
  have hsigned : ∀ m : Int, m = n.toInt → signed? m = some n := by
    rintro m rfl
    have hmin := Int64.le_toInt n
    have hmax := Int64.toInt_lt n
    rw [signed?, if_pos (by omega), Int64.ofInt_toInt]
  have hdigits := isDigit_of_mem_toDigits (n := n.toInt.natAbs)
  rw [readSigned?, toList_signedText]
  by_cases hneg : n < 0
  · have habs := (lt_zero_iff n).2 hneg
    simp only [hneg, if_true, List.singleton_append, digitsValue?_toDigits, Option.bind_some]
    exact hsigned _ (by omega)
  · have habs := mt (lt_zero_iff n).1 hneg
    simp only [hneg, if_false, List.nil_append]
    -- The numeral has no sign, so all of it is taken as digits.
    split
    · rename_i rest hsign
      exact absurd (hdigits '-' (hsign ▸ List.mem_cons_self)) (by decide)
    · rename_i rest hsign
      exact absurd (hdigits '+' (hsign ▸ List.mem_cons_self)) (by decide)
    · rw [digitsValue?_toDigits, Option.bind_some]
      exact hsigned _ (by omega)

/-- Without its commas, a number in groups is its numeral. -/
theorem filter_toList_grouped (n : Int64) :
    (grouped n).toList.filter (· != ',') = (signedText n).toList := by
  have hdigits : ∀ c ∈ Nat.toDigits 10 n.toInt.natAbs, c ≠ ',' :=
    fun c hc => ne_comma_of_isDigit (isDigit_of_mem_toDigits c hc)
  rw [toList_grouped, toList_signedText, List.filter_append, filter_separate hdigits]
  split <;> rfl

/-- **Thousands separators are exact.** For every signed number, the text in groups has no other
characters than its numeral and commas, and reads as the number without them. It starts with a minus
sign exactly for a negative number, and after the sign stand a first group of one to three digits
and groups of three digits, each after one comma. Different numbers have different texts. -/
theorem grouped_exact :
    (∀ n : Int64,
      (grouped n).toList.filter (· != ',') = (signedText n).toList ∧
      readSigned? (String.ofList ((grouped n).toList.filter (· != ','))) = some n ∧
      ((grouped n).toList.head? = some '-' ↔ n < 0) ∧
      ∃ g : ThreeGroups,
        (grouped n).toList = (if n < 0 then ['-'] else []) ++ g.written ∧
          ∀ c ∈ g.digits, c.isDigit = true) ∧
      Function.Injective grouped := by
  have hread : ∀ n,
      readSigned? (String.ofList ((grouped n).toList.filter (· != ','))) = some n := by
    intro n
    rw [filter_toList_grouped, String.ofList_toList, readSigned?_signedText]
  refine ⟨fun n => ⟨filter_toList_grouped n, hread n, ?_⟩, fun m n h => ?_⟩
  · obtain ⟨g, hdigits, hwritten⟩ := exists_threeGroups (Nat.toDigits_ne_nil (b := 10)
      (n := n.toInt.natAbs))
    have hall : ∀ c ∈ g.digits, c.isDigit = true := hdigits ▸ isDigit_of_mem_toDigits
    rw [toList_grouped, ← hwritten]
    refine ⟨?_, g, rfl, hall⟩
    by_cases hneg : n < 0
    · simp [hneg]
    · obtain ⟨c, rest, hfirst⟩ := List.exists_cons_of_ne_nil g.first_ne_nil
      have hc := ne_minus_of_isDigit (hall c (by simp [ThreeGroups.digits, hfirst]))
      simp [hneg, ThreeGroups.written, hfirst, hc]
  · have hm := hread m
    rw [h, hread n] at hm
    exact (Option.some.inj hm).symm

example : grouped (-9223372036854775808) = "-9,223,372,036,854,775,808" := by decide +kernel

end PagedReports.Text
