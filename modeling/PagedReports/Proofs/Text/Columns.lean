import Mathlib.Algebra.Ring.Nat
import Mathlib.Data.List.Forall2
import Mathlib.Data.Nat.Init
import PagedReports.Proofs.Text.Numeral

/-!
# Numbers in columns

Numbers that stand one after another, each filled up with zeros to the width of its column and
followed by what ends the column. Since a column has one width for all numbers, the numbers read
back (`Column.readAll?_writeAll`), and two texts stand in the order in which their numbers do, the
first ones deciding first (`Column.writeAll_lt_iff`).
-/

namespace PagedReports.Text

/-! ### Numbers of one width -/

/-- A number that is filled up with zeros to a width. -/
def padded (width n : Nat) : List Char := (Nat.toDigits 10 n).leftpad width '0'

theorem length_padded {width n : Nat} (hwidth : 0 < width) (h : n < 10 ^ width) :
    (padded width n).length = width := by
  have hle := (Nat.length_toDigits_le_iff (by decide) hwidth).2 h
  rw [padded, List.length_leftpad, Nat.max_eq_left hle]

theorem digitsValue?_padded (width n : Nat) : digitsValue? (padded width n) = some n := by
  have hdigits : (padded width n).all Char.isDigit = true := by
    rw [padded, List.leftpad, List.all_append, Bool.and_eq_true, List.all_eq_true,
      List.all_eq_true]
    exact ⟨fun c hc => by rw [List.eq_of_mem_replicate hc]; rfl, isDigit_of_mem_toDigits⟩
  have hne : padded width n ≠ [] := by simp [padded, List.leftpad]
  rw [digitsValue?, if_pos ⟨hne, hdigits⟩, padded, List.leftpad, Nat.ofDigitChars_append,
    Nat.ofDigitChars_replicate_zero, Nat.mul_zero, Nat.ofDigitChars_ten_toDigits]

theorem padded_inj {width m n : Nat} : padded width m = padded width n ↔ m = n := by
  constructor
  · intro h
    have hvalue := digitsValue?_padded width m
    rw [h, digitsValue?_padded] at hvalue
    exact (Option.some.inj hvalue).symm
  · exact fun h => h ▸ rfl

/-- The last digit stands apart from the others. -/
theorem padded_succ {width : Nat} (hwidth : 0 < width) (n : Nat) :
    padded (width + 1) n = padded width (n / 10) ++ [Nat.digitChar (n % 10)] := by
  unfold padded List.leftpad
  by_cases h : n < 10
  · obtain ⟨w, rfl⟩ := Nat.exists_eq_add_of_le' hwidth
    rw [Nat.div_eq_of_lt h, Nat.mod_eq_of_lt h, Nat.toDigits_zero, Nat.toDigits_of_lt_base h]
    simp [List.replicate_succ']
  · rw [Nat.toDigits_of_base_le (by decide) (Nat.le_of_not_lt h)]
    simp

theorem digitChar_lt_iff {m n : Nat} (hm : m < 10) (hn : n < 10) :
    Nat.digitChar m < Nat.digitChar n ↔ m < n := by
  change (Nat.digitChar m).toNat < (Nat.digitChar n).toNat ↔ m < n
  rw [Nat.toNat_digitChar_of_lt_ten hm, Nat.toNat_digitChar_of_lt_ten hn, Nat.add_lt_add_iff_left]

/-- Of two texts whose first parts have the same length, the first parts decide first. -/
theorem append_lt_append_iff {α : Type} [LT α] [Std.Irrefl (α := α) (· < ·)] {xs ys us vs : List α}
    (h : xs.length = ys.length) : xs ++ us < ys ++ vs ↔ xs < ys ∨ xs = ys ∧ us < vs := by
  induction xs generalizing ys with
  | nil =>
    rw [List.length_eq_zero_iff.1 h.symm]
    simp
  | cons x xs ih =>
    obtain ⟨y, ys, rfl⟩ := List.exists_cons_of_length_eq_add_one h.symm
    rw [List.cons_append, List.cons_append, List.cons_lt_cons_iff, List.cons_lt_cons_iff,
      ih (Nat.succ.inj h), List.cons.injEq, and_or_left, and_assoc, or_assoc]

/-- Numbers of one width stand in the order of their values. -/
theorem padded_lt_iff {width m n : Nat} (hwidth : 0 < width) (hm : m < 10 ^ width)
    (hn : n < 10 ^ width) : padded width m < padded width n ↔ m < n := by
  induction width, hwidth using Nat.le_induction generalizing m n with
  | base =>
    have hm10 : m < 10 := by simpa using hm
    have hn10 : n < 10 := by simpa using hn
    have hdigit {k : Nat} (hk : k < 10) : padded 1 k = [Nat.digitChar k] := by
      rw [padded, Nat.toDigits_of_lt_base hk]
      rfl
    rw [hdigit hm10, hdigit hn10, List.cons_lt_cons_iff, digitChar_lt_iff hm10 hn10]
    simp only [List.not_lt_nil, and_false, or_false]
  | succ width hwidth ih =>
    have hm' : m / 10 < 10 ^ width := Nat.div_lt_of_lt_mul (by rwa [Nat.pow_succ'] at hm)
    have hn' : n / 10 < 10 ^ width := Nat.div_lt_of_lt_mul (by rwa [Nat.pow_succ'] at hn)
    have hlength : (padded width (m / 10)).length = (padded width (n / 10)).length := by
      rw [length_padded hwidth hm', length_padded hwidth hn']
    rw [padded_succ hwidth, padded_succ hwidth, append_lt_append_iff hlength, ih hm' hn',
      padded_inj, List.cons_lt_cons_iff, digitChar_lt_iff (Nat.mod_lt _ (by decide))
      (Nat.mod_lt _ (by decide))]
    simp only [List.not_lt_nil, and_false, or_false]
    omega

/-! ### Columns -/

/-- A column of numbers. -/
structure Column where
  /-- How many digits its numbers have. -/
  width : Nat
  /-- What stands after its numbers. -/
  stop : List Char
  /-- There is at least one digit. -/
  width_pos : 0 < width

namespace Column

/-- A number that has no more digits than the column. -/
def Fits (c : Column) (n : Nat) : Prop := n < 10 ^ c.width

/-- One number in each column. -/
def writeAll : List Column → List Nat → List Char
  | c :: columns, n :: ns => padded c.width n ++ (c.stop ++ writeAll columns ns)
  | _, _ => []

/-- Reads one number in each column; all digits must be there, and nothing else. -/
def readAll? : List Column → List Char → Option (List Nat)
  | [], cs => if cs = [] then some [] else none
  | c :: columns, cs =>
    if cs.length < c.width then none
    else do
      let n ← digitsValue? (cs.take c.width)
      let rest ← (cs.drop c.width).dropPrefix? c.stop
      let ns ← readAll? columns rest
      return n :: ns

/-- **Numbers in columns read back.** -/
theorem readAll?_writeAll {columns : List Column} {ns : List Nat}
    (h : List.Forall₂ Fits columns ns) : readAll? columns (writeAll columns ns) = some ns := by
  induction h with
  | nil => rfl
  | @cons c n columns ns hn _ ih =>
    have hlength : (padded c.width n).length = c.width := length_padded c.width_pos hn
    have hwidth : ¬(writeAll (c :: columns) (n :: ns)).length < c.width := by
      rw [writeAll, List.length_append, hlength]
      omega
    have hstop := List.dropPrefix?_append_of_beq (writeAll columns ns) (beq_self_eq_true c.stop)
    rw [readAll?, if_neg hwidth, writeAll, List.take_left' hlength, List.drop_left' hlength,
      digitsValue?_padded, hstop]
    simp [ih]

/-- **Texts in columns stand in the order of the lists of their numbers.** -/
theorem writeAll_lt_iff {columns : List Column} {ms ns : List Nat}
    (hm : List.Forall₂ Fits columns ms) (hn : List.Forall₂ Fits columns ns) :
    writeAll columns ms < writeAll columns ns ↔ ms < ns := by
  induction hm generalizing ns with
  | nil =>
    cases hn
    simp [writeAll]
  | @cons c m columns ms hmc _ ih =>
    cases hn with
    | @cons _ n _ ns hnc hn =>
    have hlength : (padded c.width m).length = (padded c.width n).length := by
      rw [length_padded c.width_pos hmc, length_padded c.width_pos hnc]
    have hstop : ¬c.stop < c.stop := List.lt_irrefl _
    rw [writeAll, writeAll, append_lt_append_iff hlength, append_lt_append_iff rfl, ih hn,
      padded_lt_iff c.width_pos hmc hnc, padded_inj, List.cons_lt_cons_iff]
    simp only [hstop, false_or, true_and]

end Column

end PagedReports.Text
