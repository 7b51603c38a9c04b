import PagedReports.Text.Numeral

/-!
# Numerals read back

The decimal digits of a number are digits and have its value.
-/

namespace PagedReports.Text

theorem isDigit_of_mem_toDigits {n : Nat} : ∀ c ∈ Nat.toDigits 10 n, c.isDigit = true :=
  fun _ hc => Nat.isDigit_of_mem_toDigits (by decide) (by decide) hc

theorem digitsValue?_toDigits (n : Nat) : digitsValue? (Nat.toDigits 10 n) = some n := by
  rw [digitsValue?, if_pos ⟨Nat.toDigits_ne_nil, List.all_eq_true.2 isDigit_of_mem_toDigits⟩,
    Nat.ofDigitChars_toDigits (by decide) (by decide)]

theorem unsigned?_toNat (n : UInt64) : unsigned? n.toNat = some n := by
  rw [unsigned?, if_pos n.toNat_lt, UInt64.ofNat_toNat]

end PagedReports.Text
