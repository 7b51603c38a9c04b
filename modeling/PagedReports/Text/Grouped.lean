import PagedReports.Text.Numeral

/-!
# Thousands separators

`grouped` writes a signed number with a comma before every group of three digits that another
digit precedes.
-/

namespace PagedReports.Text

/-- A comma follows a digit when a positive multiple of three digits comes after it. -/
def separate : List Char → List Char
  | [] => []
  | c :: rest =>
    if rest ≠ [] ∧ rest.length % 3 = 0 then c :: ',' :: separate rest else c :: separate rest

/-- A signed number with thousands separators: `1,234,567`. -/
def grouped (n : Int64) : String :=
  let digits := separate (Nat.repr n.toInt.natAbs).toList
  String.ofList (if n.toInt < 0 then '-' :: digits else digits)

/-- Taking the commas out gives the digits back. -/
theorem filter_separate {cs : List Char} (h : ∀ c ∈ cs, c ≠ ',') :
    (separate cs).filter (· != ',') = cs := by
  induction cs with
  | nil => rfl
  | cons c rest ih =>
    have hc : (c != ',') = true := by simpa using h c (by simp)
    have hr := ih fun d hd => h d (by simp [hd])
    unfold separate
    split <;> simp [hc, hr]

end PagedReports.Text
