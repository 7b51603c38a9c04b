import Mathlib.Data.List.DropRight
import PagedReports.Text.Blank

/-!
# Trimming

What is left of a text when the blank characters at both ends are dropped: nothing exactly where
all of it is blank, and otherwise a text that trimming leaves as it is.
-/

namespace PagedReports.Text

theorem trimChars_eq_nil_iff {cs : List Char} :
    trimChars cs = [] ↔ ∀ c ∈ cs, isBlankChar c = true := by
  change (cs.dropWhile isBlankChar).rdropWhile isBlankChar = [] ↔ _
  rw [List.rdropWhile_eq_nil_iff]
  constructor
  · intro h
    -- The first character that is kept is not blank, so none is kept.
    refine List.dropWhile_eq_nil_iff.1 ?_
    cases hkept : cs.dropWhile isBlankChar with
    | nil => rfl
    | cons c rest =>
      have hfirst := List.head_dropWhile_not isBlankChar (l := cs) (by simp [hkept])
      simp only [hkept, List.head_cons] at hfirst
      rw [h c (by simp [hkept])] at hfirst
      cases hfirst
  · exact fun h c hc => h c ((List.dropWhile_sublist isBlankChar).subset hc)

/-- Nothing is left of a text exactly where all of it is blank. -/
theorem trim_eq_empty_iff {s : String} : trim s = "" ↔ isBlank s = true := by
  rw [isBlank, List.all_eq_true, ← trimChars_eq_nil_iff, ← String.toList_inj, toList_trim,
    String.toList_empty]

theorem nonBlank?_eq (s : String) : nonBlank? s = if trim s = "" then none else some (trim s) := by
  unfold nonBlank?
  by_cases h : isBlank s = true
  · rw [if_pos h, if_pos (trim_eq_empty_iff.2 h)]
  · rw [if_neg h, if_neg (mt trim_eq_empty_iff.1 h)]

/-- A text that is something and has no blank characters at its ends is taken as it is. -/
theorem nonBlank?_eq_self {s : String} (hne : s ≠ "") (htrim : trim s = s) :
    nonBlank? s = some s := by
  rw [nonBlank?_eq, htrim, if_neg hne]

/-- A text without blank characters is its own trimmed form. -/
theorem trim_eq_self {s : String} (h : ∀ c ∈ s.toList, isBlankChar c = false) : trim s = s := by
  rw [← String.toList_inj, toList_trim]
  exact trimChars_eq_self (fun c hc => h c (List.mem_of_mem_head? hc))
    fun c hc => h c (List.mem_of_getLast? hc)

end PagedReports.Text
