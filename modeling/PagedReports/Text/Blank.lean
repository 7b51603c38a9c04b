/-!
# Blank characters and trimming

A character is blank when it has Unicode's White_Space property. Names, numbers and request
values are read after blank characters at both ends are dropped.
-/

namespace PagedReports.Text

/-- Unicode's White_Space property. -/
def isBlankChar (c : Char) : Bool :=
  let n := c.toNat
  (9 ≤ n && n ≤ 13) || n == 0x20 || n == 0x85 || n == 0xA0 || n == 0x1680 ||
    (0x2000 ≤ n && n ≤ 0x200A) || n == 0x2028 || n == 0x2029 || n == 0x202F || n == 0x205F ||
    n == 0x3000

/-- The characters without the blank ones at both ends. -/
def trimChars (cs : List Char) : List Char :=
  ((cs.dropWhile isBlankChar).reverse.dropWhile isBlankChar).reverse

/-- The text without the blank characters at both ends. -/
def trim (s : String) : String := String.ofList (trimChars s.toList)

/-- A text of blank characters only. -/
def isBlank (s : String) : Bool := s.toList.all isBlankChar

/-- The trimmed text, unless nothing is left of it. -/
def nonBlank? (s : String) : Option String := if isBlank s then none else some (trim s)

/-- The text, or a dash when it is blank. -/
def orDash (s : String) : String := if isBlank s then "-" else s

/-- First and last name as user lists show them: what is not blank, or a dash. -/
def fullName (first last : String) : String :=
  match nonBlank? first, nonBlank? last with
  | none, none => "-"
  | some f, none => f
  | none, some l => l
  | some f, some l => f ++ " " ++ l

/-- The text without any copies of `c` at its start. -/
def dropLeading (c : Char) (s : String) : String := String.ofList (s.toList.dropWhile (· == c))

/-- The text without any copies of `c` at its end. -/
def dropTrailing (c : Char) (s : String) : String :=
  String.ofList (s.toList.reverse.dropWhile (· == c)).reverse

/-! ### Small laws -/

theorem toList_trim (s : String) : (trim s).toList = trimChars s.toList := by simp [trim]

/-- Text that neither starts nor ends with a blank character is its own trimmed form. -/
theorem trimChars_eq_self {cs : List Char} (h₁ : ∀ c ∈ cs.head?, isBlankChar c = false)
    (h₂ : ∀ c ∈ cs.getLast?, isBlankChar c = false) : trimChars cs = cs := by
  have stop : ∀ {l : List Char}, (∀ c ∈ l.head?, isBlankChar c = false) →
      l.dropWhile isBlankChar = l := by
    intro l hl
    cases l with
    | nil => rfl
    | cons a t => simp [hl a rfl]
  rw [trimChars, stop h₁, stop (by simpa using h₂), List.reverse_reverse]

end PagedReports.Text
