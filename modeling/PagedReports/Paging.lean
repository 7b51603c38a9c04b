import PagedReports.Text.Blank

/-!
# Paging

Which page of a report is asked for, how many rows a page holds, and by which column the rows
are sorted. Pages are numbered from zero. Numbers are 64-bit words; a row offset must also fit a
signed word, because that is what a store can address.
-/

namespace PagedReports

/-- The direction of a sort. -/
inductive Direction where
  /-- Smallest first. -/
  | ascending
  /-- Largest first. -/
  | descending
  deriving DecidableEq, Repr

namespace Direction

/-- A lower-case ASCII letter for an upper-case one. -/
def lowerChar (c : Char) : Char := if 'A' ≤ c ∧ c ≤ 'Z' then Char.ofNat (c.toNat + 32) else c

/-- Descending is asked for by the word `desc` in any case; anything else is ascending. -/
def parse (s : String) : Direction :=
  if (Text.trimChars s.toList).map lowerChar = ['d', 'e', 's', 'c'] then descending else ascending

/-- The direction in an ORDER BY clause. -/
def sql : Direction → String
  | ascending => "ASC"
  | descending => "DESC"

/-- The direction in a query string. -/
def param : Direction → String
  | ascending => "asc"
  | descending => "desc"

/-- The other direction. -/
def toggled : Direction → Direction
  | ascending => descending
  | descending => ascending

/-- A query string's direction reads back. -/
theorem parse_param (d : Direction) : parse d.param = d := by cases d <;> decide

end Direction

/-- The number, or one for zero. -/
def atLeastOne (n : UInt64) : UInt64 := if n = 0 then 1 else n

/-- What a request says about the page to show. -/
structure Paging where
  /-- The page, from zero. -/
  page : UInt64
  /-- Rows per page. -/
  perPage : UInt64
  /-- The key of the column to sort by. -/
  sortKey : Option String
  /-- The direction of that sort. -/
  direction : Direction
  deriving DecidableEq, Repr

namespace Paging

/-- The first page of `perPage` rows, unsorted. -/
def start (perPage : UInt64) : Paging := ⟨0, atLeastOne perPage, none, .ascending⟩

/-- The same paging at another page. -/
def atPage (p : Paging) (page : UInt64) : Paging := { p with page }

/-- The same paging sorted by a column. -/
def sortedBy (p : Paging) (key : String) (direction : Direction) : Paging :=
  { p with sortKey := some key, direction }

/-- How many rows come before the page, unless a store cannot address that row. -/
def offset? (p : Paging) : Option UInt64 :=
  let before := p.page.toNat * p.perPage.toNat
  if before < 0x8000000000000000 then some (UInt64.ofNat before) else none

end Paging

/-- The last page that holds data, and page zero when there is none. -/
def lastPage (total perPage : UInt64) : UInt64 :=
  if total = 0 then 0 else (total - 1) / atLeastOne perPage

/-! ### Small laws -/

theorem toNat_atLeastOne (n : UInt64) : (atLeastOne n).toNat = max n.toNat 1 := by
  unfold atLeastOne
  split
  · subst n; rfl
  · have : n.toNat ≠ 0 := fun h => ‹n ≠ 0› (UInt64.toNat_inj.1 (by simpa using h))
    omega

theorem toNat_lastPage (total perPage : UInt64) :
    (lastPage total perPage).toNat = (total.toNat - 1) / max perPage.toNat 1 := by
  unfold lastPage
  split
  · subst total; simp
  · have : total.toNat ≠ 0 := fun h => ‹total ≠ 0› (UInt64.toNat_inj.1 (by simpa using h))
    have hle : (1 : UInt64) ≤ total := by
      rw [UInt64.le_iff_toNat_le]; simp; omega
    rw [UInt64.toNat_div, UInt64.toNat_sub_of_le _ _ hle, toNat_atLeastOne]
    rfl

theorem Paging.offset?_eq_some_iff {p : Paging} {n : UInt64} :
    p.offset? = some n ↔ p.page.toNat * p.perPage.toNat = n.toNat ∧
      n.toNat < 0x8000000000000000 := by
  unfold Paging.offset?
  simp only
  split
  · rename_i h
    rw [Option.some.injEq, ← UInt64.toNat_inj, UInt64.toNat_ofNat_of_lt' (show _ < 2 ^ 64 by omega)]
    omega
  · simp; omega

end PagedReports
