import PagedReports.Proofs.Text.Form
import PagedReports.Proofs.Text.Numeral
import PagedReports.Proofs.Text.Trimming
import PagedReports.Request

/-!
# Query strings carry pagings

The query string that leads to a page of a report reads as a request for that page
(`request_of_pagingQuery`): every number and every sort key comes back, whatever characters the key
has, trimmed as all texts of requests are. A paging whose page size a request may ask for, and
whose sort key trimming does not change, is therefore the paging of that request.
-/

namespace PagedReports

open Text

/-! ### Numbers -/

theorem isBlankChar_of_isDigit {c : Char} (h : c.isDigit = true) : isBlankChar c = false := by
  simp only [Char.isDigit, Bool.and_eq_true, decide_eq_true_eq] at h
  have hrange : 48 ≤ c.toNat ∧ c.toNat ≤ 57 := h
  simp only [isBlankChar, Bool.or_eq_false_iff, Bool.and_eq_false_iff, decide_eq_false_iff_not,
    beq_eq_false_iff_ne]
  omega

/-- The numeral of a number reads as that number. -/
theorem readUnsigned?_unsignedText (n : UInt64) :
    readUnsigned? (trim (unsignedText n)) = some n := by
  have hchars : (unsignedText n).toList = Nat.toDigits 10 n.toNat := Nat.toList_repr
  have hdigits := isDigit_of_mem_toDigits (n := n.toNat)
  rw [trim_eq_self fun c hc => isBlankChar_of_isDigit (hdigits c (hchars ▸ hc)), readUnsigned?,
    hchars]
  -- A numeral has no sign, so all of it is taken as digits.
  split
  · rename_i rest hsign
    exact absurd (hdigits '+' (hsign ▸ List.mem_cons_self)) (by decide)
  · rw [digitsValue?_toDigits]
    exact unsigned?_toNat n

/-! ### Requests -/

/-- A query string that was written from pairs is read pair by pair. -/
theorem Request.ofQuery_render (pairs : List (String × String)) :
    Request.ofQuery (Form.render pairs) = pairs.foldl Request.withPair Request.empty := by
  rw [Request.ofQuery, Form.dropLeading_render, Form.parse_render]

theorem nonBlank?_param (d : Direction) : nonBlank? d.param = some d.param := by
  cases d <;> decide

/-- The request that the query string for a page of a report reads as. -/
theorem ofQuery_pagingQuery (report : String) (p : Paging) :
    Request.ofQuery (pagingQuery report p) =
      { report := nonBlank? report
        page := some p.page
        perPage := some p.perPage
        sort := p.sortKey.bind nonBlank?
        dir := p.sortKey.map fun _ => p.direction.param } := by
  rw [pagingQuery, Request.ofQuery_render, pagingPairs]
  cases p.sortKey <;>
    simp [Request.withPair, Request.empty, readUnsigned?_unsignedText, nonBlank?_param]

/-- What a request can ask for: a page size in range, and a sort key that trimming does not change,
or neither a sort key nor a direction. -/
structure Paging.Requestable (p : Paging) : Prop where
  /-- There is a place for a row. -/
  one_le_perPage : 1 ≤ p.perPage
  /-- There are no more places than a request may ask for. -/
  perPage_le : p.perPage ≤ 1000
  /-- The sort key is something without blank characters at its ends, or there is none and the
  direction is ascending. -/
  sort : (p.sortKey = none ∧ p.direction = .ascending) ∨
    ∃ key, p.sortKey = some key ∧ key ≠ "" ∧ trim key = key

theorem clampPerPage_eq_self {n : UInt64} (h : 1 ≤ n) (h' : n ≤ 1000) :
    Request.clampPerPage n = n := by
  have hmax : ¬maxPerPage < n := UInt64.not_lt.2 h'
  rw [Request.clampPerPage, if_neg (UInt64.not_lt.2 h), if_neg hmax]

/-- A paging that can be requested is the paging of the query string that leads to it. -/
theorem Paging.Requestable.paging_ofQuery {p : Paging} (hp : p.Requestable) (report : String)
    (defaultPerPage : UInt64) :
    (Request.ofQuery (pagingQuery report p)).paging defaultPerPage = p := by
  rw [ofQuery_pagingQuery]
  obtain ⟨page, perPage, sortKey, direction⟩ := p
  have hsize := clampPerPage_eq_self hp.one_le_perPage hp.perPage_le
  rcases hp.sort with ⟨hkey, hdirection⟩ | ⟨key, hkey, hne, htrim⟩
  · simp only at hkey hdirection hsize
    simp [Request.paging, hkey, hdirection, hsize]
  · simp only at hkey hsize
    simp [Request.paging, hkey, hsize, nonBlank?_eq_self hne htrim, Direction.parse_param]

/-- **A query string carries its report and its paging.** For every text as the name of the report
and every paging, the request that the query string reads as has the trimmed name, the numbers, the
trimmed sort key, and the direction exactly where there is a sort key. A paging that a request can
ask for is the paging of that request, whatever page size requests have by default. -/
theorem request_of_pagingQuery (report : String) (p : Paging) :
    Request.ofQuery (pagingQuery report p) =
        { report := if trim report = "" then none else some (trim report)
          page := some p.page
          perPage := some p.perPage
          sort := p.sortKey.bind fun key => if trim key = "" then none else some (trim key)
          dir := p.sortKey.map fun _ => p.direction.param } ∧
      (p.Requestable → ∀ defaultPerPage,
        (Request.ofQuery (pagingQuery report p)).paging defaultPerPage = p) := by
  refine ⟨?_, fun hp defaultPerPage => hp.paging_ofQuery report defaultPerPage⟩
  rw [ofQuery_pagingQuery, nonBlank?_eq]
  congr 1
  exact Option.bind_congr fun key _ => nonBlank?_eq key

/-- The signs of query strings in name and key, and the largest page. -/
theorem request_of_hostile_names :
    Paging.Requestable ⟨18446744073709551615, 1000, some "a&b=c+d%41? é", .descending⟩ ∧
      Request.ofQuery (pagingQuery " r&s " ⟨18446744073709551615, 1000, some "a&b=c+d%41? é",
          .descending⟩) =
        ⟨some "r&s", some 18446744073709551615, some 1000, some "a&b=c+d%41? é", some "desc"⟩ ∧
      ∀ defaultPerPage, (Request.ofQuery (pagingQuery " r&s " ⟨18446744073709551615, 1000,
          some "a&b=c+d%41? é", .descending⟩)).paging defaultPerPage =
        ⟨18446744073709551615, 1000, some "a&b=c+d%41? é", .descending⟩ := by
  have hp : Paging.Requestable ⟨18446744073709551615, 1000, some "a&b=c+d%41? é", .descending⟩ :=
    ⟨by decide, by decide, .inr ⟨_, rfl, by decide, by decide⟩⟩
  obtain ⟨hrequest, hpaging⟩ := request_of_pagingQuery " r&s "
    ⟨18446744073709551615, 1000, some "a&b=c+d%41? é", .descending⟩
  refine ⟨hp, ?_, hpaging hp⟩
  rw [hrequest]
  decide

end PagedReports
