import PagedReports.Paging
import PagedReports.Text.Form
import PagedReports.Text.Numeral

/-!
# Requests

What a query string or a command line asks for: a report, a page, a page size and a sort, each
of which may be missing. `Request.ofQuery` reads a query string and `pagingQuery` writes the one
that leads back to a page of a report.
-/

namespace PagedReports

open Text

/-- The largest page a request may ask for. -/
def maxPerPage : UInt64 := 1000

/-- The fields of a request. -/
structure Request where
  /-- The name of the report. -/
  report : Option String
  /-- The page, from zero. -/
  page : Option UInt64
  /-- Rows per page. -/
  perPage : Option UInt64
  /-- The key of the column to sort by. -/
  sort : Option String
  /-- The direction of the sort, as written. -/
  dir : Option String
  deriving DecidableEq, Repr

namespace Request

/-- A request that says nothing. -/
def empty : Request := ⟨none, none, none, none, none⟩

/-- Takes in one pair of a query string. A pair with another name says nothing; a number that
cannot be read, and a blank text, unset their field. -/
def withPair (r : Request) (pair : String × String) : Request :=
  if pair.1 = "report" then { r with report := nonBlank? pair.2 }
  else if pair.1 = "page" then { r with page := readUnsigned? (trim pair.2) }
  else if pair.1 = "perpage" then { r with perPage := readUnsigned? (trim pair.2) }
  else if pair.1 = "sort" then { r with sort := nonBlank? pair.2 }
  else if pair.1 = "dir" then { r with dir := nonBlank? pair.2 }
  else r

/-- Reads a query string, with or without question marks before it. -/
def ofQuery (query : String) : Request :=
  (Form.parse (dropLeading '?' query)).foldl withPair empty

/-- The fields of `other` where it has them, and those of `r` elsewhere. -/
def merge (r other : Request) : Request where
  report := other.report.or r.report
  page := other.page.or r.page
  perPage := other.perPage.or r.perPage
  sort := other.sort.or r.sort
  dir := other.dir.or r.dir

/-- The name of the report, trimmed. -/
def reportName? (r : Request) : Option String := r.report.bind nonBlank?

/-- A page size between one and the largest allowed. -/
def clampPerPage (n : UInt64) : UInt64 :=
  if n < 1 then 1 else if maxPerPage < n then maxPerPage else n

/-- The paging that a request asks for, with a page size for requests that name none. -/
def paging (r : Request) (defaultPerPage : UInt64) : Paging where
  page := r.page.getD 0
  perPage := clampPerPage (r.perPage.getD defaultPerPage)
  sortKey := r.sort
  direction := (r.dir.map Direction.parse).getD .ascending

end Request

/-- The pairs that lead to a page of a report. -/
def pagingPairs (report : String) (p : Paging) : List (String × String) :=
  [("report", report), ("page", unsignedText p.page), ("perpage", unsignedText p.perPage)] ++
    match p.sortKey with
    | none => []
    | some key => [("sort", key), ("dir", p.direction.param)]

/-- The query string that leads to a page of a report. -/
def pagingQuery (report : String) (p : Paging) : String := Form.render (pagingPairs report p)

end PagedReports
