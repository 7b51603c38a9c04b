import PagedReports.Html.Node
import PagedReports.Request

/-!
# The paging bar

Links to the other pages of a report: the pages near the current one, the first and the last,
with dots where pages are left out, between a link back and a link on. Pages are 64-bit words; the
window around the current page is cut off where it would leave them.
-/

namespace PagedReports.Html

/-- The sum of two words, or the largest word if the sum is none. -/
def saturatingAdd (a b : UInt64) : UInt64 := .ofNat (min (a.toNat + b.toNat) 0xFFFFFFFFFFFFFFFF)

/-- The difference of two words, or zero if the difference is none. -/
def saturatingSub (a b : UInt64) : UInt64 := .ofNat (a.toNat - b.toNat)

/-- How many pages are shown on either side of the current one. -/
def pagingWindow : UInt64 := 4

/-- An entry of the paging bar. Pages are numbered from zero. -/
inductive BarItem where
  /-- A link to the page before the current one. -/
  | previous (page : UInt64)
  /-- A link to a page under its number. -/
  | page (page : UInt64)
  /-- The current page under its number. -/
  | current (page : UInt64)
  /-- Pages that are left out. -/
  | dots
  /-- A link to the page after the current one. -/
  | next (page : UInt64)
  deriving DecidableEq, Repr

/-- The first page of the window around the current one. -/
def windowStart (current : UInt64) : UInt64 := saturatingSub current pagingWindow

/-- The last page of the window around the current one. -/
def windowEnd (current last : UInt64) : UInt64 := min (saturatingAdd current pagingWindow) last

/-- The pages from one to another. -/
def pagesBetween (start stop : UInt64) : List UInt64 :=
  (List.range' start.toNat (stop.toNat + 1 - start.toNat)).map .ofNat

/-- The entries of the bar at a page, when the last page is `last`. -/
def barItems (current last : UInt64) : List BarItem :=
  let start := windowStart current
  let stop := windowEnd current last
  (if 0 < current then [.previous (current - 1)] else []) ++
  (if 0 < start then .page 0 :: (if 1 < start then [.dots] else []) else []) ++
  (pagesBetween start stop).map (fun p => if p = current then .current p else .page p) ++
  (if stop < last then (if stop + 1 < last then [.dots] else []) ++ [.page last] else []) ++
  (if current < last then [.next (current + 1)] else [])

/-- The number under which a page is shown. -/
def pageNumber (page : UInt64) : String := Text.unsignedText (saturatingAdd page 1)

/-- A link to a page of the same report, in the same order. -/
def pageLink (report : String) (p : Paging) (page : UInt64) (label : List Node) : Node :=
  link (pagingQuery report (p.atPage page)) label

/-- An entry as markup. -/
def BarItem.node (report : String) (p : Paging) : BarItem → Node
  | previous n => pageLink report p n [.entity "laquo", .text " Previous"]
  | page n => pageLink report p n [.text (pageNumber n)]
  | current n => el "strong" [.text (pageNumber n)]
  | dots => .entity "hellip"
  | next n => pageLink report p n [.text "Next ", .entity "raquo"]

/-- The paging bar of a report; nothing when all rows stand on one page. -/
def pagingBar (report : String) (p : Paging) (total : UInt64) : List Node :=
  if total ≤ p.perPage then []
  else
    let items := barItems p.page (lastPage total p.perPage)
    [.element "nav" [("class", "paging")]
      ((items.map (BarItem.node report p)).intersperse (.text " ")), newline]

/-! ### Small laws -/

theorem toNat_saturatingAdd (a b : UInt64) :
    (saturatingAdd a b).toNat = min (a.toNat + b.toNat) 0xFFFFFFFFFFFFFFFF :=
  UInt64.toNat_ofNat_of_lt' (Nat.lt_of_le_of_lt (Nat.min_le_right _ _) (by decide))

theorem toNat_saturatingSub (a b : UInt64) : (saturatingSub a b).toNat = a.toNat - b.toNat :=
  UInt64.toNat_ofNat_of_lt' (Nat.lt_of_le_of_lt (Nat.sub_le _ _) a.toNat_lt)

end PagedReports.Html
