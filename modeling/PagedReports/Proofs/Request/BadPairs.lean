import PagedReports.Proofs.Request.RoundTrip

/-!
# Pairs that a request does not understand

A pair with a name that requests do not know changes nothing, wherever it stands in the query
string. A page or a page size that is no number does not leave things as they are: it unsets its
field. So the request is the same with it and without it exactly if the field is unset there anyhow,
or a later pair has the same name (`ofQuery_insert_bad_pair`).
-/

namespace PagedReports

open Text

/-! ### The numbers of a request -/

/-- The fields of a request that are numbers. -/
inductive NumberField where
  /-- The page. -/
  | page
  /-- Rows per page. -/
  | perPage
  deriving DecidableEq, Repr

namespace NumberField

/-- The name of the field in a query string. -/
def name : NumberField → String
  | page => "page"
  | perPage => "perpage"

/-- The value of the field. -/
def value? : NumberField → Request → Option UInt64
  | page, r => r.page
  | perPage, r => r.perPage

/-- The request with another value of the field. -/
def put (n : Option UInt64) : NumberField → Request → Request
  | page, r => { r with page := n }
  | perPage, r => { r with perPage := n }

@[simp]
theorem value?_put (f : NumberField) (n : Option UInt64) (r : Request) :
    f.value? (f.put n r) = n := by
  cases f <;> rfl

theorem put_eq_self {f : NumberField} {n : Option UInt64} {r : Request} :
    f.put n r = r ↔ f.value? r = n := by
  constructor
  · intro h
    rw [← h, value?_put]
  · rintro rfl
    cases f <;> rfl

/-- A pair with the name of the field sets it, and unsets it if the value is no number. -/
theorem withPair_of_name {f : NumberField} {pair : String × String} (h : pair.1 = f.name)
    (r : Request) : r.withPair pair = f.put (readUnsigned? (trim pair.2)) r := by
  cases f <;> simp [Request.withPair, h, name, put]

/-- A pair with another name does not look at the field. -/
theorem withPair_put {f : NumberField} {pair : String × String} (h : pair.1 ≠ f.name)
    (n : Option UInt64) (r : Request) :
    (f.put n r).withPair pair = f.put n (r.withPair pair) := by
  cases f with
  | page =>
    have hpage : pair.1 ≠ "page" := h
    simp only [Request.withPair, put, if_neg hpage]
    split_ifs <;> simp only
  | perPage =>
    have hperPage : pair.1 ≠ "perpage" := h
    simp only [Request.withPair, put, if_neg hperPage]
    split_ifs <;> simp only

/-- The last pair with the name of the field decides about it. Without such a pair it stays as it
was, and nothing else depends on it. -/
theorem foldl_withPair_put (f : NumberField) (pairs : List (String × String))
    (n : Option UInt64) (r : Request) :
    pairs.foldl Request.withPair (f.put n r) =
      if ∃ pair ∈ pairs, pair.1 = f.name then pairs.foldl Request.withPair r
      else f.put n (pairs.foldl Request.withPair r) := by
  induction pairs generalizing r with
  | nil => simp
  | cons pair pairs ih =>
    by_cases h : pair.1 = f.name
    · have hany : ∃ pair' ∈ pair :: pairs, pair'.1 = f.name := ⟨pair, List.mem_cons_self, h⟩
      have hput : f.put (readUnsigned? (trim pair.2)) (f.put n r) =
          f.put (readUnsigned? (trim pair.2)) r := by
        cases f <;> rfl
      rw [if_pos hany, List.foldl_cons, List.foldl_cons, withPair_of_name h, withPair_of_name h,
        hput]
    · have hany : (∃ pair' ∈ pair :: pairs, pair'.1 = f.name) ↔ ∃ pair' ∈ pairs, pair'.1 = f.name :=
        by simp [h]
      simp only [List.foldl_cons, withPair_put h, ih, hany]

theorem value?_foldl_withPair {f : NumberField} {pairs : List (String × String)}
    (h : ¬∃ pair ∈ pairs, pair.1 = f.name) (r : Request) :
    f.value? (pairs.foldl Request.withPair r) = f.value? r := by
  have hput := foldl_withPair_put f pairs (f.value? r) r
  rw [if_neg h, put_eq_self.2 rfl] at hput
  exact put_eq_self.1 hput.symm

end NumberField

/-! ### One pair more -/

/-- The names that requests know. -/
def knownNames : List String := ["report", "page", "perpage", "sort", "dir"]

theorem Request.withPair_of_unknown {pair : String × String} (h : pair.1 ∉ knownNames)
    (r : Request) : r.withPair pair = r := by
  simp only [knownNames, List.mem_cons, List.not_mem_nil, or_false, not_or] at h
  obtain ⟨hreport, hpage, hperPage, hsort, hdir⟩ := h
  rw [withPair, if_neg hreport, if_neg hpage, if_neg hperPage, if_neg hsort, if_neg hdir]

/-- The request that pieces of a query string stand for. -/
def Request.ofPieces (pieces : List String) : Request :=
  (pieces.map Form.pairOf).foldl withPair empty

theorem Request.ofQuery_eq_ofPieces (query : String) :
    ofQuery query = ofPieces (Form.pieces (dropLeading '?' query)) := by
  rw [ofQuery, Form.parse_eq_map_pieces, ofPieces]

theorem Request.ofPieces_append (before after : List String) :
    ofPieces (before ++ after) = (after.map Form.pairOf).foldl withPair (ofPieces before) := by
  rw [ofPieces, List.map_append, List.foldl_append]
  rfl

/-- What a number that cannot be read does among other pairs: it unsets its field, unless a later
pair with its name decides about the field. -/
theorem Request.ofPieces_bad_number {f : NumberField} {before after : List String} {piece : String}
    (hname : (Form.pairOf piece).1 = f.name)
    (hbad : readUnsigned? (trim (Form.pairOf piece).2) = none) :
    ofPieces (before ++ piece :: after) =
      if ∃ later ∈ after, (Form.pairOf later).1 = f.name then ofPieces (before ++ after)
      else f.put none (ofPieces (before ++ after)) := by
  have hafter : (∃ pair ∈ after.map Form.pairOf, pair.1 = f.name) ↔
      ∃ later ∈ after, (Form.pairOf later).1 = f.name := by
    simp
  rw [ofPieces_append, ofPieces_append, List.map_cons, List.foldl_cons,
    NumberField.withPair_of_name hname, hbad, NumberField.foldl_withPair_put]
  simp only [hafter]

/-- **A pair that a request does not understand**, put between the other pairs of a query string.
With a name that requests do not know it changes nothing. With the name of a number and a value that
is no number, it changes nothing exactly if a later pair has that name too, or the pairs before it
leave the field unset. -/
theorem Request.ofQuery_insert_bad_pair {query query' : String} {before after : List String}
    {piece : String} (hquery : Form.pieces (dropLeading '?' query) = before ++ after)
    (hquery' : Form.pieces (dropLeading '?' query') = before ++ piece :: after) :
    ((Form.pairOf piece).1 ∉ knownNames → ofQuery query' = ofQuery query) ∧
    ∀ f : NumberField, (Form.pairOf piece).1 = f.name →
      readUnsigned? (trim (Form.pairOf piece).2) = none →
      (ofQuery query' = ofQuery query ↔
        (∃ later ∈ after, (Form.pairOf later).1 = f.name) ∨ f.value? (ofPieces before) = none) := by
  rw [ofQuery_eq_ofPieces query, ofQuery_eq_ofPieces query', hquery, hquery']
  constructor
  · intro hunknown
    rw [ofPieces_append, ofPieces_append, List.map_cons, List.foldl_cons,
      withPair_of_unknown hunknown]
  · intro f hname hbad
    rw [ofPieces_bad_number hname hbad]
    by_cases hlater : ∃ later ∈ after, (Form.pairOf later).1 = f.name
    · rw [if_pos hlater]
      exact iff_of_true rfl (.inl hlater)
    · have hvalue : f.value? (ofPieces (before ++ after)) = f.value? (ofPieces before) := by
        rw [ofPieces_append]
        exact NumberField.value?_foldl_withPair (by simpa using hlater) _
      rw [if_neg hlater, NumberField.put_eq_self, hvalue, or_iff_right hlater]

/-- Between two other pages it does not matter what a page is that is no number. -/
theorem Request.ofQuery_bad_page_before_page :
    Form.pieces (dropLeading '?' "page=1&page=-1&page=2") = ["page=1"] ++ "page=-1" :: ["page=2"] ∧
    Request.ofQuery "page=1&page=-1&page=2" = Request.ofQuery "?page=1&page=2" := by
  have hquery : Form.pieces (dropLeading '?' "?page=1&page=2") = ["page=1"] ++ ["page=2"] := by
    decide
  have hquery' : Form.pieces (dropLeading '?' "page=1&page=-1&page=2") =
      ["page=1"] ++ "page=-1" :: ["page=2"] := by
    decide
  have hpiece : Form.pairOf "page=-1" = ("page", "-1") := Form.pairOf_pairChars ("page", "-1")
  have hlater : Form.pairOf "page=2" = ("page", "2") := Form.pairOf_pairChars ("page", "2")
  obtain ⟨-, hbad⟩ := Request.ofQuery_insert_bad_pair hquery hquery'
  rw [hpiece] at hbad
  exact ⟨hquery', (hbad .page rfl (by decide)).2
    (.inl ⟨"page=2", List.mem_singleton_self _, congrArg Prod.fst hlater⟩)⟩

/-- A page that is no number, after a page that is one: no page is left. -/
theorem Request.ofQuery_bad_page_after_page :
    Form.pieces "page=2" = ["page=2"] ++ [] ∧
    Form.pieces "page=2&page=abc" = ["page=2"] ++ "page=abc" :: [] ∧
    Form.pairOf "page=abc" = ("page", "abc") ∧ readUnsigned? (trim "abc") = none ∧
    (Request.ofQuery "page=2").page = some 2 ∧ (Request.ofQuery "page=2&page=abc").page = none := by
  have hone : Request.ofQuery "page=2" =
      [("page", "2")].foldl Request.withPair Request.empty :=
    Request.ofQuery_render [("page", "2")]
  have htwo : Request.ofQuery "page=2&page=abc" =
      [("page", "2"), ("page", "abc")].foldl Request.withPair Request.empty :=
    Request.ofQuery_render [("page", "2"), ("page", "abc")]
  exact ⟨by decide, by decide, Form.pairOf_pairChars ("page", "abc"), by decide,
    (congrArg Request.page hone).trans (by decide), (congrArg Request.page htwo).trans (by decide)⟩

end PagedReports
