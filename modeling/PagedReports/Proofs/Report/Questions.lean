import Mathlib.Data.List.Forall2
import PagedReports.Catalogue.Queues
import PagedReports.Database.Store
import PagedReports.Proofs.Report.History

/-!
# Questions of a report to its store

What a request says about paging and sorting is text from outside. None of it becomes part of a
query: a store is only asked for the one count of the definition and for its listings, in the
default order or sorted by one of its sortable columns (`Definition.Permits`). The parameters are
those of the filter as it was resolved when the report was opened, and offset and limit come from
the page and the page size alone.

Each operation is followed from the session before it, by the number of rows that is known there
(`ensures_page_asked`). What single operations ask adds up over a history
(`Report.exists_asked_after`), and pagings that select the same column leave the same sessions
(`Report.after_eq_of_alike`), which is why a sort key that names no column can be told apart from
no sort key at all by nobody who sees the queries.
-/

namespace PagedReports

open Sql

variable {σ : Type}

/-! ### The texts of a definition -/

namespace Definition

/-- The condition that all rows of a report meet. -/
def whereText (d : Definition) (f : ResolvedFilter) : String :=
  Clause.sql Atom.sql (Clause.conjoin
    (d.source.base.toList ++ (f.atom.map fun a => [Token.atom a]).toList))

/-- The one text that counts the rows of a report. -/
def countText (d : Definition) (f : ResolvedFilter) : String :=
  match d.source.groupBy with
  | some group =>
    "SELECT COUNT(*) FROM (SELECT 1 FROM " ++ d.source.origin.sql ++ " WHERE " ++ d.whereText f ++
      " GROUP BY " ++ outputsSql group ++ ")"
  | none => "SELECT COUNT(*) FROM " ++ d.source.origin.sql ++ " WHERE " ++ d.whereText f

/-- The text that lists the rows of a report in an order. -/
def listText (d : Definition) (f : ResolvedFilter) (order : List String) : String :=
  "SELECT " ++ outputsSql d.source.outputs ++ " FROM " ++ d.source.origin.sql ++ " WHERE " ++
    d.whereText f ++
    (match d.source.groupBy with
      | some group => " GROUP BY " ++ outputsSql group
      | none => "") ++
    " ORDER BY " ++ String.intercalate ", " order

/-- The orders in which a report can list its rows. -/
inductive OrderTexts (d : Definition) : List String → Prop where
  /-- The default order. -/
  | default : d.OrderTexts (d.defaultOrder.map OrderTerm.sql)
  /-- All terms of one sortable column, all in one direction, before the default order. -/
  | sorted {c : Column} (member : c ∈ d.columns) (sortable : c.isSortable = true)
    (direction : Direction) :
    d.OrderTexts ((c.order.map fun o => o.sql ++ " " ++ direction.sql) ++
      d.defaultOrder.map OrderTerm.sql)

/-- The column that a paging sorts by. -/
def column? (d : Definition) (p : Paging) : Option Column := p.sortKey.bind d.sortableColumn?

theorem orderTexts_column? (d : Definition) (p : Paging) :
    d.OrderTexts (((match d.column? p with
      | some c => c.order.map (OrderTerm.by · p.direction)
      | none => []) ++ d.defaultOrder).map OrderTerm.sql) := by
  cases hcolumn : d.column? p with
  | none => exact .default
  | some c =>
    obtain ⟨key, -, hkey⟩ := Option.bind_eq_some_iff.1 hcolumn
    have hfound : c.key = key ∧ c.isSortable = true := by simpa using List.find?_some hkey
    rw [List.map_append, List.map_map]
    exact .sorted (List.mem_of_find?_eq_some hkey) hfound.2 p.direction

end Definition

/-! ### What a store may be asked -/

namespace Definition

/-- A question for the number of rows of a report. -/
inductive Counts (d : Definition) (f : ResolvedFilter) : Call → Prop where
  /-- It is put in the one text that counts, with the parameters of the filter. -/
  | count {selection : Selection} (text : selection.countSql = d.countText f) :
    d.Counts f (.count selection f.params)

/-- A question for the rows of a page of a report. -/
inductive Lists (d : Definition) (f : ResolvedFilter) (p : Paging) : Call → Prop where
  /-- It is put in one of the texts that list, with the parameters of the filter. As many rows are
  asked for as fit on the page, and those of all pages before are passed over. The offset fits a
  signed word, so that no database finds it out of range. -/
  | select {listing : Listing} {offset limit : UInt64} {order : List String}
    (order_texts : d.OrderTexts order) (text : listing.sql = d.listText f order)
    (limit_eq : limit.toNat = max p.perPage.toNat 1)
    (offset_eq : offset.toNat = p.page.toNat * limit.toNat)
    (addressable : offset.toNat < 0x8000000000000000)
    (in_range : ∀ (db : Database) (n : UInt64),
      db.selectPage listing f.params offset limit ≠ .error (.offsetOutOfRange n)) :
    d.Lists f p (.select listing f.params offset limit)

/-- The questions that an operation may put to a store, in their order. -/
inductive Permits (d : Definition) (f : ResolvedFilter) : Operation → List Call → Prop where
  /-- To tell the number of rows they are counted, at most once. -/
  | rowCount {counted : Option Call} (counts : ∀ call ∈ counted, d.Counts f call) :
    d.Permits f .rowCount counted.toList
  /-- To fetch the rows of a page they are listed, at most once. -/
  | fetchPage {asked : Paging} {listed : Option Call}
    (lists : ∀ call ∈ listed, d.Lists f asked call) :
    d.Permits f (.fetchPage asked) listed.toList
  /-- To make a page its rows are listed, then all rows are counted, and then the rows of an earlier
  page are listed, each at most once. -/
  | page {asked : Paging} {listed counted relisted : Option Call}
    (lists : ∀ call ∈ listed, d.Lists f asked call) (counts : ∀ call ∈ counted, d.Counts f call)
    (relists : ∀ call ∈ relisted, ∃ last < asked.page, d.Lists f (asked.atPage last) call) :
    d.Permits f (.page asked) (listed.toList ++ counted.toList ++ relisted.toList)

end Definition

/-- A database takes every offset that fits a signed word. -/
theorem Database.selectPage_ne_offsetOutOfRange {offset : UInt64}
    (h : offset.toNat < 0x8000000000000000) (db : Database) (l : Listing) (params : List Value)
    (limit n : UInt64) : db.selectPage l params offset limit ≠ .error (.offsetOutOfRange n) := by
  unfold Database.selectPage
  rw [if_neg (Nat.not_le.2 h)]
  cases l.records db params <;> simp

/-! ### What an operation asks -/

namespace Report

variable {r : Report σ} {s : Session σ}

theorem counts_selection (r : Report σ) :
    r.definition.Counts r.filter (.count r.selection r.filter.params) := .count rfl

theorem lists_listing {p : Paging} {offset : UInt64} (h : (r.sanitize p).offset? = some offset) :
    r.definition.Lists r.filter p
      (.select (r.listing p) r.filter.params offset (r.sanitize p).perPage) := by
  obtain ⟨hmul, hlt⟩ := Paging.offset?_eq_some_iff.1 h
  have hlimit : (r.sanitize p).perPage.toNat = max p.perPage.toNat 1 := toNat_atLeastOne _
  exact .select (r.definition.orderTexts_column? p) rfl hlimit hmul.symm hlt
    fun db n => Database.selectPage_ne_offsetOutOfRange hlt db _ _ _ n

/-- A session has asked what another one has, and then one question of a kind or none. -/
def AsksAtMost (asked : Call → Prop) (s s' : Session σ) : Prop :=
  ∃ call : Option Call, s'.calls = s.calls ++ call.toList ∧ ∀ c ∈ call, asked c

theorem AsksAtMost.refl (asked : Call → Prop) (s : Session σ) : AsksAtMost asked s s :=
  ⟨none, by simp, by simp⟩

theorem AsksAtMost.one {asked : Call → Prop} {s s' : Session σ} {call : Call}
    (hcalls : s'.calls = s.calls ++ [call]) (hcall : asked call) : AsksAtMost asked s s' :=
  ⟨some call, hcalls, by simpa using hcall⟩

/-- The number of rows is asked for only where it is not known, and is known afterwards. -/
theorem ensures_rowCount_asked (r : Report σ) (s : Session σ) :
    Ensures r.rowCount s
      (fun _ s' => s'.total ≠ none ∧ AsksAtMost (r.definition.Counts r.filter) s s')
      fun _ s' => AsksAtMost (r.definition.Counts r.filter) s s' := by
  refine ensures_rowCount (fun n hn => ⟨by simp [hn], .refl _ s⟩) fun hnone => ?_
  refine ensures_askCount (fun n state _ => ⟨by simp, .one rfl r.counts_selection⟩)
    fun e state _ => .one rfl r.counts_selection

/-- A number of rows that is known is told without a question. -/
theorem ensures_rowCount_known (r : Report σ) {s : Session σ} (h : s.total ≠ none) :
    Ensures r.rowCount s (fun _ s' => s' = s) fun _ _ => False :=
  ensures_rowCount (fun _ _ => rfl) fun hnone => absurd hnone h

theorem noteFetched_calls (p : Paging) (offset : UInt64) (fetched : Nat) (s : Session σ) :
    (noteFetched p offset fetched s).calls = s.calls := by
  unfold noteFetched note
  split
  · split <;> rfl
  · rfl

/-- Fetching a page forgets no number of rows. -/
theorem noteFetched_total {p : Paging} {offset : UInt64} {fetched : Nat} {s : Session σ}
    (h : s.total ≠ none) : (noteFetched p offset fetched s).total ≠ none := by
  unfold noteFetched note
  split
  · split
    · exact h
    · simp
  · exact h

/-- The rows of a page are asked for once, and not at all beyond what a store can address. -/
theorem ensures_fetchPage_asked (r : Report σ) (asked : Paging) (s : Session σ) :
    Ensures (r.fetchPage asked) s
      (fun _ s' => AsksAtMost (r.definition.Lists r.filter asked) s s' ∧
        (s.total ≠ none → s'.total ≠ none))
      fun _ s' => AsksAtMost (r.definition.Lists r.filter asked) s s' := by
  refine ensures_fetchPage (fun _ => ⟨.refl _ s, id⟩) fun offset hoffset => ?_
  have hlists := lists_listing hoffset
  rw [← r.listing_sanitize] at hlists
  refine ensures_askSelect (fun records state _ => ?_) fun e state _ => .one rfl hlists
  exact ⟨fun rows _ => ⟨.one (noteFetched_calls ..) hlists, fun hs => noteFetched_total hs⟩,
    fun e _ => .one (noteFetched_calls ..) hlists⟩

/-- The pagings of a page and of the page before sanitizing ask for the same rows. -/
theorem lists_sanitize {p : Paging} {call : Call}
    (h : r.definition.Lists r.filter (r.sanitize p) call) : r.definition.Lists r.filter p call := by
  cases h with
  | select order_texts text limit_eq offset_eq addressable in_range =>
    rw [sanitize_perPage, toNat_atLeastOne, Nat.max_assoc, Nat.max_self] at limit_eq
    exact .select order_texts text limit_eq offset_eq addressable in_range

theorem AsksAtMost.imp {asked asked' : Call → Prop} {s s' : Session σ} (h : AsksAtMost asked s s')
    (himp : ∀ call, asked call → asked' call) : AsksAtMost asked' s s' := by
  obtain ⟨call, hcalls, hcall⟩ := h
  exact ⟨call, hcalls, fun c hc => himp c (hcall c hc)⟩

/-- A session has asked what an operation may ask from another one. -/
def Asked (r : Report σ) (op : Operation) (s s' : Session σ) : Prop :=
  ∃ calls, s'.calls = s.calls ++ calls ∧ r.definition.Permits r.filter op calls

/-- Listing, counting and listing again are what a page may ask. -/
theorem asked_page {asked : Paging} {s s₁ s₂ s₃ : Session σ}
    (hlists : AsksAtMost (r.definition.Lists r.filter asked) s s₁)
    (hcounts : AsksAtMost (r.definition.Counts r.filter) s₁ s₂)
    (hrelists : AsksAtMost (fun call => ∃ last < asked.page,
      r.definition.Lists r.filter (asked.atPage last) call) s₂ s₃) :
    r.Asked (.page asked) s s₃ := by
  obtain ⟨listed, hcalls₁, hlisted⟩ := hlists
  obtain ⟨counted, hcalls₂, hcounted⟩ := hcounts
  obtain ⟨relisted, hcalls₃, hrelisted⟩ := hrelists
  refine ⟨listed.toList ++ counted.toList ++ relisted.toList, ?_, .page hlisted hcounted hrelisted⟩
  rw [hcalls₃, hcalls₂, hcalls₁]
  simp only [List.append_assoc]

/-- A page lists its rows. If there are none it counts all rows, and then lists the last page; from
then on the number of rows is known, so that it is not asked for again. -/
theorem ensures_page_asked (r : Report σ) (asked : Paging) (s : Session σ) :
    Ensures (r.page asked) s (fun _ s' => r.Asked (.page asked) s s')
      fun _ s' => r.Asked (.page asked) s s' := by
  refine ensures_page ((r.ensures_fetchPage_asked (r.sanitize asked) s).imp
    (fun rows s₁ hfetched => ?_) fun _ _ hrefused =>
      asked_page (hrefused.imp fun _ => lists_sanitize) (.refl _ _) (.refl _ _))
  have hlisted := hfetched.1.imp fun _ => lists_sanitize
  simp only
  split
  · refine (r.ensures_rowCount_asked s₁).imp (fun n s₂ hcount => ?_) fun _ _ hrefused =>
      asked_page hlisted hrefused (.refl _ _)
    obtain ⟨hknown, hcounted⟩ := hcount
    split
    · rename_i hlast
      have relist : ∀ call, r.definition.Lists r.filter ((r.sanitize asked).atPage
          (lastPage n (r.sanitize asked).perPage)) call →
          ∃ last < asked.page, r.definition.Lists r.filter (asked.atPage last) call :=
        fun call h => ⟨_, hlast, lists_sanitize h⟩
      refine (r.ensures_fetchPage_asked _ s₂).imp (fun rows' s₃ hrefetched => ?_)
        fun _ _ hrefused => asked_page hlisted hcounted (hrefused.imp relist)
      obtain ⟨hrelists, hstill⟩ := hrefetched
      refine (r.ensures_rowCount_known (hstill hknown)).imp (fun _ s₄ hsame => ?_)
        fun _ _ hfalse => hfalse.elim
      rw [hsame]
      exact asked_page hlisted hcounted (hrelists.imp relist)
    · refine (r.ensures_rowCount_known hknown).imp (fun _ s₃ hsame => ?_)
        fun _ _ hfalse => hfalse.elim
      rw [hsame]
      exact asked_page hlisted hcounted (.refl _ _)
  · exact (r.ensures_rowCount_asked s₁).imp (fun _ _ h => asked_page hlisted h.2 (.refl _ _))
      fun _ _ hrefused => asked_page hlisted hrefused (.refl _ _)

/-- An operation asks what it may ask, whether it succeeds or fails. -/
theorem asked_sessionAfter (r : Report σ) (op : Operation) (s : Session σ) :
    r.Asked op s (sessionAfter (r.perform op s)) := by
  have step : Ensures (r.perform op) s (fun _ s' => r.Asked op s s')
      fun _ s' => r.Asked op s s' := by
    cases op with
    | rowCount =>
      refine ensures_map.2 ((r.ensures_rowCount_asked s).imp (fun _ _ h => ?_) fun _ _ h => ?_)
      · obtain ⟨call, hcalls, hcall⟩ := h.2
        exact ⟨_, hcalls, .rowCount hcall⟩
      · obtain ⟨call, hcalls, hcall⟩ := h
        exact ⟨_, hcalls, .rowCount hcall⟩
    | fetchPage asked =>
      refine ensures_map.2 ((r.ensures_fetchPage_asked asked s).imp (fun _ _ h => ?_)
        fun _ _ h => ?_)
      · obtain ⟨call, hcalls, hcall⟩ := h.1
        exact ⟨_, hcalls, .fetchPage hcall⟩
      · obtain ⟨call, hcalls, hcall⟩ := h
        exact ⟨_, hcalls, .fetchPage hcall⟩
    | page asked => exact ensures_map.2 (r.ensures_page_asked asked s)
  have houtcome := step.outcome
  cases hresult : r.perform op s with
  | ok _ s' => rw [hresult] at houtcome; exact houtcome
  | error _ s' => rw [hresult] at houtcome; exact houtcome

/-! ### Histories -/

/-- The session after a history. -/
def after (r : Report σ) (ops : List Operation) (s : Session σ) : Session σ :=
  ops.foldl (fun s op => sessionAfter (r.perform op s)) s

/-- A history asks what each of its operations may ask, one after another. -/
theorem exists_asked_after (r : Report σ) (ops : List Operation) (s : Session σ) :
    ∃ asked : List (List Call), (r.after ops s).calls = s.calls ++ asked.flatten ∧
      List.Forall₂ (r.definition.Permits r.filter) ops asked := by
  induction ops generalizing s with
  | nil => exact ⟨[], by simp [after], .nil⟩
  | cons op ops ih =>
    obtain ⟨calls, hcalls, hpermits⟩ := r.asked_sessionAfter op s
    obtain ⟨asked, hasked, hall⟩ := ih (sessionAfter (r.perform op s))
    refine ⟨calls :: asked, ?_, .cons hpermits hall⟩
    rw [List.flatten_cons, ← List.append_assoc, ← hcalls, ← hasked]
    rfl

end Report

/-! ### Pagings that ask alike -/

/-- Two pagings ask for the same page of the same order: they sort by the same column in the same
direction, or by no column. -/
structure Definition.Alike (d : Definition) (p q : Paging) : Prop where
  /-- They name the same page. -/
  page : p.page = q.page
  /-- They name the same page size. -/
  perPage : p.perPage = q.perPage
  /-- They select the same column with the same direction, or none with whatever direction. -/
  sort : (∃ c, d.column? p = some c ∧ d.column? q = some c ∧ p.direction = q.direction) ∨
    (d.column? p = none ∧ d.column? q = none)

/-- Two operations differ in nothing but how their pagings are put. -/
inductive Operation.Alike (d : Definition) : Operation → Operation → Prop where
  /-- Counting needs no paging. -/
  | rowCount : Operation.Alike d .rowCount .rowCount
  /-- The rows of the same page are fetched. -/
  | fetchPage {p q : Paging} (h : d.Alike p q) : Operation.Alike d (.fetchPage p) (.fetchPage q)
  /-- The same page is made. -/
  | page {p q : Paging} (h : d.Alike p q) : Operation.Alike d (.page p) (.page q)

namespace Report

variable {r : Report σ} {p q : Paging}

theorem column?_sanitize (r : Report σ) (p : Paging) :
    r.definition.column? (r.sanitize p) = r.definition.column? p :=
  r.sortableColumn?_sanitize p

theorem Alike.sanitize (h : r.definition.Alike p q) :
    r.definition.Alike (r.sanitize p) (r.sanitize q) := by
  refine ⟨h.page, congrArg atLeastOne h.perPage, ?_⟩
  rw [column?_sanitize, column?_sanitize]
  exact h.sort

theorem Alike.atPage (h : r.definition.Alike p q) (page : UInt64) :
    r.definition.Alike (p.atPage page) (q.atPage page) := ⟨rfl, h.perPage, h.sort⟩

theorem listing_eq_of_alike (h : r.definition.Alike p q) : r.listing p = r.listing q := by
  have horder : r.order p = r.order q := by
    unfold order
    rcases h.sort with ⟨c, hp, hq, hdirection⟩ | ⟨hp, hq⟩
    · rw [Definition.column?] at hp hq
      rw [hp, hq, hdirection]
    · rw [Definition.column?] at hp hq
      rw [hp, hq]
  rw [listing, horder, listing]

theorem fetchPage_eq_of_alike (h : r.definition.Alike p q) : r.fetchPage p = r.fetchPage q := by
  have hlisting : r.listing (r.sanitize p) = r.listing (r.sanitize q) := by
    rw [listing_sanitize, listing_sanitize, listing_eq_of_alike h]
  have hsize : (r.sanitize p).perPage = (r.sanitize q).perPage := congrArg atLeastOne h.perPage
  have hoffset : (r.sanitize p).offset? = (r.sanitize q).offset? := by
    rw [Paging.offset?, Paging.offset?, hsize, sanitize_page, sanitize_page, h.page]
  have himplied : impliedTotal? (r.sanitize p) = impliedTotal? (r.sanitize q) := by
    funext offset fetched
    rw [impliedTotal?, impliedTotal?, hsize, sanitize_page, sanitize_page, h.page]
  simp only [fetchPage, hlisting, hoffset, hsize, himplied]

/-- Pages that are asked for alike are made by the same steps. -/
theorem page_eq_of_alike (h : r.definition.Alike p q) :
    (fun _ => ()) <$> r.page p = (fun _ => ()) <$> r.page q := by
  have hs := Alike.sanitize h
  have hfetch := fetchPage_eq_of_alike hs
  have hrefetch := fun page => fetchPage_eq_of_alike (Alike.atPage hs page)
  simp only [page, map_bind, hfetch, hs.page, hs.perPage]
  congr 1
  funext rows
  split
  · simp only [map_bind]
    congr 1
    funext n
    split
    · simp only [map_bind, hrefetch, map_pure]
    · simp only [map_bind, map_pure]
  · simp only [map_bind, map_pure]

theorem sessionAfter_map {α β : Type} (g : α → β) (x : Step σ α) (s : Session σ) :
    sessionAfter ((g <$> x) s) = sessionAfter (x s) := by
  simp only [Functor.map, EStateM.map]
  cases x s <;> rfl

theorem sessionAfter_eq_of_alike {op op' : Operation} (h : Operation.Alike r.definition op op')
    (s : Session σ) : sessionAfter (r.perform op s) = sessionAfter (r.perform op' s) := by
  cases h with
  | rowCount => rfl
  | fetchPage h => rw [perform, perform, fetchPage_eq_of_alike h]
  | @page p q h =>
    have hforget : ∀ p, sessionAfter (r.page p s) =
        sessionAfter (((fun _ => ()) <$> r.page p) s) := fun _ => (sessionAfter_map _ _ s).symm
    rw [perform, perform, sessionAfter_map, sessionAfter_map, hforget, hforget, page_eq_of_alike h]

/-- Histories that differ in nothing but how their pagings are put leave the same session, so that
the same questions were asked, and nothing else was learned. -/
theorem after_eq_of_alike {ops ops' : List Operation}
    (h : List.Forall₂ (Operation.Alike r.definition) ops ops') (s : Session σ) :
    r.after ops s = r.after ops' s := by
  induction h generalizing s with
  | nil => rfl
  | cons hop _ ih =>
    simp only [after, List.foldl_cons] at ih ⊢
    rw [sessionAfter_eq_of_alike hop]
    exact ih _

end Report

/-- **What a request says never becomes part of a query.** Whatever is asked of a report that an
actor may view, in whatever order, with whatever pagings and whatever the store answers: each
operation puts only the questions that it may put, in the texts of the definition and with the
parameters that the filter had when the report was opened. Histories whose pagings select the same
columns cannot be told apart by the store. -/
theorem questions_of_definition {d : Definition} {actor : Actor} (settings : Settings) (now : Int64)
    (hview : d.canView actor = true) (store : Store σ) (state : σ) :
    ∃ r, Report.openFor d actor settings now store = .ok r ∧
      (∀ ops, ∃ asked : List (List Call),
        (r.after ops (Session.start state)).calls = asked.flatten ∧
          List.Forall₂ (d.Permits (d.filter.resolve actor now)) ops asked) ∧
      ∀ ops ops', List.Forall₂ (Operation.Alike d) ops ops' →
        r.after ops (Session.start state) = r.after ops' (Session.start state) := by
  refine ⟨⟨d, d.filter.resolve actor now, Formatter.ofSettings settings, store⟩, if_pos hview,
    fun ops => ?_, fun ops ops' halike => ?_⟩
  · obtain ⟨asked, hcalls, hpermits⟩ := Report.exists_asked_after
      ⟨d, d.filter.resolve actor now, Formatter.ofSettings settings, store⟩ ops
      (Session.start state)
    exact ⟨asked, hcalls, hpermits⟩
  · exact Report.after_eq_of_alike halike _

/-- A sort key that is no column's asks for what no sort key asks for. -/
theorem questions_of_hostile_key :
    Catalogue.unapproved.canView ⟨1, "ada", "Ada", true, []⟩ = true ∧
      List.Forall₂ (Operation.Alike Catalogue.unapproved)
        [.rowCount, .page ⟨9, 0, some "1; DROP TABLE users", .descending⟩]
        [.rowCount, .page ⟨9, 0, none, .ascending⟩] ∧
      ∃ r, Report.openFor Catalogue.unapproved ⟨1, "ada", "Ada", true, []⟩
          (Settings.defaults "") 0 Database.empty.store = .ok r ∧
        (∃ asked : List (List Call),
          (r.after [.rowCount, .page ⟨9, 0, some "1; DROP TABLE users", .descending⟩]
            (Session.start ())).calls = asked.flatten ∧
          List.Forall₂ (Catalogue.unapproved.Permits ⟨some (againstParameter
              (.column ⟨"p", "approved"⟩) .equal), [.integer (-1)]⟩)
            [.rowCount, .page ⟨9, 0, some "1; DROP TABLE users", .descending⟩] asked) ∧
        r.after [.rowCount, .page ⟨9, 0, some "1; DROP TABLE users", .descending⟩]
            (Session.start ()) =
          r.after [.rowCount, .page ⟨9, 0, none, .ascending⟩] (Session.start ()) := by
  have hview : Catalogue.unapproved.canView ⟨1, "ada", "Ada", true, []⟩ = true := rfl
  have halike : Catalogue.unapproved.Alike ⟨9, 0, some "1; DROP TABLE users", .descending⟩
      ⟨9, 0, none, .ascending⟩ := ⟨rfl, rfl, .inr ⟨by decide, rfl⟩⟩
  have hall : List.Forall₂ (Operation.Alike Catalogue.unapproved)
      [.rowCount, .page ⟨9, 0, some "1; DROP TABLE users", .descending⟩]
      [.rowCount, .page ⟨9, 0, none, .ascending⟩] := .cons .rowCount (.cons (.page halike) .nil)
  obtain ⟨r, hopen, hasked, hsame⟩ := questions_of_definition (Settings.defaults "") 0 hview
    Database.empty.store ()
  exact ⟨hview, hall, r, hopen, hasked _, hsame _ _ hall⟩

end PagedReports
