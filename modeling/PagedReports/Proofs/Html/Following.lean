import PagedReports.Proofs.Html.ReportLinks
import PagedReports.Proofs.Report.Access
import PagedReports.Proofs.Report.ExactPaging
import PagedReports.Proofs.Request.RoundTrip

/-!
# Following links

A link in the page of a report is followed by reading its reference as text and what stands after
the question mark as a query (`Link.request?`). Every link in the navigation and in the head of the
table then asks for the page that its label promises (`links_of_dispatch`), and over a store that
answers from fixed lists a link of the navigation shows exactly that page.

What makes the links safe to follow is that the paging of a page was cleaned when the page was made
(`View.Navigable`): its size is one that requests may ask for, and its sort key is that of a column.
Only a direction without a sort key is not carried by links (`Paging.carried`).
-/

namespace PagedReports

open Text Html Sql

/-! ### Where a link leads -/

/-- The request that a link makes: what its reference says after a question mark. -/
def Html.Link.request? (l : Link) : Option Request :=
  match (unescape l.href).toList with
  | '?' :: query => some (.ofQuery (.ofList query))
  | _ => none

/-- A link leads to a page of a report, whatever size pages have by default. -/
def Html.Link.LeadsTo (l : Link) (report : String) (target : Paging) : Prop :=
  ∃ request, l.request? = some request ∧ request.report = some report ∧
    ∀ defaultPerPage, request.paging defaultPerPage = target

theorem request?_queryLink (query label : String) :
    (queryLink query label).request? = some (.ofQuery query) := by
  have hchars : ("?" ++ query).toList = '?' :: query.toList := by simp
  rw [Html.Link.request?, queryLink, unescape_escape, hchars]
  simp only [String.ofList_toList]

/-- The characters of a report's name are small letters, digits and low lines. -/
theorem toNat_of_isReportName {name : String} (h : isReportName name = true) :
    ∀ c ∈ name.toList,
      (97 ≤ c.toNat ∧ c.toNat ≤ 122) ∨ (48 ≤ c.toNat ∧ c.toNat ≤ 57) ∨ c.toNat = 95 := by
  intro c hc
  simp only [isReportName, Bool.and_eq_true, List.all_eq_true, Bool.or_eq_true, decide_eq_true_eq,
    beq_iff_eq] at h
  rcases h.2 c hc with (hletter | hdigit) | rfl
  · exact .inl hletter
  · exact .inr (.inl hdigit)
  · exact .inr (.inr rfl)

/-- The name of a report is taken as it is. -/
theorem nonBlank?_of_isReportName {name : String} (h : isReportName name = true) :
    nonBlank? name = some name := by
  have hne : name ≠ "" := by
    rintro rfl
    cases h
  refine nonBlank?_eq_self hne (trim_eq_self fun c hc => ?_)
  have hrange := toNat_of_isReportName h c hc
  simp only [isBlankChar, Bool.or_eq_false_iff, Bool.and_eq_false_iff, decide_eq_false_iff_not,
    beq_eq_false_iff_ne]
  omega

/-- A link to a page that can be requested leads there. -/
theorem leadsTo_queryLink {report : String} (hname : isReportName report = true) {p : Paging}
    (hp : p.Requestable) (label : String) :
    (queryLink (pagingQuery report p) label).LeadsTo report p := by
  refine ⟨_, request?_queryLink _ _, ?_, hp.paging_ofQuery report⟩
  rw [ofQuery_pagingQuery]
  exact nonBlank?_of_isReportName hname

/-- What links carry of a paging: all but a direction without a sort key. -/
def Paging.carried (p : Paging) : Paging :=
  { p with direction := if p.sortKey = none then .ascending else p.direction }

theorem pagingQuery_carried (report : String) (p : Paging) (page : UInt64) :
    pagingQuery report (p.carried.atPage page) = pagingQuery report (p.atPage page) := by
  obtain ⟨-, perPage, sortKey, direction⟩ := p
  cases sortKey <;> rfl

/-! ### The links of a page -/

/-- The pages that the links of the bar lead to. -/
def View.barPages (v : View) : List UInt64 :=
  (shownItems v.page.paging v.page.total).filterMap BarItem.page?

/-- All links in the navigation and in the head of the table lead where they say. -/
structure View.LinksLead (v : View) : Prop where
  /-- The links in the navigation lead to the pages of their labels, and carry the paging. -/
  bars : List.Forall₂ (fun page link => Shows v.page.paging.page link.label page ∧
      link.LeadsTo v.descriptor.name (v.page.paging.carried.atPage page))
    (v.barPages ++ v.barPages) (linksIn "nav" (renderReport v))
  /-- The links in the head lead to the first page, sorted by their column: in the other direction
  if rows are sorted by it already. -/
  heads : List.Forall₂ (fun c link => link.label = escape c.label ∧
      link.LeadsTo v.descriptor.name ⟨0, v.page.paging.perPage, some c.key,
        if v.page.paging.sortKey = some c.key then v.page.paging.direction.toggled
        else .ascending⟩)
    (v.columns.filter Column.isSortable) (linksIn "thead" (renderReport v))

/-- A page whose links can be followed. -/
structure View.Navigable (v : View) : Prop where
  /-- The report has a name that requests can use. -/
  named : isReportName v.descriptor.name = true
  /-- The page has a place for a row. -/
  one_le_perPage : 1 ≤ v.page.paging.perPage
  /-- It does not have more places than a request may ask for. -/
  perPage_le : v.page.paging.perPage ≤ 1000
  /-- Its sort key is that of a column. -/
  sorted : ∀ key, v.page.paging.sortKey = some key → ∃ c ∈ v.columns, c.key = key
  /-- The keys of its columns are something, without blank characters at their ends. -/
  keys : ∀ c ∈ v.columns, c.key ≠ "" ∧ trim c.key = c.key

theorem forall₂_filterMap_map {α β γ : Type} {R : β → γ → Prop} {f : α → Option β}
    {g : α → β → γ} {xs : List α} (h : ∀ x ∈ xs, ∀ y, f x = some y → R y (g x y)) :
    List.Forall₂ R (xs.filterMap f) (xs.filterMap fun x => (f x).map (g x)) := by
  induction xs with
  | nil => exact .nil
  | cons x xs ih =>
    have hrest := ih fun y hy => h y (List.mem_cons_of_mem x hy)
    cases hx : f x with
    | none => simpa only [List.filterMap_cons, hx, Option.map_none] using hrest
    | some y =>
      simpa only [List.filterMap_cons, hx, Option.map_some] using
        List.Forall₂.cons (h x List.mem_cons_self y hx) hrest

namespace View.Navigable

variable {v : View}

theorem requestable_carried (h : v.Navigable) (page : UInt64) :
    (v.page.paging.carried.atPage page).Requestable := by
  refine ⟨h.one_le_perPage, h.perPage_le, ?_⟩
  cases hkey : v.page.paging.sortKey with
  | none => exact .inl ⟨hkey, if_pos hkey⟩
  | some key =>
    obtain ⟨c, hc, rfl⟩ := h.sorted key hkey
    exact .inr ⟨c.key, hkey, h.keys c hc⟩

theorem leadsTo_pageLink (h : v.Navigable) (page : UInt64) (label : String) :
    (queryLink (pagingQuery v.descriptor.name (v.page.paging.atPage page)) label).LeadsTo
      v.descriptor.name (v.page.paging.carried.atPage page) := by
  rw [← pagingQuery_carried]
  exact leadsTo_queryLink h.named (h.requestable_carried page) label

theorem linksLead (h : v.Navigable) : v.LinksLead := by
  constructor
  · have hbar : List.Forall₂ (fun page link => Shows v.page.paging.page link.label page ∧
          link.LeadsTo v.descriptor.name (v.page.paging.carried.atPage page)) v.barPages
        ((shownItems v.page.paging v.page.total).filterMap
          (BarItem.link? v.descriptor.name v.page.paging)) := by
      refine forall₂_filterMap_map fun item hitem page hpage => ?_
      exact ⟨(shows_of_mem_shownItems hitem hpage).1, h.leadsTo_pageLink page item.label⟩
    rw [linksIn_nav_renderReport]
    exact List.rel_append hbar hbar
  · rw [linksIn_thead_renderReport, List.forall₂_map_right_iff, List.forall₂_same]
    intro c hc
    have hkey := h.keys c (List.mem_of_mem_filter hc)
    have htarget : (headTarget v.page.paging c.key).Requestable :=
      ⟨h.one_le_perPage, h.perPage_le, .inr ⟨c.key, rfl, hkey⟩⟩
    have hlead := leadsTo_queryLink h.named htarget (escape c.label)
    exact ⟨rfl, hlead⟩

end View.Navigable

/-! ### Pages that answer requests -/

variable {σ : Type}

section Dispatch

variable {registry : Registry} {actor : Actor} {settings : Settings} {now : Int64}
  {store : Store σ} {request : Request}

/-- A page that answers a request is one of a report which the request names and which opens. -/
theorem dispatch_eq_view {s s' : Session σ} {v : View}
    (h : dispatch registry actor settings now store request s = .ok (.view v) s') :
    ∃ d r, registry.requested? request = some d ∧
      Report.openFor d actor settings now store = .ok r ∧
      v.descriptor = d.descriptor actor ∧ v.columns = d.columns ∧
      r.page (request.paging settings.perPage) s = .ok v.page s' := by
  unfold dispatch at h
  cases hrequested : registry.requested? request with
  | none => rw [hrequested] at h; cases h
  | some d =>
    rw [hrequested] at h
    cases hopen : Report.openFor d actor settings now store with
    | error e => simp only [hopen] at h; cases h
    | ok r =>
      simp only [hopen, bind, EStateM.bind] at h
      cases hpage : r.page (request.paging settings.perPage) s with
      | error e s'' => rw [hpage] at h; cases h
      | ok p s'' =>
        rw [hpage] at h
        cases h
        exact ⟨d, r, rfl, hopen, rfl, rfl, hpage⟩

end Dispatch

namespace Report

theorem eq_of_openFor {d : Definition} {actor : Actor} {settings : Settings} {now : Int64}
    {store : Store σ} {r : Report σ} (h : openFor d actor settings now store = .ok r) :
    r = ⟨d, d.filter.resolve actor now, Formatter.ofSettings settings, store⟩ := by
  unfold openFor at h
  split at h
  · cases h
    rfl
  · cases h

/-- A paging that sanitizing keeps is carried as one that it keeps. -/
theorem sanitize_carried {r : Report σ} {p : Paging} (h : r.sanitize p = p) (page : UInt64) :
    r.sanitize (p.carried.atPage page) = p.carried.atPage page := by
  have hsize := congrArg Paging.perPage h
  have hkey := congrArg Paging.sortKey h
  simp only [sanitize] at hsize hkey
  simp [sanitize, Paging.carried, Paging.atPage, hsize, hkey]

/-- A direction without a sort key does not matter. -/
theorem listing_carried (r : Report σ) (p : Paging) (page : UInt64) :
    r.listing (p.carried.atPage page) = r.listing p := by
  obtain ⟨-, perPage, sortKey, direction⟩ := p
  cases sortKey <;> rfl

end Report

/-- A page that answers a request to a well-named registry has links that can be followed, if the
keys of its columns are plain. -/
theorem navigable_of_dispatch {registry : Registry} (hregistry : registry.WellNamed)
    {actor : Actor} {settings : Settings} {now : Int64} {store : Store σ} {request : Request}
    {s s' : Session σ} {v : View}
    (h : dispatch registry actor settings now store request s = .ok (.view v) s')
    (hkeys : ∀ c ∈ v.columns, c.key ≠ "" ∧ trim c.key = c.key) : v.Navigable := by
  obtain ⟨d, r, hrequested, hopen, hdescriptor, hcolumns, hpage⟩ := dispatch_eq_view h
  have hdefinition : r.definition = d := by rw [Report.eq_of_openFor hopen]
  have houtcome := (r.ensures_page_shape (request.paging settings.perPage) s).outcome
  rw [hpage] at houtcome
  obtain ⟨page, hpaging⟩ := houtcome.1
  have hsize : v.page.paging.perPage =
      Request.clampPerPage (request.perPage.getD settings.perPage) := by
    rw [hpaging]
    exact Request.atLeastOne_clampPerPage _
  refine ⟨?_, ?_, ?_, fun key hkey => ?_, hkeys⟩
  · rw [hdescriptor]
    exact hregistry.named d (hregistry.requested?_eq_some_iff.1 hrequested).1
  · exact hsize ▸ Request.one_le_clampPerPage _
  · exact hsize ▸ Request.clampPerPage_le _
  · -- A sort key that was kept is the key of a sortable column.
    rw [hpaging] at hkey
    obtain ⟨-, hkept⟩ := Option.filter_eq_some_iff.1 hkey
    obtain ⟨c, hc⟩ := Option.isSome_iff_exists.1 hkept
    have hfound : c.key = key ∧ c.isSortable = true := by simpa using List.find?_some hc
    refine ⟨c, ?_, hfound.1⟩
    rw [hcolumns, ← hdefinition]
    exact List.mem_of_find?_eq_some hc

/-! ### Turning pages -/

/-- `v'` is a page of the rows that `v` is a page of, in the same order, from fixed lists. -/
structure View.TurnsTo (v v' : View) (page : UInt64) (r : Report σ)
    (rowsOf : Listing → List Record) : Prop where
  /-- It is a page of the same report. -/
  descriptor : v'.descriptor = v.descriptor
  /-- It has the same columns. -/
  columns : v'.columns = v.columns
  /-- There are as many rows. -/
  total : v'.page.total = v.page.total
  /-- Its paging is what the link carries. -/
  paging : v'.page.paging = v.page.paging.carried.atPage page
  /-- Its rows are the slice of that page, from the list that `v` is a page of. -/
  rows : r.Transforms ((v.page.paging.atPage page).slice (rowsOf (r.listing v.page.paging)))
    v'.page.rows

/-- An exact page leads to the exact page at any page up to the last one. -/
theorem Report.Backed.page_carried {r : Report σ} {rowsOf : Listing → List Record} {n : UInt64}
    (h : r.Backed rowsOf n) {asked : Paging} {p : Page} (hp : r.ExactPage rowsOf n asked p)
    {page : UInt64} (hle : page.toNat ≤ max p.paging.page.toNat
      (lastPage p.total p.paging.perPage).toNat) (state : σ) :
    Ensures (r.page (p.paging.carried.atPage page)) (Session.start state)
      (fun p' _ => p'.total = p.total ∧ p'.paging = p.paging.carried.atPage page ∧
        r.Transforms ((p.paging.atPage page).slice (rowsOf (r.listing p.paging))) p'.rows)
      r.FailsWith := by
  have hclean : r.sanitize p.paging = p.paging := by
    rw [hp.paging, sanitize_atPage, sanitize_sanitize]
  -- The page itself is not after the last one, so neither is one that it shows a link to.
  have hlast : page ≤ lastPage n p.paging.perPage := by
    have hcurrent : p.paging.page ≤ lastPage n p.paging.perPage := by
      rw [hp.paging]
      change min asked.page (lastPage n asked.perPage) ≤ lastPage n (atLeastOne asked.perPage)
      rw [lastPage_atLeastOne]
      exact Std.min_le_right
    rw [hp.total] at hle
    rw [UInt64.le_iff_toNat_le] at hcurrent ⊢
    omega
  refine (h.page (Session.knows_start n state) _).imp (fun p' _ hp' => ?_) fun _ _ he => he.1
  obtain ⟨htotal, hpaging, hrows, -⟩ := hp'.1
  have htarget : p'.paging = p.paging.carried.atPage page := by
    rw [hpaging, sanitize_carried hclean]
    have hmin : min page (lastPage n p.paging.perPage) = page := if_pos hlast
    exact congrArg (p.paging.carried.atPage ·) hmin
  refine ⟨htotal.trans hp.total.symm, htarget, ?_⟩
  rw [htarget, listing_carried] at hrows
  exact hrows

/-- The links in the navigation of a page of a report turn pages: over a store that answers the
report from fixed lists, each shows the page of its label, unless the store refuses a question or
the report a record. -/
def View.BarTurns (v : View) (registry : Registry) (actor : Actor) (settings : Settings)
    (now : Int64) (r : Report σ) : Prop :=
  ∀ rowsOf n, r.Backed rowsOf n → ∀ link ∈ linksIn "nav" (renderReport v),
    ∃ page request, Shows v.page.paging.page link.label page ∧ link.request? = some request ∧
      ∀ state, Ensures (dispatch registry actor settings now r.store request) (.start state)
        (fun answer _ => ∃ v', answer = .view v' ∧ v.TurnsTo v' page r rowsOf) r.FailsWith

theorem barTurns_of_dispatch {registry : Registry} (hregistry : registry.WellNamed)
    {actor : Actor} {settings : Settings} {now : Int64} {store : Store σ} {request : Request}
    {state : σ} {s : Session σ} {v : View}
    (hview : dispatch registry actor settings now store request (.start state) = .ok (.view v) s)
    (hv : v.Navigable) :
    ∃ d r, d ∈ registry.entries ∧ d.name = v.descriptor.name ∧
      Report.openFor d actor settings now store = .ok r ∧
      v.BarTurns registry actor settings now r := by
  obtain ⟨d, r, hrequested, hopen, hdescriptor, hcolumns, hpage⟩ := dispatch_eq_view hview
  obtain ⟨hd, -⟩ := hregistry.requested?_eq_some_iff.1 hrequested
  have hname : v.descriptor.name = d.name := by rw [hdescriptor]; rfl
  refine ⟨d, r, hd, hname.symm, hopen, fun rowsOf n hbacked link hlink => ?_⟩
  have hexact := (hbacked.page (Session.knows_start n state)
    (request.paging settings.perPage)).outcome
  rw [hpage] at hexact
  rw [linksIn_nav_renderReport, List.mem_append, or_self] at hlink
  obtain ⟨item, hitem, hitemLink⟩ := List.mem_filterMap.1 hlink
  obtain ⟨page, hitemPage, rfl⟩ := Option.map_eq_some_iff.1 hitemLink
  obtain ⟨hshows, hle⟩ := shows_of_mem_shownItems hitem hitemPage
  obtain ⟨asked, hasked, hreport, hpaging⟩ := hv.leadsTo_pageLink page item.label
  have hagain : registry.requested? asked = some d := by
    refine hregistry.requested?_eq_some_iff.2 ⟨hd, ?_⟩
    rw [Request.reportName?, hreport, ← hname]
    exact nonBlank?_of_isReportName hv.named
  have hreopen : Report.openFor d actor settings now r.store = .ok r := by
    rw [← hopen, Report.eq_of_openFor hopen]
  refine ⟨page, asked, hshows, hasked, fun state' => ensures_dispatch hagain hreopen ?_⟩
  rw [hpaging]
  refine (hbacked.page_carried hexact.1 hle state').imp (fun p' _ hp' => ?_) fun _ _ he => he
  obtain ⟨htotal, hpaging', hrows⟩ := hp'
  exact ⟨_, rfl, hdescriptor.symm, hcolumns.symm, htotal, hpaging', hrows⟩

/-- The keys of the columns of the directory's reports are plain. -/
theorem Catalogue.keys_of_mem_all :
    ∀ d ∈ all, ∀ c ∈ d.columns, c.key ≠ "" ∧ trim c.key = c.key := by
  decide +kernel

/-- **Every link of a page leads where it says.** Take any page with which a registry that comes of
registrations answers a request, of a report whose column keys are something and have no blank
characters at their ends, as those of the directory's reports are. In the written page, every link
in the navigation leads to the page of its label, with the same size and sort, and every link in the
head to the first page sorted by its column. Over a store that answers from fixed lists, following a
link in the navigation shows exactly its page of the same ordering. -/
theorem links_of_dispatch {base : Registry} (hbase : base = .empty ∨ base = .builtin)
    {ds : List Definition} {actor : Actor} {settings : Settings} {now : Int64} {store : Store σ}
    {request : Request} {state : σ} {s : Session σ} {v : View}
    (hview : dispatch (base.registerAll ds) actor settings now store request (.start state) =
      .ok (.view v) s)
    (hkeys : ∀ d ∈ ds, d.columns = v.columns →
      ∀ c ∈ d.columns, c.key ≠ "" ∧ trim c.key = c.key) :
    v.LinksLead ∧
      ∃ d r, d ∈ (base.registerAll ds).entries ∧ d.name = v.descriptor.name ∧
        Report.openFor d actor settings now store = .ok r ∧
        v.BarTurns (base.registerAll ds) actor settings now r := by
  have hregistry := Registry.wellNamed_registerAll hbase ds
  have hbaseKeys : ∀ d ∈ base.entries, d.columns = v.columns →
      ∀ c ∈ d.columns, c.key ≠ "" ∧ trim c.key = c.key := by
    rcases hbase with rfl | rfl
    · exact fun d hd => by cases hd
    · exact fun d hd _ => Catalogue.keys_of_mem_all d hd
  obtain ⟨d, r, hrequested, -, -, hcolumns, -⟩ := dispatch_eq_view hview
  obtain ⟨hd, -⟩ := hregistry.requested?_eq_some_iff.1 hrequested
  have hplain := Registry.forall_entries_registerAll hbaseKeys hkeys d hd hcolumns.symm
  rw [← hcolumns] at hplain
  have hnavigable := navigable_of_dispatch hregistry hview hplain
  exact ⟨hnavigable.linksLead, barTurns_of_dispatch hregistry hview hnavigable⟩

/-- The downloads under another name, with a column whose key has signs of markup and of queries. -/
def Catalogue.oddTotals : Definition :=
  { downloads with
    name := "totals"
    columns := ⟨"a&b=<\"+'%>", "Odd & ends", [out "p" "id"]⟩ :: downloads.columns }

/-- A store of three records, which it gives as asked. -/
def steadyStore : Store Unit where
  count := fun _ _ s => (.ok 3, s)
  select := fun _ _ offset limit s =>
    (.ok ((threeRecords.drop offset.toNat).take limit.toNat), s)

theorem backed_steadyStore {r : Report Unit} (h : r.store = steadyStore) :
    r.Backed (fun _ => threeRecords) 3 := by
  refine ⟨by decide, fun _ => rfl, fun s m hm => ?_, fun p offset limit s records hm => ?_⟩
  · rw [h] at hm
    cases hm
    rfl
  · rw [h] at hm
    cases hm
    refine ⟨List.take_prefix _ _, ?_⟩
    rw [List.length_take, List.length_drop]
    exact Nat.le_refl _

theorem not_refused_steadyStore (e : ReportError) (s : Session Unit) :
    ¬steadyStore.Refused e s := by
  rintro (⟨-, hanswer⟩ | ⟨-, hanswer⟩) <;> cases hanswer

/-- The directory's reports and the odd one. -/
def oddRegistry : Registry := Registry.builtin.registerAll [Catalogue.oddTotals]

/-- The second of three pages, sorted by the odd column. -/
def oddRequest : Request :=
  ⟨some "totals", some 1, some 1, some "a&b=<\"+'%>", some "desc"⟩

/-- Someone who may view the odd report. -/
def oddViewer : Actor := ⟨1, "ada", "Ada", false, [viewReports]⟩

theorem requested?_oddRequest : oddRegistry.requested? oddRequest = some Catalogue.oddTotals := by
  have hnew : Registry.builtin.obstacle? Catalogue.oddTotals = none := by decide +kernel
  refine (Registry.wellNamed_builtin.registerAll _).requested?_eq_some_iff.2 ⟨?_, by decide⟩
  simp only [Registry.registerAll, List.foldl_cons, List.foldl_nil, Registry.register, hnew]
  exact List.mem_append_right _ List.mem_cons_self

theorem barPages_oddRequest {v : View} {s : Session Unit}
    (h : dispatch oddRegistry oddViewer (Settings.defaults "") 0 steadyStore oddRequest
      (.start ()) = .ok (.view v) s) : v.barPages = [0, 0, 2, 2] := by
  obtain ⟨d, r, hrequested, hopen, -, -, hpage⟩ := dispatch_eq_view h
  rw [requested?_oddRequest] at hrequested
  cases hrequested
  have hr := Report.eq_of_openFor hopen
  have hstore : r.store = steadyStore := by rw [hr]
  have hexact := ((backed_steadyStore hstore).page (Session.knows_start 3 ())
    (oddRequest.paging (Settings.defaults "").perPage)).outcome
  rw [hpage] at hexact
  obtain ⟨htotal, hpaging, -, -⟩ := hexact.1
  rw [View.barPages, htotal, hpaging, hr]
  decide +kernel

/-- Links with a sort key that is escaped in three ways, to the pages around the second of three. -/
theorem links_of_oddTotals :
    (Registry.builtin = .empty ∨ Registry.builtin = .builtin) ∧
      ∃ v s, dispatch oddRegistry oddViewer (Settings.defaults "") 0 steadyStore oddRequest
            (.start ()) = .ok (.view v) s ∧
        (∀ d ∈ [Catalogue.oddTotals], d.columns = v.columns →
          ∀ c ∈ d.columns, c.key ≠ "" ∧ trim c.key = c.key) ∧
        v.barPages = [0, 0, 2, 2] ∧ v.LinksLead ∧
        ∃ d r, d ∈ oddRegistry.entries ∧ d.name = v.descriptor.name ∧
          Report.openFor d oddViewer (Settings.defaults "") 0 steadyStore = .ok r ∧
          r.Backed (fun _ => threeRecords) 3 ∧
          v.BarTurns oddRegistry oddViewer (Settings.defaults "") 0 r := by
  have hbase : Registry.builtin = .empty ∨ Registry.builtin = .builtin := .inr rfl
  have hpresents : Catalogue.oddTotals.Presents := fun _ _ _ => ⟨_, rfl⟩
  have hcanView : Catalogue.oddTotals.canView oddViewer = true := rfl
  have hplain : ∀ d ∈ [Catalogue.oddTotals], ∀ c ∈ d.columns, c.key ≠ "" ∧ trim c.key = c.key := by
    decide +kernel
  have hshown : Ensures (dispatch oddRegistry oddViewer (Settings.defaults "") 0 steadyStore
      oddRequest) (.start ()) _ steadyStore.Refused :=
    dispatch_of_canView requested?_oddRequest hcanView hpresents (writesDates_defaults "") _ _
  obtain ⟨answer, s, hview, v, rfl, -⟩ := hshown.exists_eq_ok not_refused_steadyStore
  have hkeys : ∀ d ∈ [Catalogue.oddTotals], d.columns = v.columns →
      ∀ c ∈ d.columns, c.key ≠ "" ∧ trim c.key = c.key := fun d hd _ => hplain d hd
  obtain ⟨hlead, d, r, hd, hname, hopen, hturns⟩ := links_of_dispatch hbase hview hkeys
  have hstore : r.store = steadyStore := by rw [Report.eq_of_openFor hopen]
  exact ⟨hbase, v, s, hview, hkeys, barPages_oddRequest hview, hlead, d, r, hd, hname, hopen,
    backed_steadyStore hstore, hturns⟩

end PagedReports
