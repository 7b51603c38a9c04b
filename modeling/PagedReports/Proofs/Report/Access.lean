import PagedReports.Proofs.Report.Presenting
import PagedReports.Proofs.Report.Registration
import PagedReports.Proofs.Report.Steps

/-!
# Access to reports

What a request gets depends on the store only if it names a registered report that the actor may
view. A request that names no report gets the reports that the actor may view, and one that names
another report is refused; in both cases the store is not asked, so that nothing of its data shows
(`guards_registerAll`). A page that is shown has between one and `maxPerPage` places, and no more
rows than places, whatever the store delivers.
-/

namespace PagedReports

open Sql

variable {σ : Type}

/-! ### Page sizes -/

namespace Report

/-- Whatever the store delivers, there are no more rows than a page has places. -/
theorem ensures_fetchPage_length (r : Report σ) (asked : Paging) (s : Session σ) :
    Ensures (r.fetchPage asked) s
      (fun rows _ => rows.length ≤ (atLeastOne asked.perPage).toNat) r.FailsWith := by
  refine ensures_fetchPage (fun _ => Nat.zero_le _) fun offset _ => ?_
  refine ensures_askSelect (fun records state _ => ⟨fun rows hrows => ?_, fun e he => ?_⟩)
    fun e state he => .inl (.select rfl he)
  · rw [length_of_mapM hrows, List.length_take]
    exact Nat.min_le_left _ _
  · obtain ⟨record, -, hrecord⟩ := mapM_eq_error he
    exact .inr ⟨record, hrecord⟩

theorem ensures_rowCount_refused (r : Report σ) (s : Session σ) :
    Ensures r.rowCount s (fun _ _ => True) r.FailsWith :=
  ensures_rowCount (fun _ _ => trivial) fun _ =>
    ensures_askCount (fun _ _ _ => trivial) fun _ _ he => .inl (.count rfl he)

/-- A page is made for the cleaned paging that was asked for, at some page, and has no more rows
than places. -/
theorem ensures_page_shape (r : Report σ) (asked : Paging) (s : Session σ) :
    Ensures (r.page asked) s
      (fun p _ => (∃ page, p.paging = (r.sanitize asked).atPage page) ∧
        p.rows.length ≤ p.paging.perPage.toNat) r.FailsWith := by
  have finish : ∀ (page : UInt64) {rows : List Cells} (s' : Session σ),
      rows.length ≤ (atLeastOne asked.perPage).toNat →
      Ensures r.rowCount s' (fun _ _ => (∃ page', (r.sanitize asked).atPage page =
        (r.sanitize asked).atPage page') ∧ rows.length ≤ (atLeastOne asked.perPage).toNat)
        r.FailsWith := fun page _ s' hrows =>
    (r.ensures_rowCount_refused s').imp (fun _ _ _ => ⟨⟨page, rfl⟩, hrows⟩) fun _ _ he => he
  have fetch : ∀ (p : Paging) (s' : Session σ), p.perPage = atLeastOne asked.perPage →
      Ensures (r.fetchPage p) s' (fun rows _ => rows.length ≤ (atLeastOne asked.perPage).toNat)
        r.FailsWith := by
    intro p s' hp
    have hsize : atLeastOne p.perPage = atLeastOne asked.perPage := by
      rw [hp, atLeastOne_atLeastOne]
    have h := r.ensures_fetchPage_length p s'
    rwa [hsize] at h
  refine ensures_page ((fetch _ s rfl).imp (fun rows s' hrows => ?_) fun _ _ he => he)
  simp only
  split
  · refine (r.ensures_rowCount_refused s').imp (fun n s'' _ => ?_) fun _ _ he => he
    split
    · exact (fetch _ s'' rfl).imp (fun _ s₃ hrows' => finish _ s₃ hrows') fun _ _ he => he
    · exact finish asked.page s'' hrows
  · exact finish asked.page s' hrows

/-- A report that shows something of every record fails only where the store does. -/
theorem FailsWith.refused {r : Report σ} (hd : r.definition.Presents)
    (hf : r.formatter.WritesDates) {e : ReportError} {s : Session σ} (h : r.FailsWith e s) :
    r.store.Refused e s := by
  rcases h with h | ⟨record, hrecord⟩
  · exact h
  · obtain ⟨cells, hcells⟩ := hd record r.formatter hf
    rw [hcells] at hrecord
    cases hrecord

end Report

namespace Request

theorem toNat_clampPerPage (n : UInt64) :
    (clampPerPage n).toNat = min (max n.toNat 1) 1000 := by
  have hone : (1 : UInt64).toNat = 1 := rfl
  have hmax : maxPerPage.toNat = 1000 := rfl
  unfold clampPerPage
  simp only [UInt64.lt_iff_toNat_lt, hone, hmax]
  split
  · omega
  · split <;> omega

theorem one_le_clampPerPage (n : UInt64) : 1 ≤ clampPerPage n := by
  rw [UInt64.le_iff_toNat_le, toNat_clampPerPage]
  change 1 ≤ _
  omega

theorem clampPerPage_le (n : UInt64) : clampPerPage n ≤ 1000 := by
  rw [UInt64.le_iff_toNat_le, toNat_clampPerPage]
  exact Nat.min_le_right _ _

theorem atLeastOne_clampPerPage (n : UInt64) : atLeastOne (clampPerPage n) = clampPerPage n := by
  refine UInt64.toNat_inj.1 ?_
  rw [toNat_atLeastOne, toNat_clampPerPage]
  omega

end Request

/-! ### Answers to requests -/

section Dispatch

variable {registry : Registry} {actor : Actor} {settings : Settings} {now : Int64}
  {request : Request} {d : Definition}

/-- A request that names no report gets the list of those that the actor may view. -/
theorem dispatch_of_requested?_eq_none (h : registry.requested? request = none) (store : Store σ)
    (s : Session σ) :
    dispatch registry actor settings now store request s =
      .ok (.selector (registry.viewable actor)) s := by
  unfold dispatch
  rw [h]
  rfl

/-- A request for a report that the actor may not view is refused. -/
theorem dispatch_of_not_canView (h : registry.requested? request = some d)
    (hview : d.canView actor = false) (store : Store σ) (s : Session σ) :
    dispatch registry actor settings now store request s = .error (.permissionDenied d.name) s := by
  have hopen : Report.openFor d actor settings now store = .error (.permissionDenied d.name) :=
    if_neg (Bool.eq_false_iff.1 hview)
  unfold dispatch
  rw [h]
  simp only [hopen]
  rfl

/-- A request that names a report which opens is answered with a page of it. -/
theorem ensures_dispatch (h : registry.requested? request = some d) {store : Store σ}
    {r : Report σ} (hopen : Report.openFor d actor settings now store = .ok r) {s : Session σ}
    {post : Answer → Session σ → Prop} {fail : ReportError → Session σ → Prop}
    (hpage : Ensures (r.page (request.paging settings.perPage)) s
      (fun p s' => post (.view ⟨d.descriptor actor, d.columns, p⟩) s') fail) :
    Ensures (dispatch registry actor settings now store request) s post fail := by
  unfold dispatch
  rw [h]
  simp only [hopen]
  exact ensures_bind.2 (hpage.imp (fun _ _ hp => ensures_pure.2 hp) fun _ _ he => he)

/-- The page that answers a request. -/
structure View.Answers (v : View) (d : Definition) (actor : Actor) : Prop where
  /-- It is presented as the report that was asked for. -/
  descriptor : v.descriptor = d.descriptor actor
  /-- It has the columns of that report. -/
  columns : v.columns = d.columns
  /-- It has a place for a row. -/
  one_le_perPage : 1 ≤ v.page.paging.perPage
  /-- It does not have more places than a request may ask for. -/
  perPage_le : v.page.paging.perPage ≤ 1000
  /-- It has no more rows than places. -/
  length_rows_le : v.page.rows.length ≤ v.page.paging.perPage.toNat

theorem dispatch_of_canView (h : registry.requested? request = some d)
    (hview : d.canView actor = true) (hd : d.Presents)
    (hdates : (Formatter.ofSettings settings).WritesDates) (store : Store σ) (s : Session σ) :
    Ensures (dispatch registry actor settings now store request) s
      (fun answer _ => ∃ v : View, answer = .view v ∧ v.Answers d actor) store.Refused := by
  let r : Report σ := ⟨d, d.filter.resolve actor now, Formatter.ofSettings settings, store⟩
  have hopen : Report.openFor d actor settings now store = .ok r := if_pos hview
  have hpage := r.ensures_page_shape (request.paging settings.perPage) s
  refine ensures_dispatch h hopen (hpage.imp (fun p s' hp => ?_) fun e s' he =>
    Report.FailsWith.refused hd hdates he)
  obtain ⟨⟨page, hpaging⟩, hrows⟩ := hp
  have hclamped : p.paging.perPage =
      Request.clampPerPage (request.perPage.getD settings.perPage) := by
    rw [hpaging]
    exact Request.atLeastOne_clampPerPage _
  refine ⟨_, rfl, ⟨rfl, rfl, ?_, ?_, hrows⟩⟩
  · exact hclamped ▸ Request.one_le_clampPerPage _
  · exact hclamped ▸ Request.clampPerPage_le _

/-- The list of reports leaves out those that the actor may not view. -/
theorem Registry.viewable_eq (r : Registry) (actor : Actor) :
    r.viewable actor =
      (r.entries.filter fun d => actor.siteAdmin || actor.capabilities.contains d.capability).map
        (·.descriptor actor) := by
  rw [viewable, List.filter_map]
  rfl

end Dispatch

/-! ### The rules of access -/

/-- What came of a step, without the session that it left. -/
def answerOf {α : Type} : EStateM.Result ReportError (Session σ) α → Except ReportError α
  | .ok a _ => .ok a
  | .error e _ => .error e

/-- How a registry answers a request of an actor, whatever the store is and whatever came before.
Where the answer leaves the session as it was, the store was not asked. -/
structure Registry.Guards (registry : Registry) (actor : Actor) (settings : Settings)
    (now : Int64) (request : Request) : Prop where
  /-- If no report is named, or not in the form of a name, or none that is registered, the answer
  is the list of the reports with a capability that the actor holds, in their order. -/
  selector : request.reportName? = none ∨ (∃ name, request.reportName? = some name ∧
      (isReportName name = false ∨ name ∉ registry.names)) →
    ∀ {σ : Type} (store : Store σ) (s : Session σ),
      dispatch registry actor settings now store request s =
        .ok (.selector ((registry.entries.filter fun d =>
          actor.siteAdmin || actor.capabilities.contains d.capability).map
            (·.descriptor actor))) s
  /-- If a report is named whose capability the actor does not hold, the answer is a refusal with
  its name. -/
  denied : ∀ d ∈ registry.entries, request.reportName? = some d.name → d.canView actor = false →
    ∀ {σ : Type} (store : Store σ) (s : Session σ),
      dispatch registry actor settings now store request s = .error (.permissionDenied d.name) s
  /-- Unless a report is named whose capability the actor holds, two stores get the same answer. -/
  blind : (∀ d ∈ registry.entries, request.reportName? = some d.name → d.canView actor = false) →
    ∀ {σ τ : Type} (store : Store σ) (store' : Store τ) (s : Session σ) (s' : Session τ),
      answerOf (dispatch registry actor settings now store request s) =
        answerOf (dispatch registry actor settings now store' request s')
  /-- If a report is named whose capability the actor holds, the answer is a page of it, or the
  error with which the store answered the last question. -/
  shown : ∀ d ∈ registry.entries, request.reportName? = some d.name → d.canView actor = true →
    ∀ {σ : Type} (store : Store σ) (s : Session σ),
      Ensures (dispatch registry actor settings now store request) s
        (fun answer _ => ∃ v : View, answer = .view v ∧ v.Answers d actor) store.Refused

/-- The downloads under another name. -/
def Catalogue.totals : Definition := { downloads with name := "totals" }

end PagedReports
