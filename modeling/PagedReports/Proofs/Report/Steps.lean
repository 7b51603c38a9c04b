import PagedReports.Report.Session

/-!
# Steps of a session

What a step of a session comes to, whether it succeeds or fails, is said by `Ensures`. One rule
for each operation of a report reduces it to the questions that it puts to the store, so that no
proof about paging opens the operations themselves.

A step fails for one of two reasons (`Report.FailsWith`): the store refused its last question, or
the transform of the report refused a record.
-/

namespace PagedReports

open Sql

variable {σ α β : Type}

/-! ### Success and failure -/

/-- What came of a step, said of its success and of its failure. -/
def Outcome (post : α → Session σ → Prop) (fail : ReportError → Session σ → Prop) :
    EStateM.Result ReportError (Session σ) α → Prop
  | .ok a s => post a s
  | .error e s => fail e s

/-- A step from `s` has the outcome `post` if it succeeds, and `fail` if it does not. -/
def Ensures (x : Step σ α) (s : Session σ) (post : α → Session σ → Prop)
    (fail : ReportError → Session σ → Prop) : Prop :=
  Outcome post fail (x s)

section Rules

variable {x : Step σ α} {f : α → Step σ β} {s : Session σ} {post post' : α → Session σ → Prop}
  {fail fail' : ReportError → Session σ → Prop}

theorem Outcome.imp {result : EStateM.Result ReportError (Session σ) α}
    (h : Outcome post fail result) (hpost : ∀ a s', post a s' → post' a s')
    (hfail : ∀ e s', fail e s' → fail' e s') : Outcome post' fail' result := by
  cases result with
  | ok a s' => exact hpost a s' h
  | error e s' => exact hfail e s' h

theorem Ensures.imp (h : Ensures x s post fail) (hpost : ∀ a s', post a s' → post' a s')
    (hfail : ∀ e s', fail e s' → fail' e s') : Ensures x s post' fail' :=
  Outcome.imp h hpost hfail

theorem Ensures.outcome (h : Ensures x s post fail) : Outcome post fail (x s) := h

theorem Ensures.and (h : Ensures x s post fail) (h' : Ensures x s post' fail') :
    Ensures x s (fun a s' => post a s' ∧ post' a s') fun e s' => fail e s' ∧ fail' e s' := by
  unfold Ensures at h h' ⊢
  cases hx : x s with
  | ok a s' =>
    rw [hx] at h h'
    exact ⟨h, h'⟩
  | error e s' =>
    rw [hx] at h h'
    exact ⟨h, h'⟩

/-- A step that cannot fail succeeds. -/
theorem Ensures.exists_eq_ok (h : Ensures x s post fail) (hfail : ∀ e s', ¬fail e s') :
    ∃ a s', x s = .ok a s' ∧ post a s' := by
  unfold Ensures at h
  cases hx : x s with
  | ok a s' =>
    rw [hx] at h
    exact ⟨a, s', rfl, h⟩
  | error e s' =>
    rw [hx] at h
    exact absurd h (hfail e s')

theorem ensures_pure {a : α} : Ensures (pure a) s post fail ↔ post a s := Iff.rfl

theorem ensures_get {post : Session σ → Session σ → Prop} :
    Ensures get s post fail ↔ post s s := Iff.rfl

theorem ensures_bind {post : β → Session σ → Prop} : Ensures (x >>= f) s post fail ↔
    Ensures x s (fun a s' => Ensures (f a) s' post fail) fail := by
  simp only [Ensures, Outcome, bind, EStateM.bind]
  cases x s <;> rfl

theorem ensures_map {g : α → β} {post : β → Session σ → Prop} : Ensures (g <$> x) s post fail ↔
    Ensures x s (fun a s' => post (g a) s') fail := by
  simp only [Ensures, Outcome, Functor.map, EStateM.map]
  cases x s <;> rfl

end Rules

/-! ### Questions to the store -/

/-- The store answered the last question of a session with an error. -/
inductive Store.Refused (store : Store σ) (e : ReportError) (s : Session σ) : Prop where
  /-- The last question was for a count. -/
  | count {before : List Call} {selection : Selection} {params : List Value} {state : σ}
    (asked : s.calls = before ++ [.count selection params])
    (answer : store.count selection params state = (.error e, s.store))
  /-- The last question was for the rows of a page. -/
  | select {before : List Call} {listing : Listing} {params : List Value} {offset limit : UInt64}
    {state : σ} (asked : s.calls = before ++ [.select listing params offset limit])
    (answer : store.select listing params offset limit state = (.error e, s.store))

section Questions

variable {store : Store σ} {s : Session σ} {fail : ReportError → Session σ → Prop}

theorem ensures_askCount {selection : Selection} {params : List Value}
    {post : UInt64 → Session σ → Prop}
    (answered : ∀ n state, store.count selection params s.store = (.ok n, state) →
      post n { s with calls := s.calls ++ [.count selection params], store := state })
    (refused : ∀ e state, store.count selection params s.store = (.error e, state) →
      fail e { s with calls := s.calls ++ [.count selection params], store := state }) :
    Ensures (store.askCount selection params) s post fail := by
  simp only [Ensures, Outcome, Store.askCount]
  rcases h : store.count selection params s.store with ⟨_ | _, state⟩
  · exact refused _ _ h
  · exact answered _ _ h

theorem ensures_askSelect {listing : Listing} {params : List Value} {offset limit : UInt64}
    {post : List Record → Session σ → Prop}
    (answered : ∀ records state,
      store.select listing params offset limit s.store = (.ok records, state) →
      post records
        { s with calls := s.calls ++ [.select listing params offset limit], store := state })
    (refused : ∀ e state, store.select listing params offset limit s.store = (.error e, state) →
      fail e { s with calls := s.calls ++ [.select listing params offset limit], store := state }) :
    Ensures (store.askSelect listing params offset limit) s post fail := by
  simp only [Ensures, Outcome, Store.askSelect]
  rcases h : store.select listing params offset limit s.store with ⟨_ | _, state⟩
  · exact refused _ _ h
  · exact answered _ _ h

end Questions

/-! ### Operations of a report -/

namespace Report

variable {r : Report σ} {s : Session σ} {fail : ReportError → Session σ → Prop}

/-- Why an operation fails: the store refused its last question, or the transform of the report
refused a record. -/
def FailsWith (r : Report σ) (e : ReportError) (s : Session σ) : Prop :=
  r.store.Refused e s ∨ ∃ record, r.definition.transform record r.formatter = .error e

theorem ensures_rowCount {post : UInt64 → Session σ → Prop}
    (known : ∀ n, s.total = some n → post n s)
    (asked : s.total = none → Ensures (r.store.askCount r.selection r.filter.params) s
      (fun n s' => post n { s' with total := some n }) fail) :
    Ensures r.rowCount s post fail := by
  unfold rowCount
  rw [ensures_bind, ensures_get]
  cases h : s.total with
  | some n => exact known n h
  | none => exact ensures_bind.2 (asked h)

/-- The session after a page of so many rows was fetched from an offset on. -/
def noteFetched (p : Paging) (offset : UInt64) (fetched : Nat) (s : Session σ) : Session σ :=
  match impliedTotal? p offset fetched with
  | some n => note n s
  | none => s

theorem ensures_fetchPage {asked : Paging} {post : List Cells → Session σ → Prop}
    (beyond : (r.sanitize asked).offset? = none → post [] s)
    (within : ∀ offset, (r.sanitize asked).offset? = some offset →
      Ensures (r.store.askSelect (r.listing (r.sanitize asked)) r.filter.params offset
          (r.sanitize asked).perPage) s
        (fun records s' =>
          let fetched := records.take (r.sanitize asked).perPage.toNat
          let s'' := noteFetched (r.sanitize asked) offset fetched.length s'
          (∀ rows, r.present fetched = .ok rows → post rows s'') ∧
            ∀ e, r.present fetched = .error e → fail e s'') fail) :
    Ensures (r.fetchPage asked) s post fail := by
  unfold fetchPage
  simp only
  cases h : (r.sanitize asked).offset? with
  | none => exact beyond h
  | some offset =>
    refine ensures_bind.2 ((within offset h).imp (fun records s' hpost => ?_)
      fun _ _ hfail => hfail)
    simp only [noteFetched] at hpost
    cases himplied : impliedTotal? (r.sanitize asked) offset
        (records.take (r.sanitize asked).perPage.toNat).length <;>
      rw [himplied] at hpost <;>
      cases hrows : r.present (records.take (r.sanitize asked).perPage.toNat) with
      | error e => exact hpost.2 e hrows
      | ok rows => exact hpost.1 rows hrows

theorem ensures_page {asked : Paging} {post : Page → Session σ → Prop}
    (h : Ensures (r.fetchPage (r.sanitize asked)) s (fun rows s' =>
      let p := r.sanitize asked
      let finish (p : Paging) (rows : List Cells) (s : Session σ) : Prop :=
        Ensures r.rowCount s (fun n s' => post ⟨p, rows, n⟩ s') fail
      if rows.isEmpty ∧ 0 < p.page then
        Ensures r.rowCount s' (fun n s' =>
          if lastPage n p.perPage < p.page then
            Ensures (r.fetchPage (p.atPage (lastPage n p.perPage))) s'
              (fun rows s' => finish (p.atPage (lastPage n p.perPage)) rows s') fail
          else finish p rows s') fail
      else finish p rows s') fail) :
    Ensures (r.page asked) s post fail := by
  unfold page
  simp only
  refine ensures_bind.2 (h.imp (fun rows s' hpost => ?_) fun _ _ hfail => hfail)
  simp only [Bool.and_eq_true, decide_eq_true_eq] at hpost ⊢
  split
  · rename_i hc
    rw [if_pos hc] at hpost
    refine ensures_bind.2 (hpost.imp (fun n s' hn => ?_) fun _ _ hfail => hfail)
    split
    · rename_i hlast
      rw [if_pos hlast] at hn
      exact ensures_bind.2 (hn.imp (fun rows s' hrows => ensures_bind.2 hrows)
        fun _ _ hfail => hfail)
    · rename_i hlast
      rw [if_neg hlast] at hn
      exact ensures_bind.2 hn
  · rename_i hc
    rw [if_neg hc] at hpost
    exact ensures_bind.2 hpost

/-! ### Sanitizing -/

@[simp] theorem sanitize_page (r : Report σ) (p : Paging) : (r.sanitize p).page = p.page := rfl

@[simp] theorem sanitize_perPage (r : Report σ) (p : Paging) :
    (r.sanitize p).perPage = atLeastOne p.perPage := rfl

theorem atLeastOne_atLeastOne (n : UInt64) : atLeastOne (atLeastOne n) = atLeastOne n := by
  refine UInt64.toNat_inj.1 ?_
  rw [toNat_atLeastOne, toNat_atLeastOne]
  omega

theorem sanitize_sanitize (r : Report σ) (p : Paging) :
    r.sanitize (r.sanitize p) = r.sanitize p := by
  simp [sanitize, atLeastOne_atLeastOne, Option.filter_filter]

theorem sanitize_atPage (r : Report σ) (p : Paging) (page : UInt64) :
    r.sanitize (p.atPage page) = (r.sanitize p).atPage page := rfl

/-- A sort key that is dropped did not sort. -/
theorem sortableColumn?_sanitize (r : Report σ) (p : Paging) :
    (r.sanitize p).sortKey.bind r.definition.sortableColumn? =
      p.sortKey.bind r.definition.sortableColumn? := by
  simp only [sanitize]
  cases p.sortKey with
  | none => rfl
  | some key => cases hkey : r.definition.sortableColumn? key <;> simp [Option.filter, hkey]

theorem listing_sanitize (r : Report σ) (p : Paging) : r.listing (r.sanitize p) = r.listing p := by
  simp only [listing, order, sortableColumn?_sanitize]
  rfl

@[simp] theorem listing_atPage (r : Report σ) (p : Paging) (page : UInt64) :
    r.listing (p.atPage page) = r.listing p := rfl

end Report

-- From here on the rules take the place of the definition, so that no proof runs a step.
attribute [irreducible] Ensures

end PagedReports
