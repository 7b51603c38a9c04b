import PagedReports.Proofs.Report.Steps

/-!
# Histories of a report

Operations on one open report, one after another, each with what came of it. What every operation
does from a session with some invariant, and leaves with it, holds of all operations of a history
(`forall_run`), in whatever order they come and whichever of them fail. Two stores that answer the
questions of a report alike have the same histories (`run_eq_of_sameAnswers`).
-/

namespace PagedReports

variable {σ : Type}

/-- What can be asked of an open report. -/
inductive Operation where
  /-- How many rows it has. -/
  | rowCount
  /-- The rows of a page. -/
  | fetchPage (asked : Paging)
  /-- A page, or the last one in place of a page after it. -/
  | page (asked : Paging)
  deriving DecidableEq, Repr

/-- What an operation gives when it succeeds. -/
inductive Reply where
  /-- A number of rows. -/
  | total (n : UInt64)
  /-- The rows of a page. -/
  | rows (rows : List Cells)
  /-- A page. -/
  | page (p : Page)
  deriving DecidableEq, Repr

/-- The session that a step leaves, whether it succeeded or failed. -/
def sessionAfter {α : Type} : EStateM.Result ReportError (Session σ) α → Session σ
  | .ok _ s => s
  | .error _ s => s

namespace Report

/-- Does an operation. -/
def perform (r : Report σ) : Operation → Step σ Reply
  | .rowCount => Reply.total <$> r.rowCount
  | .fetchPage asked => Reply.rows <$> r.fetchPage asked
  | .page asked => Reply.page <$> r.page asked

/-- Does operations one after another, and keeps what came of each. -/
def run (r : Report σ) :
    List Operation → Session σ → List (Operation × EStateM.Result ReportError (Session σ) Reply)
  | [], _ => []
  | op :: ops, s => (op, r.perform op s) :: r.run ops (sessionAfter (r.perform op s))

/-- What holds of each operation from a session with an invariant, which every operation keeps,
holds of a whole history. -/
theorem forall_run {r : Report σ} {Inv : Session σ → Prop}
    {post : Operation → Reply → Session σ → Prop}
    {fail : Operation → ReportError → Session σ → Prop}
    (step : ∀ op s, Inv s → Ensures (r.perform op) s (fun reply s' => post op reply s' ∧ Inv s')
      fun e s' => fail op e s' ∧ Inv s')
    (ops : List Operation) {s : Session σ} (hs : Inv s) :
    ∀ x ∈ r.run ops s, Outcome (post x.1) (fail x.1) x.2 := by
  induction ops generalizing s with
  | nil => intro x hx; cases hx
  | cons op ops ih =>
    have hop := (step op s hs).outcome
    have hafter : Inv (sessionAfter (r.perform op s)) := by
      cases hres : r.perform op s with
      | ok reply s' => rw [hres] at hop; exact hop.2
      | error e s' => rw [hres] at hop; exact hop.2
    intro x hx
    rcases List.mem_cons.1 hx with rfl | hx
    · exact hop.imp (fun _ _ h => h.1) fun _ _ h => h.1
    · exact ih hafter x hx

/-! ### Stores that answer alike -/

/-- A store answers every question of a report as its own store does. -/
structure SameAnswers (r : Report σ) (store : Store σ) : Prop where
  /-- It counts the same. -/
  count : store.count r.selection r.filter.params = r.store.count r.selection r.filter.params
  /-- It lists the same. -/
  select : ∀ p, store.select (r.listing p) r.filter.params =
    r.store.select (r.listing p) r.filter.params

variable {r : Report σ} {store : Store σ} (h : r.SameAnswers store)

include h

theorem rowCount_eq_of_sameAnswers : { r with store := store }.rowCount = r.rowCount := by
  have hask : store.askCount r.selection r.filter.params =
      r.store.askCount r.selection r.filter.params := by
    funext s
    simp only [Store.askCount, h.count]
  have hselection : { r with store := store }.selection = r.selection := rfl
  simp only [rowCount, hselection, hask]

theorem fetchPage_eq_of_sameAnswers (asked : Paging) :
    { r with store := store }.fetchPage asked = r.fetchPage asked := by
  have hask : ∀ p offset limit, store.askSelect (r.listing p) r.filter.params offset limit =
      r.store.askSelect (r.listing p) r.filter.params offset limit := by
    intro p offset limit
    funext s
    simp only [Store.askSelect, h.select]
  have hsanitize : { r with store := store }.sanitize asked = r.sanitize asked := rfl
  have hlisting : ∀ p, { r with store := store }.listing p = r.listing p := fun _ => rfl
  have hpresent : { r with store := store }.present = r.present := rfl
  simp only [fetchPage, hsanitize, hlisting, hask, hpresent]

theorem perform_eq_of_sameAnswers (op : Operation) :
    { r with store := store }.perform op = r.perform op := by
  cases op with
  | rowCount => rw [perform, perform, rowCount_eq_of_sameAnswers h]
  | fetchPage asked => rw [perform, perform, fetchPage_eq_of_sameAnswers h]
  | page asked =>
    have hsanitize : { r with store := store }.sanitize asked = r.sanitize asked := rfl
    simp only [perform, page, hsanitize, rowCount_eq_of_sameAnswers h,
      fetchPage_eq_of_sameAnswers h]

/-- Nothing that is asked of a report tells apart two stores that answer it alike. -/
theorem run_eq_of_sameAnswers (ops : List Operation) (s : Session σ) :
    { r with store := store }.run ops s = r.run ops s := by
  induction ops generalizing s with
  | nil => rfl
  | cons op ops ih => rw [run, run, perform_eq_of_sameAnswers h, ih]

end Report

end PagedReports
