import Mathlib.Data.List.Induction
import Mathlib.Logic.Relation
import PagedReports.Proofs.Report.Access
import PagedReports.Proofs.Report.Questions

/-!
# One total

Whatever a store answers, a report tells one number of rows. Answers may change from question to
question, contradict each other, hold more rows than were asked for, or be errors: the first answer
that gives a number of rows away settles it (`knownAfter`), and from then on the store is not asked
for a count again.

What an operation does to a session is a chain of turns, each of them one question and what is
learned from its answer (`Store.Turn`). What a turn keeps is therefore kept by every operation and
by every history, and all that is said of a history is read off the answers that its questions got
(`settlesTotal_of_any_store`).
-/

namespace PagedReports

open Sql

variable {σ : Type}

/-! ### Questions and their answers -/

/-- A question to a store with the answer that it got. -/
inductive Exchange where
  /-- A question for a count. -/
  | count (answer : Except ReportError UInt64)
  /-- A question for the rows from an offset on, at most so many. -/
  | select (offset limit : UInt64) (answer : Except ReportError (List Record))

namespace Exchange

/-- The number of rows that an answer gives away. A count says it. Fewer rows than were asked for
show where the rows end, provided that there are some or that they were asked for from the first
one on. An error says nothing. -/
def total? : Exchange → Option UInt64
  | count (.ok n) => some n
  | select offset limit (.ok records) =>
    if records.length < limit.toNat ∧ (records ≠ [] ∨ offset = 0) ∧
        offset.toNat + records.length < 0x10000000000000000 then
      some (offset + UInt64.ofNat records.length)
    else none
  | count (.error _) | select _ _ (.error _) => none

/-- A question for a count that was answered. -/
def isCounted : Exchange → Bool
  | count (.ok _) => true
  | _ => false

/-- A question that was answered with an error. -/
def isRefused : Exchange → Bool
  | count (.error _) | select _ _ (.error _) => true
  | _ => false

theorem total?_of_isRefused {e : Exchange} (h : e.isRefused = true) : e.total? = none := by
  rcases e with ⟨_ | n⟩ | ⟨offset, limit, _ | records⟩
  · rfl
  · cases h
  · rfl
  · cases h

theorem exists_total?_of_isCounted {e : Exchange} (h : e.isCounted = true) :
    ∃ n, e = .count (.ok n) ∧ e.total? = some n := by
  rcases e with ⟨_ | n⟩ | ⟨offset, limit, answer⟩
  · cases h
  · exact ⟨n, rfl, rfl⟩
  · cases h

end Exchange

/-- The number of rows that is known after some answers: the first one given away. -/
def knownAfter (exchanges : List Exchange) : Option UInt64 := exchanges.findSome? Exchange.total?

theorem knownAfter_concat (exchanges : List Exchange) (e : Exchange) :
    knownAfter (exchanges ++ [e]) = (knownAfter exchanges).or e.total? := by
  rw [knownAfter, List.findSome?_append, knownAfter, List.findSome?_singleton]

/-- The answer of a store to a question, and the state that it is left in. -/
def Store.answer (store : Store σ) : Call → σ → Exchange × σ
  | .count selection params, s =>
    let answer := store.count selection params s
    (.count answer.1, answer.2)
  | .select listing params offset limit, s =>
    let answer := store.select listing params offset limit s
    (.select offset limit answer.1, answer.2)

/-- The answers of a store to questions one after another, and the state that it is left in. -/
def Store.replay (store : Store σ) : List Call → σ → List Exchange × σ
  | [], s => ([], s)
  | call :: calls, s =>
    let answer := store.answer call s
    let rest := store.replay calls answer.2
    (answer.1 :: rest.1, rest.2)

theorem Store.replay_concat (store : Store σ) (calls : List Call) (call : Call) (s : σ) :
    store.replay (calls ++ [call]) s =
      ((store.replay calls s).1 ++ [(store.answer call (store.replay calls s).2).1],
        (store.answer call (store.replay calls s).2).2) := by
  induction calls generalizing s with
  | nil => rfl
  | cons c calls ih => simp only [List.cons_append, replay, ih]

/-! ### Turns -/

/-- A question for a count. -/
def Call.isCount : Call → Bool
  | .count .. => true
  | .select .. => false

/-- One question, and what is learned from its answer: a number of rows, if none was known. A count
is asked for only where none was known. -/
inductive Store.Turn (store : Store σ) (s : Session σ) : Session σ → Prop where
  /-- The question and its answer. -/
  | ask (call : Call) (unknown : call.isCount = true → s.total = none) :
    store.Turn s ⟨s.total.or (store.answer call s.store).1.total?, s.calls ++ [call],
      (store.answer call s.store).2⟩

/-- Any number of questions. -/
abbrev Store.Turns (store : Store σ) : Session σ → Session σ → Prop :=
  Relation.ReflTransGen store.Turn

/-- A number of rows that is known stays. -/
theorem Store.Turns.total_eq {store : Store σ} {s s' : Session σ} (h : store.Turns s s')
    {n : UInt64} (hn : s.total = some n) : s'.total = some n := by
  induction h with
  | refl => exact hn
  | tail _ hturn ih =>
    cases hturn
    rw [ih]
    rfl

/-- For no count that was asked for, the answers before it had given a number of rows away. -/
def CountsSpared (exchanges : List Exchange) : Prop :=
  ∀ before answer after, exchanges = before ++ .count answer :: after → knownAfter before = none

theorem CountsSpared.concat {exchanges : List Exchange} (h : CountsSpared exchanges) {e : Exchange}
    (he : ∀ answer, e = .count answer → knownAfter exchanges = none) :
    CountsSpared (exchanges ++ [e]) := by
  intro before answer after heq
  rcases List.append_eq_append_iff.1 heq with ⟨rest, rfl, hrest⟩ | ⟨rest, rfl, hrest⟩
  · -- The count stands at the end.
    cases rest with
    | nil =>
      simp only [List.nil_append, List.cons.injEq] at hrest
      rw [List.append_nil]
      exact he answer hrest.1
    | cons x rest => simp at hrest
  · cases rest with
    | nil =>
      simp only [List.nil_append, List.cons.injEq] at hrest
      simp only [List.append_nil] at he
      exact he answer hrest.1.symm
    | cons x rest =>
      simp only [List.cons_append, List.cons.injEq] at hrest
      exact h before answer rest (by rw [hrest.1])

/-- Where no number is known, no count was answered. -/
theorem countP_eq_zero_of_knownAfter_eq_none {exchanges : List Exchange}
    (h : knownAfter exchanges = none) : exchanges.countP Exchange.isCounted = 0 := by
  refine List.countP_eq_zero.2 fun e he hcounted => ?_
  obtain ⟨n, -, hn⟩ := Exchange.exists_total?_of_isCounted hcounted
  rw [List.findSome?_eq_none_iff.1 h e he] at hn
  cases hn

/-- A count that was answered settles the number of rows, so that no other one follows. -/
theorem CountsSpared.countP_le_one {exchanges : List Exchange} (h : CountsSpared exchanges) :
    exchanges.countP Exchange.isCounted ≤ 1 := by
  induction exchanges using List.reverseRecOn with
  | nil => exact Nat.zero_le _
  | append_singleton exchanges e ih =>
    have hbefore : CountsSpared exchanges := fun before answer after heq =>
      h before answer (after ++ [e]) (by rw [heq, List.append_assoc]; rfl)
    rw [List.countP_append, List.countP_singleton]
    split
    · rename_i hcounted
      obtain ⟨n, rfl, -⟩ := Exchange.exists_total?_of_isCounted hcounted
      have hnone := countP_eq_zero_of_knownAfter_eq_none (h exchanges (.ok n) [] rfl)
      omega
    · exact ih hbefore

/-- A session is explained by the answers that its questions got from a store on: they lead to the
state of the store, the number of rows that is known is the first one they gave away, and no count
was asked for after that. -/
structure Session.Explained (store : Store σ) (state : σ) (s : Session σ) : Prop where
  /-- The store is in the state that the questions have led to. -/
  state_eq : (store.replay s.calls state).2 = s.store
  /-- What is known is what the answers gave away first. -/
  total : s.total = knownAfter (store.replay s.calls state).1
  /-- No count was asked for once a number was known. -/
  spared : CountsSpared (store.replay s.calls state).1

theorem Session.explained_start (store : Store σ) (state : σ) :
    (Session.start state).Explained store state := by
  refine ⟨rfl, rfl, fun before answer after heq => ?_⟩
  cases (List.nil_eq_append_iff.1 heq).2

theorem Session.Explained.turn {store : Store σ} {state : σ} {s s' : Session σ}
    (h : s.Explained store state) (hturn : store.Turn s s') : s'.Explained store state := by
  cases hturn with
  | ask call unknown =>
    constructor
    · simp only [Store.replay_concat, h.state_eq]
    · simp only [Store.replay_concat, h.state_eq, knownAfter_concat, h.total]
    · simp only [Store.replay_concat, h.state_eq]
      refine h.spared.concat fun answer hanswer => ?_
      cases call with
      | count selection params =>
        rw [← h.total]
        exact unknown rfl
      | select listing params offset limit => cases hanswer

theorem Session.Explained.turns {store : Store σ} {state : σ} {s s' : Session σ}
    (h : s.Explained store state) (hturns : store.Turns s s') : s'.Explained store state := by
  induction hturns with
  | refl => exact h
  | tail _ hturn ih => exact ih.turn hturn

/-! ### Operations as turns -/

namespace Report

variable {r : Report σ} {s : Session σ}

/-- The number of rows that a page gives away is the one that its answer gives away. -/
theorem impliedTotal?_eq_total? {asked : Paging} {offset : UInt64}
    (h : (r.sanitize asked).offset? = some offset) (records : List Record) :
    impliedTotal? (r.sanitize asked) offset
        (records.take (r.sanitize asked).perPage.toNat).length =
      Exchange.total? (.select offset (r.sanitize asked).perPage (.ok records)) := by
  obtain ⟨hmul, -⟩ := Paging.offset?_eq_some_iff.1 h
  have hsize : 0 < (r.sanitize asked).perPage.toNat := by
    rw [sanitize_perPage, toNat_atLeastOne]
    omega
  have hfirst : (r.sanitize asked).page = 0 ↔ offset = 0 := by
    rw [← UInt64.toNat_inj, ← UInt64.toNat_inj, ← hmul]
    change _ = 0 ↔ _ = 0
    rw [Nat.mul_eq_zero]
    omega
  have hsome : 0 < records.length ↔ records ≠ [] := List.length_pos_iff
  simp only [impliedTotal?, Exchange.total?, List.length_take, hfirst]
  by_cases hshort : records.length < (r.sanitize asked).perPage.toNat
  · simp only [Nat.min_eq_right (Nat.le_of_lt hshort), hsome]
  · rw [if_neg (by omega), if_neg (by omega)]

theorem noteFetched_eq (p : Paging) (offset : UInt64) (fetched : Nat) (s : Session σ) :
    noteFetched p offset fetched s =
      { s with total := s.total.or (impliedTotal? p offset fetched) } := by
  unfold noteFetched note
  cases impliedTotal? p offset fetched with
  | none => rw [Option.or_none]
  | some n =>
    obtain ⟨total, calls, state⟩ := s
    cases total <;> rfl

/-- To tell the number of rows, a report asks for a count where none is known. -/
theorem ensures_rowCount_turns (r : Report σ) (s : Session σ) :
    Ensures r.rowCount s (fun n s' => r.store.Turns s s' ∧ s'.total = some n)
      fun _ s' => r.store.Turns s s' := by
  refine ensures_rowCount (fun n hn => ⟨.refl, hn⟩) fun hnone => ?_
  have hturn : r.store.Turn s _ := .ask (.count r.selection r.filter.params) fun _ => hnone
  refine ensures_askCount (fun n state hn => ⟨.single ?_, rfl⟩) fun e state he => .single ?_
  · simp only [Store.answer, hn, hnone] at hturn
    exact hturn
  · simp only [Store.answer, he] at hturn
    rw [Exchange.total?, Option.or_none] at hturn
    exact hturn

/-- To fetch a page, a report asks for its rows. -/
theorem ensures_fetchPage_turns (r : Report σ) (asked : Paging) (s : Session σ) :
    Ensures (r.fetchPage asked) s (fun _ s' => r.store.Turns s s')
      fun _ s' => r.store.Turns s s' := by
  refine ensures_fetchPage (fun _ => .refl) fun offset hoffset => ?_
  have hturn : r.store.Turn s _ := .ask (.select (r.listing (r.sanitize asked)) r.filter.params
    offset (r.sanitize asked).perPage) nofun
  refine ensures_askSelect (fun records state hrecords => ?_) fun e state he => .single ?_
  · simp only [Store.answer, hrecords, ← impliedTotal?_eq_total? hoffset] at hturn
    simp only [noteFetched_eq]
    exact ⟨fun _ _ => .single hturn, fun _ _ => .single hturn⟩
  · simp only [Store.answer, he] at hturn
    rw [Exchange.total?, Option.or_none] at hturn
    exact hturn

/-- A page is made by fetching, counting and fetching again, and tells the number of rows. -/
theorem ensures_page_turns (r : Report σ) (asked : Paging) (s : Session σ) :
    Ensures (r.page asked) s (fun p s' => r.store.Turns s s' ∧ s'.total = some p.total)
      fun _ s' => r.store.Turns s s' := by
  have finish : ∀ s', r.store.Turns s s' →
      Ensures r.rowCount s' (fun n s'' => r.store.Turns s s'' ∧ s''.total = some n)
        fun _ s'' => r.store.Turns s s'' := fun s' hs' =>
    (r.ensures_rowCount_turns s').imp (fun _ _ h => ⟨hs'.trans h.1, h.2⟩) fun _ _ h => hs'.trans h
  refine ensures_page ((r.ensures_fetchPage_turns _ s).imp (fun rows s₁ h₁ => ?_) fun _ _ h => h)
  simp only
  split
  · refine (r.ensures_rowCount_turns s₁).imp (fun n s₂ h₂ => ?_) fun _ _ h => h₁.trans h
    have hs₂ := h₁.trans h₂.1
    split
    · exact (r.ensures_fetchPage_turns _ s₂).imp (fun _ s₃ h₃ => finish s₃ (hs₂.trans h₃))
        fun _ _ h => hs₂.trans h
    · exact finish s₂ hs₂
  · exact finish s₁ h₁

end Report

/-! ### Histories -/

/-- The number of rows that a reply tells. -/
def Reply.total? : Reply → Option UInt64
  | total n => some n
  | rows _ => none
  | page p => some p.total

/-- A reply to an operation has no more rows than the page that was asked for has places, of which
there is at least one. -/
def Operation.Fits : Operation → Reply → Prop
  | rowCount, .total _ => True
  | fetchPage asked, .rows rows => rows.length ≤ max asked.perPage.toNat 1
  | page asked, .page p => p.rows.length ≤ max asked.perPage.toNat 1
  | _, _ => False

namespace Report

theorem ensures_perform_turns (r : Report σ) (op : Operation) (s : Session σ) :
    Ensures (r.perform op) s
      (fun reply s' => (∀ n ∈ reply.total?, s'.total = some n) ∧ r.store.Turns s s')
      fun _ s' => r.store.Turns s s' := by
  cases op with
  | rowCount =>
    refine ensures_map.2 ((r.ensures_rowCount_turns s).imp (fun n s' h => ⟨?_, h.1⟩) fun _ _ h => h)
    rintro m hm
    cases hm
    exact h.2
  | fetchPage asked =>
    exact ensures_map.2 ((r.ensures_fetchPage_turns asked s).imp (fun _ _ h => ⟨nofun, h⟩)
      fun _ _ h => h)
  | page asked =>
    refine ensures_map.2 ((r.ensures_page_turns asked s).imp (fun n s' h => ⟨?_, h.1⟩)
      fun _ _ h => h)
    rintro m hm
    cases hm
    exact h.2

theorem turns_sessionAfter (r : Report σ) (op : Operation) (s : Session σ) :
    r.store.Turns s (sessionAfter (r.perform op s)) := by
  have houtcome := (r.ensures_perform_turns op s).outcome
  cases hresult : r.perform op s with
  | ok reply s' => rw [hresult] at houtcome; exact houtcome.2
  | error e s' => rw [hresult] at houtcome; exact houtcome

/-- A history is a chain of turns. -/
theorem turns_after (r : Report σ) (ops : List Operation) (s : Session σ) :
    r.store.Turns s (r.after ops s) := by
  induction ops generalizing s with
  | nil => exact .refl
  | cons op ops ih => exact (r.turns_sessionAfter op s).trans (ih _)

/-- What a reply tells of the number of rows is known at the end of the history. -/
theorem total_after_of_mem_run (r : Report σ) (ops : List Operation) (s : Session σ) :
    ∀ x ∈ r.run ops s, Outcome (fun reply _ => ∀ n ∈ reply.total?, (r.after ops s).total = some n)
      (fun _ _ => True) x.2 := by
  intro x hx
  induction ops generalizing s with
  | nil => exact absurd hx List.not_mem_nil
  | cons op ops ih =>
    rcases List.mem_cons.1 hx with rfl | hx
    · have houtcome := (r.ensures_perform_turns op s).outcome
      have hafter := r.turns_after ops (sessionAfter (r.perform op s))
      change Outcome _ _ (r.perform op s)
      cases hresult : r.perform op s with
      | ok reply s' =>
        rw [hresult] at houtcome hafter
        intro n hn
        have hlater := hafter.total_eq (houtcome.1 n hn)
        rwa [after, List.foldl_cons, hresult]
      | error e s' => trivial
    · exact ih _ hx

/-- No reply of a history has more rows than fit on a page. -/
theorem fits_of_mem_run (r : Report σ) (ops : List Operation) (s : Session σ) :
    ∀ x ∈ r.run ops s, Outcome (fun reply _ => x.1.Fits reply) (fun _ _ => True) x.2 := by
  have step : ∀ (op : Operation) (s : Session σ), True →
      Ensures (r.perform op) s (fun reply _ => op.Fits reply ∧ True) fun _ _ => True ∧ True := by
    intro op s _
    cases op with
    | rowCount =>
      exact ensures_map.2 ((r.ensures_rowCount_refused s).imp (fun _ _ _ => ⟨trivial, trivial⟩)
        fun _ _ _ => ⟨trivial, trivial⟩)
    | fetchPage asked =>
      refine ensures_map.2 ((r.ensures_fetchPage_length asked s).imp (fun rows _ h => ⟨?_, trivial⟩)
        fun _ _ _ => ⟨trivial, trivial⟩)
      rwa [toNat_atLeastOne] at h
    | page asked =>
      refine ensures_map.2 ((r.ensures_page_shape asked s).imp (fun p _ h => ⟨?_, trivial⟩)
        fun _ _ _ => ⟨trivial, trivial⟩)
      obtain ⟨⟨page, hpaging⟩, hrows⟩ := h
      rw [hpaging] at hrows
      exact Nat.le_trans hrows (Nat.le_of_eq (toNat_atLeastOne asked.perPage))
  exact forall_run step ops trivial

/-- The answers that the questions of a history got. -/
def exchanges (r : Report σ) (ops : List Operation) (state : σ) : List Exchange :=
  (r.store.replay (r.after ops (.start state)).calls state).1

/-- A history settles one number of rows at most. -/
structure SettlesTotal (r : Report σ) (ops : List Operation) (state : σ) : Prop where
  /-- Every number of rows that is told is the one known in the end, so that all are the same. -/
  told : ∀ x ∈ r.run ops (.start state), Outcome
    (fun reply _ => ∀ n ∈ reply.total?, (r.after ops (.start state)).total = some n)
    (fun _ _ => True) x.2
  /-- What is known is what the answers of the store gave away first. -/
  known : (r.after ops (.start state)).total = knownAfter (r.exchanges ops state)
  /-- What was known after some of the operations is known in the end. -/
  kept : ∀ before later n, ops = before ++ later →
    (r.after before (.start state)).total = some n → (r.after ops (.start state)).total = some n
  /-- No count is asked for once an answer has given the number of rows away. -/
  spared : ∀ before answer later, r.exchanges ops state = before ++ .count answer :: later →
    knownAfter before = none
  /-- At most one count is answered. -/
  counted : (r.exchanges ops state).countP Exchange.isCounted ≤ 1
  /-- What is known is the same before and after an answer that is an error. -/
  refused : ∀ before e later, r.exchanges ops state = before ++ e :: later →
    e.isRefused = true → knownAfter (before ++ [e]) = knownAfter before
  /-- There are never more rows than places on the page. -/
  fits : ∀ x ∈ r.run ops (.start state), Outcome (fun reply _ => x.1.Fits reply)
    (fun _ _ => True) x.2

/-- **A report tells one total, whatever the store answers.** Over any store, whose answers may
change, contradict each other, be too long or be errors, and in every history of a report: all
numbers of rows that are told are the same, at most one count is answered, none is asked for once
the number is known, no error changes what is known, and no page is overfull. -/
theorem settlesTotal_of_any_store (r : Report σ) (ops : List Operation) (state : σ) :
    r.SettlesTotal ops state := by
  have hexplained : (r.after ops (.start state)).Explained r.store state :=
    (Session.explained_start r.store state).turns (r.turns_after ops _)
  refine ⟨r.total_after_of_mem_run ops _, hexplained.total, fun before later n hops hn => ?_,
    hexplained.spared, hexplained.spared.countP_le_one, fun before e later _ he => ?_,
    r.fits_of_mem_run ops _⟩
  · rw [hops, after, List.foldl_append]
    exact (r.turns_after later _).total_eq hn
  · rw [knownAfter_concat, Exchange.total?_of_isRefused he, Option.or_none]

end Report

end PagedReports
