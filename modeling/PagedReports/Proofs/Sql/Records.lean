import PagedReports.Proofs.Attempts
import PagedReports.Proofs.Sql.ValueOrder

/-!
# Counts and records

A count and a listing of one selection are read off the same groups of joined rows, so a listing
that succeeds has as many records as the count says (`Listing.length_records`), in whatever order
they stand. Only a sum can fail (`Listing.records_eq_error`), and there are never more groups than
joined rows (`Selection.count_le`).
-/

namespace PagedReports.Sql

variable {db : Database} {params : List Value}

/-! ### Groups -/

theorem length_insertGroup_le (keys : List Value) (env : Env)
    (groups : List (List Value × List Env)) :
    (insertGroup keys env groups).length ≤ groups.length + 1 := by
  induction groups with
  | nil => exact Nat.le_refl _
  | cons group groups ih =>
    unfold insertGroup
    split
    · exact Nat.le_succ _
    · exact Nat.succ_le_succ ih

theorem length_groupEnvs_le (outputs : List Output) (envs : List Env) :
    (groupEnvs outputs envs).length ≤ envs.length := by
  have hfold : ∀ groups : List (List Value × List Env),
      (envs.foldl (fun groups env => insertGroup (outputs.map (·.valueIn env)) env groups)
        groups).length ≤ groups.length + envs.length := by
    induction envs with
    | nil => exact fun _ => Nat.le_refl _
    | cons env envs ih =>
      intro groups
      have hinsert := length_insertGroup_le (outputs.map (·.valueIn env)) env groups
      have hrest := ih (insertGroup (outputs.map (·.valueIn env)) env groups)
      simp only [List.foldl_cons, List.length_cons]
      omega
  have h := hfold []
  rw [List.length_nil, Nat.zero_add] at h
  rw [groupEnvs, List.length_map]
  exact h

theorem forall_mem_insertGroup {P : Env → Prop} {keys : List Value} {env : Env}
    {groups : List (List Value × List Env)} (henv : P env)
    (h : ∀ group ∈ groups, ∀ env ∈ group.2, P env) :
    ∀ group ∈ insertGroup keys env groups, ∀ env ∈ group.2, P env := by
  induction groups with
  | nil => simpa [insertGroup] using henv
  | cons group groups ih =>
    obtain ⟨hgroup, hgroups⟩ := List.forall_mem_cons.1 h
    unfold insertGroup
    split
    · refine List.forall_mem_cons.2 ⟨fun env' henv' => ?_, hgroups⟩
      rcases List.mem_append.1 henv' with hold | hnew
      · exact hgroup env' hold
      · rw [List.mem_singleton.1 hnew]
        exact henv
    · exact List.forall_mem_cons.2 ⟨hgroup, ih hgroups⟩

/-- Grouping makes no new rows. -/
theorem mem_of_mem_groupEnvs {outputs : List Output} {envs group : List Env}
    (hgroup : group ∈ groupEnvs outputs envs) {env : Env} (henv : env ∈ group) : env ∈ envs := by
  have hfold : ∀ (rest : List Env) (groups : List (List Value × List Env)),
      (∀ env ∈ rest, env ∈ envs) → (∀ group ∈ groups, ∀ env ∈ group.2, env ∈ envs) →
      ∀ group ∈ rest.foldl (fun groups env =>
        insertGroup (outputs.map (·.valueIn env)) env groups) groups,
          ∀ env ∈ group.2, env ∈ envs := by
    intro rest
    induction rest with
    | nil => exact fun _ _ h => h
    | cons env rest ih =>
      intro groups hrest h
      obtain ⟨henv, hrest⟩ := List.forall_mem_cons.1 hrest
      exact ih _ hrest (forall_mem_insertGroup henv h)
  obtain ⟨keyed, hkeyed, rfl⟩ := List.mem_map.1 hgroup
  exact hfold envs [] (fun _ h => h) (fun _ h => by cases h) keyed hkeyed env henv

/-- A selection has no more rows than its tables have joined rows. -/
theorem Selection.count_le {s : Selection} {t : Tables Term} (h : s.origin = .tables t) :
    s.count db params ≤ (t.envs db (Term.value db params) []).length := by
  have henvs : (s.envs db params).length ≤ (t.envs db (Term.value db params) []).length := by
    rw [Selection.envs, h]
    exact List.length_filter_le _ _
  unfold Selection.count Selection.groups
  cases s.groupBy with
  | none => rw [List.length_map]; exact henvs
  | some outputs => exact Nat.le_trans (length_groupEnvs_le outputs _) henvs

/-! ### Conditions -/

section Conditions

variable {α : Type}

theorem Clause.holds_atom (v : α → Option Bool) (a : α) :
    Clause.holds v [.atom a] = decide (v a = some true) :=
  Bool.beq_eq_decide_eq (v a) (some true)

theorem Clause.holds_and (v : α → Option Bool) (a b : α) :
    Clause.holds v [.atom a, .and, .atom b] = (decide (v a = some true) && v b = some true) := by
  have hread : Clause.holds v [.atom a, .and, .atom b] =
      ((Formula.and (.atom a) (.atom b)).truth v == some true) := rfl
  rw [hread, Formula.truth, Formula.truth, Formula.truth]
  rcases v a with _ | _ | _ <;> rcases v b with _ | _ | _ <;> rfl

/-- Where the joined rows stand for things, a selection keeps those that meet its condition. -/
theorem Selection.envs_of_tables {s : Selection} {t : Tables Term} (horigin : s.origin = .tables t)
    {xs : List α} {env : α → Env} (henvs : t.envs db (Term.value db params) [] = xs.map env)
    {p : α → Bool} (hp : ∀ x ∈ xs, s.condition.holds (Atom.truth db params (env x)) = p x) :
    s.envs db params = (xs.filter p).map env := by
  rw [Selection.envs, horigin]
  simp only [henvs, List.filter_map]
  exact congrArg _ (List.filter_congr hp)

end Conditions

/-- Without grouping every joined row is a row of its own. -/
theorem Selection.groups_of_envs {α : Type} {s : Selection} (hgroup : s.groupBy = none)
    {xs : List α} {env : α → Env} (henvs : s.envs db params = xs.map env) :
    s.groups db params = xs.map fun x => [env x] := by
  rw [groups, hgroup, henvs, List.map_map]
  rfl

/-! ### Queries inside a condition -/

/-- The first joined row in the order of a query inside a condition gives its value. -/
theorem Subquery.value_first {env inner : Env} {c : ColumnRef} {tables : Tables Operand}
    {conditions : List (Comparison Operand)} {order : List (ColumnRef × Direction)}
    (h : (sortByKeys (order.map Prod.snd)
      ((innerEnvs db params env tables conditions).map fun inner =>
        (order.map fun o => inner.value o.1, inner))).head? = some inner) :
    (Subquery.first c tables conditions order).value db params env = inner.value c := by
  obtain ⟨rest, hrest⟩ := List.head?_eq_some_iff.1 h
  unfold Subquery.value
  simp only [hrest]

/-! ### Records -/

theorem Sum.finish_eq_error {s : Sum} {e : DatabaseError} (h : s.finish = .error e) :
    e = .sumOverflow := by
  cases s with
  | exact n => cases h
  | rounded sum lost overflowed =>
    cases overflowed with
    | true => cases h; rfl
    | false => cases h

/-- Of all outputs only a sum can fail, where whole numbers leave the 64-bit range. -/
theorem Output.value_eq_error {o : Output} {group : List Env} {e : DatabaseError}
    (h : o.value group = .error e) : e = .sumOverflow := by
  cases o with
  | column c => cases h
  | verbatim sql => cases h
  | sum c =>
    change sumValues _ = _ at h
    unfold sumValues at h
    split at h
    · cases h
    · exact Sum.finish_eq_error h

theorem OrderTerm.value_eq_error {o : OrderTerm} {group : List Env} {e : DatabaseError}
    (h : o.value group = .error e) : e = .sumOverflow := by
  rcases o with ⟨o, d⟩ | sql
  · exact Output.value_eq_error h
  · cases h

/-- The value of an output for a group; nothing if it is a sum that fails. -/
def Output.valueOf (group : List Env) (o : Output) : Value :=
  match o.value group with
  | .ok v => v
  | .error _ => .null

/-- What a group is sorted by for a term of an order; nothing if it is a sum that fails. -/
def OrderTerm.valueOf (group : List Env) : OrderTerm → Value
  | .by o _ => o.valueOf group
  | .verbatim _ => .null

theorem Output.value_eq_ok {o : Output} {group : List Env} (h : ∃ v, o.value group = .ok v) :
    o.value group = .ok (o.valueOf group) := by
  obtain ⟨v, hv⟩ := h
  rw [valueOf, hv]

theorem OrderTerm.value_eq_ok {o : OrderTerm} {group : List Env} (h : ∃ v, o.value group = .ok v) :
    o.value group = .ok (o.valueOf group) := by
  rcases o with ⟨o, d⟩ | sql
  · exact Output.value_eq_ok h
  · rfl

namespace Listing

variable {l : Listing}

theorem keyedRecord_eq_error {group : List Env} {e : DatabaseError}
    (h : l.keyedRecord group = .error e) : e = .sumOverflow := by
  unfold keyedRecord at h
  cases hkeys : l.order.mapM (·.value group) with
  | error e' =>
    rw [hkeys] at h
    cases h
    obtain ⟨o, -, ho⟩ := mapM_eq_error hkeys
    exact OrderTerm.value_eq_error ho
  | ok keys =>
    rw [hkeys] at h
    cases hrecord : l.outputs.mapM (·.value group) with
    | error e' =>
      rw [hrecord] at h
      cases h
      obtain ⟨o, -, ho⟩ := mapM_eq_error hrecord
      exact Output.value_eq_error ho
    | ok record => rw [hrecord] at h; cases h

/-- A listing fails only where a sum of whole numbers leaves the 64-bit range. -/
theorem records_eq_error {e : DatabaseError} (h : l.records db params = .error e) :
    e = .sumOverflow := by
  unfold records at h
  cases hkeyed : (l.selection.groups db params).mapM l.keyedRecord with
  | error e' =>
    rw [hkeyed] at h
    cases h
    obtain ⟨group, -, hgroup⟩ := mapM_eq_error hkeyed
    exact keyedRecord_eq_error hgroup
  | ok keyed => rw [hkeyed] at h; cases h

/-- A listing has as many records as its selection has rows. -/
theorem length_records {records : List Record} (h : l.records db params = .ok records) :
    records.length = l.selection.count db params := by
  unfold Listing.records at h
  cases hkeyed : (l.selection.groups db params).mapM l.keyedRecord with
  | error e => rw [hkeyed] at h; cases h
  | ok keyed =>
    rw [hkeyed] at h
    cases h
    rw [length_sortByKeys, length_of_mapM hkeyed, Selection.count]

/-- Where the groups stand for things and no sum fails, the records are those of the things, in
the order of their keys. -/
theorem records_of_groups {α : Type} {xs : List α} {group : α → List Env}
    (hgroups : l.selection.groups db params = xs.map group)
    (horder : ∀ x ∈ xs, ∀ o ∈ l.order, ∃ v, o.value (group x) = .ok v)
    (houtputs : ∀ x ∈ xs, ∀ o ∈ l.outputs, ∃ v, o.value (group x) = .ok v) :
    l.records db params = .ok ((sortByKeys (l.order.map OrderTerm.direction)
      (xs.map fun x => (l.order.map (·.valueOf (group x)), x))).map fun x =>
        l.outputs.map (·.valueOf (group x))) := by
  have hkeyed : ∀ x ∈ xs, l.keyedRecord (group x) =
      .ok (l.order.map (·.valueOf (group x)), l.outputs.map (·.valueOf (group x))) := by
    intro x hx
    rw [keyedRecord, mapM_eq_map fun o ho => OrderTerm.value_eq_ok (horder x hx o ho),
      mapM_eq_map fun o ho => Output.value_eq_ok (houtputs x hx o ho)]
    rfl
  have hall : (l.selection.groups db params).mapM l.keyedRecord =
      .ok (xs.map fun x =>
        (l.order.map (·.valueOf (group x)), l.outputs.map (·.valueOf (group x)))) := by
    rw [hgroups, List.mapM_map]
    exact mapM_eq_map hkeyed
  rw [records, hall, ← sortByKeys_map, List.map_map]
  rfl

end Listing

/-! ### Listings without sums -/

/-- Whether an output is a sum. -/
def Output.isSum : Output → Bool
  | .sum _ => true
  | _ => false

/-- What a term of an order sorts a joined row by. -/
def OrderTerm.valueIn (env : Env) : OrderTerm → Value
  | .by o _ => o.valueIn env
  | .verbatim _ => .null

/-- Whether a term of an order is a sum. -/
def OrderTerm.isSum : OrderTerm → Bool
  | .by o _ => o.isSum
  | .verbatim _ => false

theorem Output.value_singleton {o : Output} (h : o.isSum = false) (env : Env) :
    o.value [env] = .ok (o.valueIn env) := by
  cases o with
  | column c => rfl
  | sum c => cases h
  | verbatim sql => rfl

theorem OrderTerm.value_singleton {o : OrderTerm} (h : o.isSum = false) (env : Env) :
    o.value [env] = .ok (o.valueIn env) := by
  rcases o with ⟨o, d⟩ | sql
  · exact Output.value_singleton h env
  · rfl

theorem Output.valueOf_singleton {o : Output} (h : o.isSum = false) (env : Env) :
    o.valueOf [env] = o.valueIn env := by
  rw [valueOf, value_singleton h]

theorem OrderTerm.valueOf_singleton {o : OrderTerm} (h : o.isSum = false) (env : Env) :
    o.valueOf [env] = o.valueIn env := by
  rcases o with ⟨o, d⟩ | sql
  · exact Output.valueOf_singleton h env
  · rfl

/-- A listing that neither groups rows nor sums them up. -/
structure Listing.Plain (l : Listing) : Prop where
  /-- Every joined row is a row of its own. -/
  groupBy : l.selection.groupBy = none
  /-- No sum is given. -/
  outputs : ∀ o ∈ l.outputs, o.isSum = false
  /-- Nothing is sorted by a sum. -/
  order : ∀ o ∈ l.order, o.isSum = false

namespace Listing.Plain

variable {l : Listing}

/-- A plain listing never fails: where its joined rows stand for things, so do the records, in the
order of their keys. -/
theorem records_of_envs (h : l.Plain) {α : Type} {xs : List α} {env : α → Env}
    {record : α → Record} (henvs : l.selection.envs db params = xs.map env)
    (hrecord : ∀ x, l.outputs.map (·.valueIn (env x)) = record x) :
    l.records db params = .ok ((sortByKeys (l.order.map OrderTerm.direction)
      (xs.map fun x => (l.order.map (·.valueIn (env x)), x))).map record) := by
  have hkeys : ∀ x, l.order.map (·.valueOf [env x]) = l.order.map (·.valueIn (env x)) :=
    fun x => List.map_congr_left fun o ho => OrderTerm.valueOf_singleton (h.order o ho) (env x)
  have hrecords : ∀ x, l.outputs.map (·.valueOf [env x]) = record x := fun x =>
    (List.map_congr_left fun o ho => Output.valueOf_singleton (h.outputs o ho) (env x)).trans
      (hrecord x)
  rw [Listing.records_of_groups (Selection.groups_of_envs h.groupBy henvs)
    (fun x _ o ho => ⟨_, OrderTerm.value_singleton (h.order o ho) (env x)⟩)
    fun x _ o ho => ⟨_, Output.value_singleton (h.outputs o ho) (env x)⟩]
  simp only [hkeys, hrecords]

end Listing.Plain

end PagedReports.Sql
