import Mathlib.Algebra.BigOperators.Group.List.Basic
import Mathlib.Algebra.GroupWithZero.Nat
import Mathlib.Algebra.Ring.Int.Defs
import Mathlib.Data.List.Nodup
import PagedReports.Proofs.Sql.Records

/-!
# Groups and their sums

Where the values that rows are grouped by tell the same rows apart as some other property of the
rows does, the groups are those of that property: one for each thing that it gives, with all rows
for which it gives it (`groupEnvs_eq`). Whatever is summed up over the groups is then summed up
over all rows (`sum_map_groups`).

The sum of whole numbers is exact as long as their sizes add up to less than 2^63
(`sumValues_integers`).
-/

namespace PagedReports.Sql

/-! ### Groups -/

section Groups

variable {α κ : Type} [DecidableEq κ]

/-- The things for which a property gives another thing. -/
def rowsOf (key : α → κ) (xs : List α) (k : κ) : List α := xs.filter (key · = k)

/-- Rows are grouped together exactly if a property gives the same for them. -/
def GroupsBy (outputs : List Output) (key : Env → κ) (envs : List Env) : Prop :=
  ∀ a ∈ envs, ∀ b ∈ envs,
    sameKeys (outputs.map (·.valueIn a)) (outputs.map (·.valueIn b)) = true ↔ key a = key b

/-- A group holds the rows for which the property gives one thing, under the values of one of
them. -/
structure IsGroup (outputs : List Output) (key : Env → κ) (envs : List Env) (k : κ)
    (group : List Value × List Env) : Prop where
  /-- The values are those of one of the rows. -/
  keys : ∃ a ∈ envs, key a = k ∧ group.1 = outputs.map (·.valueIn a)
  /-- No row is missing. -/
  rows : group.2 = rowsOf key envs k

theorem rowsOf_append (key : α → κ) (xs ys : List α) (k : κ) :
    rowsOf key (xs ++ ys) k = rowsOf key xs k ++ rowsOf key ys k :=
  List.filter_append ..

theorem rowsOf_singleton (key : α → κ) (x : α) (k : κ) :
    rowsOf key [x] k = if key x = k then [x] else [] := by
  by_cases h : key x = k <;> simp [rowsOf, h]

variable {outputs : List Output} {key : Env → κ}

/-- A row that belongs elsewhere leaves a group as it is. -/
theorem IsGroup.append_of_ne {envs : List Env} {env : Env} {k : κ}
    {group : List Value × List Env} (h : IsGroup outputs key envs k group) (hne : key env ≠ k) :
    IsGroup outputs key (envs ++ [env]) k group := by
  obtain ⟨a, ha, hk, hkeys⟩ := h.keys
  refine ⟨⟨a, List.mem_append_left _ ha, hk, hkeys⟩, ?_⟩
  rw [h.rows, rowsOf_append, rowsOf_singleton, if_neg hne, List.append_nil]

/-- A further row comes into the group that it belongs to, or into a new one. -/
theorem forall₂_insertGroup {envs : List Env} {env : Env} {ks : List κ}
    {groups : List (List Value × List Env)} (hby : GroupsBy outputs key (envs ++ [env]))
    (hks : ks.Nodup) (hnew : key env ∉ ks → rowsOf key envs (key env) = [])
    (h : List.Forall₂ (IsGroup outputs key envs) ks groups) :
    List.Forall₂ (IsGroup outputs key (envs ++ [env]))
      (if key env ∈ ks then ks else ks ++ [key env])
      (insertGroup (outputs.map (·.valueIn env)) env groups) := by
  induction h with
  | nil =>
    rw [if_neg List.not_mem_nil]
    refine .cons ⟨⟨env, by simp, rfl, rfl⟩, ?_⟩ .nil
    rw [rowsOf_append, hnew List.not_mem_nil, rowsOf_singleton, if_pos rfl, List.nil_append]
  | @cons k group ks groups hgroup hrest ih =>
    obtain ⟨hk, hks⟩ := List.nodup_cons.1 hks
    obtain ⟨a, ha, hka, hkeys⟩ := hgroup.keys
    have hsame : sameKeys group.1 (outputs.map (·.valueIn env)) = true ↔ k = key env := by
      rw [hkeys, ← hka]
      exact hby a (by simp [ha]) env (by simp)
    by_cases heq : k = key env
    · -- The row belongs to this group, and to none of the other ones.
      subst heq
      rw [if_pos List.mem_cons_self, insertGroup, if_pos (hsame.2 rfl)]
      refine .cons ⟨⟨a, by simp [ha], hka, hkeys⟩, ?_⟩ ?_
      · rw [rowsOf_append, rowsOf_singleton, if_pos rfl, hgroup.rows]
      · have hother : ∀ k' ∈ ks, key env ≠ k' := fun k' hk' heq => hk (heq ▸ hk')
        exact ((List.forall₂_and_left ks groups).2 ⟨hother, hrest⟩).imp fun _ _ h =>
          h.2.append_of_ne h.1
    · have hne : ¬sameKeys group.1 (outputs.map (·.valueIn env)) = true := mt hsame.1 heq
      have hih := ih hks fun hnot => hnew (by simp [Ne.symm heq, hnot])
      have hmem : key env ∈ k :: ks ↔ key env ∈ ks := by simp [Ne.symm heq]
      rw [insertGroup, if_neg hne]
      by_cases hin : key env ∈ ks
      · rw [if_pos (hmem.2 hin)]
        rw [if_pos hin] at hih
        exact .cons (hgroup.append_of_ne (Ne.symm heq)) hih
      · rw [if_neg (mt hmem.1 hin)]
        rw [if_neg hin] at hih
        exact .cons (hgroup.append_of_ne (Ne.symm heq)) hih

/-- The rows that a property groups form one group for each thing that it gives. -/
theorem groupEnvs_eq {envs : List Env} (hby : GroupsBy outputs key envs) :
    ∃ ks : List κ, ks.Nodup ∧ (∀ k, k ∈ ks ↔ ∃ env ∈ envs, key env = k) ∧
      groupEnvs outputs envs = ks.map (rowsOf key envs) := by
  -- What holds after each row, from any groups on.
  have hfold : ∀ (rest done : List Env) (ks : List κ) (groups : List (List Value × List Env)),
      GroupsBy outputs key (done ++ rest) → ks.Nodup →
      (∀ k, k ∈ ks ↔ ∃ env ∈ done, key env = k) →
      List.Forall₂ (IsGroup outputs key done) ks groups →
      ∃ ks' : List κ, ks'.Nodup ∧ (∀ k, k ∈ ks' ↔ ∃ env ∈ done ++ rest, key env = k) ∧
        List.Forall₂ (IsGroup outputs key (done ++ rest)) ks'
          (rest.foldl (fun groups env => insertGroup (outputs.map (·.valueIn env)) env groups)
            groups) := by
    intro rest
    induction rest with
    | nil =>
      intro done ks groups _ hks hmem hgroups
      rw [List.append_nil]
      exact ⟨ks, hks, hmem, hgroups⟩
    | cons env rest ih =>
      intro done ks groups hby hks hmem hgroups
      rw [← List.singleton_append, ← List.append_assoc] at hby ⊢
      have hbyStart : GroupsBy outputs key (done ++ [env]) := fun a ha b hb =>
        hby a (List.mem_append_left _ ha) b (List.mem_append_left _ hb)
      have hnew : key env ∉ ks → rowsOf key done (key env) = [] := fun hnot =>
        List.filter_eq_nil_iff.2 fun a ha hka =>
          hnot ((hmem _).2 ⟨a, ha, of_decide_eq_true hka⟩)
      refine ih _ _ _ hby ?_ (fun k => ?_) (forall₂_insertGroup hbyStart hks hnew hgroups)
      · split
        · exact hks
        · rename_i hnot
          exact List.nodup_append.2 ⟨hks, List.pairwise_singleton _ _,
            fun k hk k' hk' heq => hnot (List.mem_singleton.1 hk' ▸ heq ▸ hk)⟩
      · have hcover : (∃ a ∈ done ++ [env], key a = k) ↔ k ∈ ks ∨ key env = k := by
          rw [hmem]
          simp [or_and_right, exists_or]
        rw [hcover]
        split
        · rename_i hin
          exact ⟨.inl, fun h => h.elim id fun heq => heq ▸ hin⟩
        · simp [eq_comm]
  obtain ⟨ks, hks, hmem, hgroups⟩ := hfold envs [] [] [] hby .nil (by simp) .nil
  refine ⟨ks, hks, hmem, ?_⟩
  have hrows := hgroups.imp fun _ _ h => h.rows
  rw [groupEnvs, ← List.forall₂_eq_eq_eq, List.forall₂_map_left_iff, List.forall₂_map_right_iff]
  exact hrows.flip

/-- What is summed up over the groups is summed up over all rows. -/
theorem sum_map_groups {key : α → κ} {xs : List α} {ks : List κ} (hks : ks.Nodup)
    (hmem : ∀ x ∈ xs, key x ∈ ks) (f : α → Int) :
    (ks.map fun k => ((rowsOf key xs k).map f).sum).sum = (xs.map f).sum := by
  induction xs with
  | nil => simp [rowsOf]
  | cons x xs ih =>
    obtain ⟨hx, hxs⟩ := List.forall_mem_cons.1 hmem
    let g := fun k => ((rowsOf key xs k).map f).sum
    have hrow : ∀ k, ((rowsOf key (x :: xs) k).map f).sum =
        if k = key x then f x + g k else g k := by
      intro k
      rw [← List.singleton_append, rowsOf_append, rowsOf_singleton]
      by_cases h : key x = k
      · simp [h, g]
      · simp [h, Ne.symm h, g]
    simp only [hrow]
    rw [List.sum_map_ite_eq, List.count_eq_one_of_mem hks hx, one_nsmul, add_sub_cancel_right,
      List.map_cons, List.sum_cons, ← ih hxs]

end Groups

/-! ### Sums -/

/-- A sum of whole numbers is exact while their sizes fit. -/
theorem foldl_add_exact {ns : List Int64} {a : Int64}
    (h : a.toInt.natAbs + (ns.map fun n => n.toInt.natAbs).sum < 0x8000000000000000) :
    ∃ b, (ns.map Value.integer).foldl Sum.add (.exact a) = .exact b ∧
      b.toInt = a.toInt + (ns.map Int64.toInt).sum := by
  induction ns generalizing a with
  | nil => exact ⟨a, rfl, by simp⟩
  | cons n ns ih =>
    simp only [List.map_cons, List.sum_cons] at h
    have hfits : -0x8000000000000000 ≤ a.toInt + n.toInt ∧
        a.toInt + n.toInt < 0x8000000000000000 := by omega
    have hsum : (Int64.ofInt (a.toInt + n.toInt)).toInt = a.toInt + n.toInt :=
      Int64.toInt_ofInt_of_le hfits.1 hfits.2
    have hstep : Sum.add (.exact a) (.integer n) = .exact (Int64.ofInt (a.toInt + n.toInt)) := by
      simp only [Sum.add, Text.signed?, if_pos hfits]
    obtain ⟨b, hb, hbsum⟩ := @ih (Int64.ofInt (a.toInt + n.toInt)) (by rw [hsum]; omega)
    refine ⟨b, ?_, ?_⟩
    · rw [List.map_cons, List.foldl_cons, hstep, hb]
    · rw [hbsum, hsum, List.map_cons, List.sum_cons]
      omega

/-- The sum of some whole numbers whose sizes fit is their sum. -/
theorem sumValues_integers {ns : List Int64} (hne : ns ≠ [])
    (h : (ns.map fun n => n.toInt.natAbs).sum < 0x8000000000000000) :
    ∃ b : Int64, sumValues (ns.map Value.integer) = .ok (.integer b) ∧
      b.toInt = (ns.map Int64.toInt).sum := by
  obtain ⟨b, hb, hsum⟩ := @foldl_add_exact ns 0 (by simpa using h)
  refine ⟨b, ?_, by simpa using hsum⟩
  have hsome : (ns.map Value.integer).all (· == .null) = false := by
    obtain ⟨n, ns, rfl⟩ := List.exists_cons_of_ne_nil hne
    rfl
  rw [sumValues, hsome, hb]
  rfl

end PagedReports.Sql
