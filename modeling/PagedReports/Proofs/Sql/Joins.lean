import Mathlib.Data.List.Basic
import PagedReports.Proofs.Database.Integrity

/-!
# Joins by number

Every join of the reports asks for the row of a table with a given number (`Join.LooksUp`). In a
sound database there is at most one (`Database.numbered?`), so such a join is a look-up: a left
join makes exactly one joined row of each, an inner join at most one, and the joined rows of a
whole query are no more than the rows of its first table (`Tables.length_envs_le`).
-/

namespace PagedReports

open Sql

/-! ### Looking a row up -/

/-- The row of a table whose number is a given value. -/
def Database.numbered? (db : Database) (t : TableName) (v : Value) : Option Row :=
  (db.rows t).find? fun row => (Value.integer row.id).compare v == .eq

/-- Where at most one thing of a list qualifies, keeping what qualifies is looking for it. -/
theorem filter_eq_toList_find? {α : Type} {p : α → Bool} {xs : List α} (hnodup : xs.Nodup)
    (h : ∀ a ∈ xs, ∀ b ∈ xs, p a = true → p b = true → a = b) :
    xs.filter p = (xs.find? p).toList := by
  induction xs with
  | nil => rfl
  | cons x xs ih =>
    obtain ⟨hx, hxs⟩ := List.nodup_cons.1 hnodup
    by_cases hp : p x = true
    · have hrest : xs.filter p = [] := List.filter_eq_nil_iff.2 fun y hy hpy =>
        hx (h x List.mem_cons_self y (List.mem_cons_of_mem _ hy) hp hpy ▸ hy)
      simp [hp, hrest]
    · simp only [List.filter_cons_of_neg hp, List.find?_cons_of_neg hp]
      exact ih hxs fun a ha b hb =>
        h a (List.mem_cons_of_mem _ ha) b (List.mem_cons_of_mem _ hb)

namespace Database.Sound

variable {db : Database} (hdb : db.Sound)

include hdb

theorem filter_numbered (t : TableName) (v : Value) :
    ((db.rows t).filter fun row => (Value.integer row.id).compare v == .eq) =
      (db.numbered? t v).toList := by
  refine filter_eq_toList_find? (hdb.nodup_rows t) fun a ha b hb hpa hpb => ?_
  have hab : (Value.integer a.id).compare (.integer b.id) = .eq :=
    Std.TransCmp.eq_trans (eq_of_beq hpa) (Std.OrientedCmp.eq_symm (eq_of_beq hpb))
  exact hdb.eq_of_id_eq ha hb (Value.compare_integer_eq_iff.1 hab)

/-- A row is found under its number. -/
theorem numbered?_id {t : TableName} {r : Row} (hr : r ∈ db.rows t) :
    db.numbered? t (.integer r.id) = some r := by
  have hself : (Value.integer r.id).compare (.integer r.id) = .eq := Std.ReflCmp.compare_self
  have hmem : r ∈ (db.rows t).filter fun row =>
      (Value.integer row.id).compare (.integer r.id) == .eq :=
    List.mem_filter.2 ⟨hr, beq_iff_eq.2 hself⟩
  rw [hdb.filter_numbered] at hmem
  exact Option.mem_toList.1 hmem

end Database.Sound

/-- Nothing is no number. -/
theorem Database.numbered?_null (db : Database) (t : TableName) : db.numbered? t .null = none :=
  List.find?_eq_none.2 fun _ _ h => by cases h

namespace Sql

/-! ### Joins that look a row up -/

variable {τ : Type} {db : Database} {value : Env → τ → Value}

/-- Nothing is equal to nothing, and any other values are equal when they compare as equal. -/
theorem Relation.truth_equal_integer (n : Int64) (v : Value) :
    Relation.truth .equal (.integer n) v = some true ↔ (Value.integer n).compare v = .eq := by
  cases v with
  | null =>
    have hgt : (Value.integer n).compare .null = .gt := rfl
    simp [Relation.truth, hgt]
  | _ => simp [Relation.truth]

/-- A join that asks for the row with the number `key env`. -/
structure Join.LooksUp (value : Env → τ → Value) (j : Join τ) (key : Env → Value) : Prop where
  /-- Two values must be equal. -/
  relation : j.on.relation = .equal
  /-- One is the number of the row that is looked for. -/
  left : ∀ row env, value ((j.source, some row) :: env) j.on.left = .integer row.id
  /-- The other one does not depend on that row. -/
  right : ∀ row env, value ((j.source, some row) :: env) j.on.right = key env

namespace Join.LooksUp

variable {j : Join τ} {key : Env → Value}

theorem partners_eq (hj : j.LooksUp value key) (hdb : db.Sound) (env : Env) :
    ((db.rows j.table).filter fun row =>
        j.on.truth (value ((j.source, some row) :: env)) = some true) =
      (db.numbered? j.table (key env)).toList := by
  rw [← hdb.filter_numbered]
  refine List.filter_congr fun row _ => ?_
  rw [Comparison.truth, hj.relation, hj.left, hj.right, Bool.eq_iff_iff, decide_eq_true_iff,
    Relation.truth_equal_integer, beq_iff_eq]

/-- A left join by number makes one joined row, with or without a partner. -/
theorem extend_left (hj : j.LooksUp value key) (hdb : db.Sound) (hkind : j.kind = .left)
    (env : Env) :
    j.extend db value env = [(j.source, db.numbered? j.table (key env)) :: env] := by
  unfold Join.extend
  simp only [hj.partners_eq hdb, hkind]
  cases db.numbered? j.table (key env) <;> rfl

/-- An inner join by number makes one joined row if the number names a row, else none. -/
theorem extend_inner (hj : j.LooksUp value key) (hdb : db.Sound) (hkind : j.kind = .inner)
    (env : Env) :
    j.extend db value env =
      (db.numbered? j.table (key env)).toList.map fun row => (j.source, some row) :: env := by
  unfold Join.extend
  simp only [hj.partners_eq hdb, hkind]

/-- A join by the number of a row finds that row. -/
theorem extend_found (hj : j.LooksUp value key) (hdb : db.Sound) {row : Row}
    (hrow : row ∈ db.rows j.table) {env : Env} (hkey : key env = .integer row.id) :
    j.extend db value env = [(j.source, some row) :: env] := by
  have hfound : db.numbered? j.table (key env) = some row := by
    rw [hkey]
    exact hdb.numbered?_id hrow
  cases hkind : j.kind with
  | left => rw [hj.extend_left hdb hkind, hfound]
  | inner => rw [hj.extend_inner hdb hkind, hfound]; rfl

/-- A join by numbers of rows finds each of them. -/
theorem flatMap_extend (hj : j.LooksUp value key) (hdb : db.Sound) {α : Type} {xs : List α}
    {f : α → Env} {row : α → Row}
    (h : ∀ x ∈ xs, row x ∈ db.rows j.table ∧ key (f x) = .integer (row x).id) :
    (xs.map f).flatMap (j.extend db value) = xs.map fun x => (j.source, some (row x)) :: f x := by
  rw [List.flatMap_map, List.flatMap_congr fun x hx => hj.extend_found hdb (h x hx).1 (h x hx).2,
    ← List.map_eq_flatMap]

/-- A left join by number keeps each joined row, with what is found for it. -/
theorem flatMap_extend_left (hj : j.LooksUp value key) (hdb : db.Sound) (hkind : j.kind = .left)
    {α : Type} {xs : List α} {f : α → Env} {row : α → Option Row}
    (h : ∀ x ∈ xs, db.numbered? j.table (key (f x)) = row x) :
    (xs.map f).flatMap (j.extend db value) = xs.map fun x => (j.source, row x) :: f x := by
  rw [List.flatMap_map, List.map_eq_flatMap]
  refine List.flatMap_congr fun x hx => ?_
  rw [hj.extend_left hdb hkind, h x hx]

theorem length_extend_le (hj : j.LooksUp value key) (hdb : db.Sound) (env : Env) :
    (j.extend db value env).length ≤ 1 := by
  cases hkind : j.kind with
  | left => simp [hj.extend_left hdb hkind]
  | inner =>
    rw [hj.extend_inner hdb hkind, List.length_map]
    cases db.numbered? j.table (key env) <;> simp

end Join.LooksUp

/-! ### Whole queries -/

theorem length_flatMap_le {f : Env → List Env} (h : ∀ env, (f env).length ≤ 1) (envs : List Env) :
    (envs.flatMap f).length ≤ envs.length := by
  induction envs with
  | nil => exact Nat.le_refl _
  | cons env envs ih =>
    rw [List.flatMap_cons, List.length_append, List.length_cons]
    have := h env
    omega

theorem length_foldl_extend_le {joins : List (Join τ)} (envs : List Env)
    (h : ∀ j ∈ joins, ∀ env, (j.extend db value env).length ≤ 1) :
    (joins.foldl (fun envs j => envs.flatMap (j.extend db value)) envs).length ≤ envs.length := by
  induction joins generalizing envs with
  | nil => exact Nat.le_refl _
  | cons j joins ih =>
    exact Nat.le_trans (ih _ fun k hk => h k (List.mem_cons_of_mem _ hk))
      (length_flatMap_le (h j List.mem_cons_self) envs)

/-- Joins by number never multiply the rows of the first table. -/
theorem Tables.length_envs_le {t : Tables τ} (hdb : db.Sound) (outer : Env)
    (h : ∀ j ∈ t.joins, ∃ key, j.LooksUp value key) :
    (t.envs db value outer).length ≤ (db.rows t.table).length := by
  refine Nat.le_trans (length_foldl_extend_le _ fun j hj env => ?_) (by simp)
  obtain ⟨key, hkey⟩ := h j hj
  exact hkey.length_extend_le hdb env

end Sql

end PagedReports
