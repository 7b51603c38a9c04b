import PagedReports.Database.Insert
import PagedReports.Proofs.Sql.ValueOrder

/-!
# Integrity of reachable databases

The databases that a directory can come to hold start from the first categories and grow by
accepted inserts (`Reached`). An insert is accepted exactly when no rule objects to its row, and
the rules are those of `Database.Sound`: so every reachable database is sound (`Reached.sound`),
and in a sound database a number names at most one row of a table, which is what the joins of the
reports rest on.
-/

namespace PagedReports

open Sql

/-! ### Placing a row -/

theorem insertRow_cons (r x : Row) (xs : List Row) :
    insertRow r (x :: xs) = if x.id < r.id then x :: insertRow r xs else r :: x :: xs := by
  by_cases h : x.id < r.id <;> simp [insertRow, h]

theorem insertRow_perm (r : Row) (rows : List Row) : (insertRow r rows).Perm (r :: rows) := by
  unfold insertRow
  refine List.perm_middle.trans (.cons r ?_)
  rw [List.takeWhile_append_dropWhile]

theorem mem_insertRow {r x : Row} {rows : List Row} : x ∈ insertRow r rows ↔ x = r ∨ x ∈ rows := by
  rw [(insertRow_perm r rows).mem_iff, List.mem_cons]

theorem ordered_insertRow {r : Row} {rows : List Row} (h : Ordered rows)
    (hr : ∀ x ∈ rows, x.id ≠ r.id) : Ordered (insertRow r rows) := by
  induction rows with
  | nil => exact List.pairwise_singleton _ r
  | cons x xs ih =>
    obtain ⟨hx, hxs⟩ := List.pairwise_cons.1 h
    rw [insertRow_cons]
    split
    · rename_i hlt
      have hrest := ih hxs fun y hy => hr y (List.mem_cons_of_mem _ hy)
      refine List.pairwise_cons.2 ⟨fun y hy => ?_, hrest⟩
      rcases mem_insertRow.1 hy with rfl | hy
      · exact hlt
      · exact hx y hy
    · rename_i hge
      have hlt : r.id < x.id :=
        Int64.lt_of_le_of_ne (Int64.not_lt.1 hge) (hr x List.mem_cons_self).symm
      refine List.pairwise_cons.2 ⟨fun y hy => ?_, h⟩
      rcases List.mem_cons.1 hy with rfl | hy
      · exact hlt
      · exact Int64.lt_trans hlt (hx y hy)

/-! ### What an accepted insert did -/

theorem agree_eq_false_iff {columns : List String} {a b : Row} :
    agree columns a b = false ↔ ¬Agree columns a b := by
  rw [← Bool.not_eq_true, agree, List.all_eq_true]
  simp [Agree]

theorem Agree.symm {columns : List String} {a b : Row} (h : Agree columns a b) :
    Agree columns b a := fun c hc => Std.OrientedCmp.eq_symm (h c hc)

/-- A row that no rule objects to keeps to its table's schema. -/
theorem objection?_eq_none {db : Database} {t : TableName} {r : Row}
    (h : db.objection? t r = none) :
    Complete t.schema r ∧ (∀ x ∈ db.rows t, x.id ≠ r.id) ∧
      (∀ columns ∈ t.schema.uniques, ∀ x ∈ db.rows t, ¬Agree columns x r) ∧
      Grounded db t.schema r := by
  unfold Database.objection? at h
  split at h
  · cases h
  rename_i hcomplete
  split at h
  · cases h
  rename_i hid
  split at h
  · cases h
  rename_i hunique
  split at h
  · rename_i href
    clear h
    refine ⟨fun c hc hreq hnull => ?_, fun x hx heq => ?_, fun columns hcs x hx hagree => ?_,
      fun ref hr hne => ?_⟩
    · have := List.find?_eq_none.1 hcomplete c hc
      simp [hreq, hnull] at this
    · exact hid (List.any_eq_true.2 ⟨x, hx, by simpa using heq⟩)
    · have := List.find?_eq_none.1 hunique columns hcs
      simp only [List.any_eq_true, not_exists, not_and, Bool.not_eq_true] at this
      exact agree_eq_false_iff.1 (this x hx) hagree
    · have := List.all_eq_true.1 href ref hr
      unfold isGrounded at this
      split at this
      · rename_i hnull
        exact absurd hnull hne
      · rename_i n hn
        obtain ⟨target, htarget, hid⟩ := List.any_eq_true.1 this
        exact ⟨target, htarget, by rw [hn, of_decide_eq_true hid]⟩
      · cases this
  · cases h

/-- An accepted insert adds one row, of the values that the columns take in, that no rule objects
to, and changes nothing else. -/
theorem insert_eq_ok {db db' : Database} {t : TableName} {fields : Fields} {id : Int64}
    (h : db.insert t fields = .ok (db', id)) :
    ∃ r : Row, r.id = id ∧ r.cells = (t.schema.columns.map fun c => (c.name, c.take fields)) ∧
      db.objection? t r = none ∧ db' = db.withRows t (insertRow r (db.rows t)) := by
  unfold Database.insert at h
  split at h
  · cases h
  split at h
  · cases h
  simp only at h
  split at h
  · cases h
  rename_i hnone
  cases h
  exact ⟨_, rfl, rfl, hnone, rfl⟩

/-! ### Every reachable database is sound -/

theorem mem_rows_insertRow {db : Database} {t u : TableName} {r x : Row} :
    x ∈ (db.withRows t (insertRow r (db.rows t))).rows u ↔ (u = t ∧ x = r) ∨ x ∈ db.rows u := by
  by_cases h : u = t
  · subst h
    simp [mem_insertRow]
  · simp [Database.rows_withRows_of_ne h, h]

/-- A row that no rule objects to leaves a sound database sound. -/
theorem Database.Sound.insertRow {db : Database} (hdb : db.Sound) {t : TableName} {r : Row}
    (h : db.objection? t r = none) : (db.withRows t (insertRow r (db.rows t))).Sound := by
  obtain ⟨hcomplete, hid, hunique, hground⟩ := objection?_eq_none h
  have grows : ∀ {u x}, Grounded db u x →
      Grounded (db.withRows t (PagedReports.insertRow r (db.rows t))) u x := by
    intro u x hx ref href hne
    obtain ⟨target, htarget, heq⟩ := hx ref href hne
    exact ⟨target, mem_rows_insertRow.2 (.inr htarget), heq⟩
  refine ⟨fun u => ?_, fun u x hx => ?_, fun u columns hcs => ?_, fun u x hx => ?_⟩
  · by_cases hu : u = t
    · subst hu
      rw [rows_withRows_self]
      exact ordered_insertRow (hdb.ordered u) hid
    · rw [rows_withRows_of_ne hu]
      exact hdb.ordered u
  · rcases mem_rows_insertRow.1 hx with ⟨rfl, rfl⟩ | hx
    · exact hcomplete
    · exact hdb.complete u x hx
  · by_cases hu : u = t
    · subst hu
      rw [rows_withRows_self]
      have hcons : (r :: db.rows u).Pairwise fun a b => ¬Agree columns a b :=
        List.pairwise_cons.2 ⟨fun x hx hagree => hunique columns hcs x hx hagree.symm,
          hdb.distinguished u columns hcs⟩
      exact hcons.perm (insertRow_perm r _).symm fun hab hba => hab hba.symm
    · rw [rows_withRows_of_ne hu]
      exact hdb.distinguished u columns hcs
  · rcases mem_rows_insertRow.1 hx with ⟨rfl, rfl⟩ | hx
    · exact grows hground
    · exact grows (hdb.grounded u x hx)

theorem Database.Sound.insert {db db' : Database} (hdb : db.Sound) {t : TableName}
    {fields : Fields} {id : Int64} (h : db.insert t fields = .ok (db', id)) : db'.Sound := by
  obtain ⟨r, -, -, hr, rfl⟩ := insert_eq_ok h
  exact hdb.insertRow hr

/-- What every accepted insert keeps holds after all of them. -/
theorem Database.insertAll_induction {Inv : Database → Prop}
    (step : ∀ {db db' : Database} {t : TableName} {fields : Fields} {id : Int64},
      Inv db → db.insert t fields = .ok (db', id) → Inv db')
    {db db' : Database} (hdb : Inv db) {rows : List (TableName × Fields)}
    (h : db.insertAll rows = .ok db') : Inv db' := by
  induction rows generalizing db with
  | nil => cases h; exact hdb
  | cons row rows ih =>
    simp only [Database.insertAll, List.foldlM_cons] at h ih
    cases hrow : db.insert row.1 row.2 with
    | error e => rw [hrow] at h; cases h
    | ok result =>
      rw [hrow] at h
      exact ih (step hdb hrow) h

/-- The databases that a directory can come to hold: the first categories in an otherwise empty
database, and then whatever inserts are accepted. -/
inductive Database.Reached : Database → Prop where
  /-- The first categories are written into an empty database. -/
  | initialised {db : Database} : Database.empty.initialise = .ok db → Reached db
  /-- An insert is accepted. -/
  | insert {db db' : Database} {t : TableName} {fields : Fields} {id : Int64} :
    Reached db → db.insert t fields = .ok (db', id) → Reached db'

/-- **Every reachable database is sound.** -/
theorem Database.Reached.sound {db : Database} (h : db.Reached) : db.Sound := by
  induction h with
  | initialised h =>
    exact insertAll_induction (fun hdb hrow => hdb.insert hrow) Database.sound_empty h
  | insert _ h ih => exact ih.insert h

/-- A new directory after some inserts; without any rows if one of them is refused. -/
def Database.founded (rows : List (TableName × Fields)) : Database :=
  match Database.empty.initialise.bind (·.insertAll rows) with
  | .ok db => db
  | .error _ => .empty

theorem Database.reached_founded {rows : List (TableName × Fields)}
    (h : (Database.empty.initialise.bind (·.insertAll rows)).isOk = true) :
    (founded rows).Reached := by
  unfold founded
  cases hnew : Database.empty.initialise with
  | error e => rw [hnew] at h; cases h
  | ok db =>
    rw [hnew] at h
    simp only [Except.bind] at h ⊢
    cases hrows : db.insertAll rows with
    | error e => rw [hrows] at h; cases h
    | ok db' => exact insertAll_induction Database.Reached.insert (.initialised hnew) hrows

/-! ### Numbers name rows -/

namespace Database.Sound

variable {db : Database} (hdb : db.Sound)

include hdb

theorem eq_of_id_eq {t : TableName} {a b : Row} (ha : a ∈ db.rows t) (hb : b ∈ db.rows t)
    (h : a.id = b.id) : a = b := by
  have hpair : (db.rows t).Pairwise fun a b => a.id = b.id → a = b :=
    (hdb.ordered t).imp fun hlt heq => absurd heq (Int64.ne_of_lt hlt)
  exact hpair.forall_of_forall_of_flip (fun _ _ _ => rfl)
    (hpair.imp fun hab heq => (hab heq.symm).symm) ha hb h

/-- Rows that agree on columns that tell rows apart are the same. -/
theorem eq_of_agree {t : TableName} {columns : List String} (hcolumns : columns ∈ t.schema.uniques)
    {a b : Row} (ha : a ∈ db.rows t) (hb : b ∈ db.rows t) (h : Agree columns a b) : a = b := by
  have hpair : (db.rows t).Pairwise fun a b => Agree columns a b → a = b :=
    (hdb.distinguished t columns hcolumns).imp fun hapart hagree => absurd hagree hapart
  exact hpair.forall_of_forall_of_flip (fun _ _ _ => rfl)
    (hpair.imp fun hab hba => (hab hba.symm).symm) ha hb h

theorem nodup_rows (t : TableName) : (db.rows t).Nodup :=
  (hdb.ordered t).imp fun hlt heq => Int64.ne_of_lt hlt (congrArg Row.id heq)

/-- A required reference of a row leads to a row. -/
theorem reference {t : TableName} {r : Row} (hr : r ∈ db.rows t) (column : String) (u : TableName)
    (href : (column, u) ∈ t.schema.references)
    (hreq : ∃ c ∈ t.schema.columns, c.name = column ∧ c.required = true) :
    ∃ target ∈ db.rows u, r.value column = .integer target.id := by
  obtain ⟨c, hc, rfl, hrequired⟩ := hreq
  exact hdb.grounded t r hr _ href (hdb.complete t r hr c hc hrequired)

end Database.Sound

end PagedReports
