import PagedReports.Proofs.Database.Integrity

/-!
# Growing databases

Accepted inserts only ever add rows (`Database.GrowsTo`): every table of the database before them
is found in the table after them, in the same order (`GrowsTo.sublist`), so what refers to a row
keeps referring to it.
-/

namespace PagedReports

open Sql

theorem sublist_insertRow (r : Row) (rows : List Row) : rows.Sublist (insertRow r rows) := by
  calc rows
    _ = rows.takeWhile (fun other => other.id < r.id) ++
        rows.dropWhile (fun other => other.id < r.id) := List.takeWhile_append_dropWhile.symm
    List.Sublist _ (insertRow r rows) := (List.Sublist.refl _).append (List.sublist_cons_self r _)

namespace Database

/-- A database comes of another one by accepted inserts. -/
inductive GrowsTo (db : Database) : Database → Prop where
  /-- Nothing is inserted. -/
  | refl : GrowsTo db db
  /-- A row is inserted after others. -/
  | insert {db₁ db₂ : Database} {t : TableName} {fields : Fields} {id : Int64} :
    GrowsTo db db₁ → db₁.insert t fields = .ok (db₂, id) → GrowsTo db db₂

variable {db db₁ db₂ : Database}

/-- An accepted insert keeps the rows of every table. -/
theorem sublist_of_insert {t : TableName} {fields : Fields} {id : Int64}
    (h : db.insert t fields = .ok (db₁, id)) (u : TableName) :
    (db.rows u).Sublist (db₁.rows u) := by
  obtain ⟨r, -, -, -, rfl⟩ := insert_eq_ok h
  by_cases hu : u = t
  · subst hu
    rw [rows_withRows_self]
    exact sublist_insertRow r _
  · exact (rows_withRows_of_ne hu).symm ▸ List.Sublist.refl (db.rows u)

/-- Setting up a database that was set up changes nothing. -/
theorem initialise_of_initialise (h : db.initialise = .ok db₁) : db₁.initialise = .ok db₁ := by
  have hsome : db₁.categories ≠ [] := by
    unfold initialise at h
    split at h
    · rw [firstCategories, List.map_cons, insertAll, List.foldlM_cons] at h
      cases hfirst : db.insert .categories [("name", .text "Activities")] with
      | error e => rw [hfirst] at h; cases h
      | ok result =>
        obtain ⟨db', id⟩ := result
        rw [hfirst] at h
        obtain ⟨r, -, -, -, hdb'⟩ := insert_eq_ok hfirst
        have hnew : db'.categories ≠ [] := by
          refine List.ne_nil_of_mem (a := r) ?_
          change r ∈ db'.rows .categories
          rw [hdb', rows_withRows_self]
          exact List.mem_append_right _ List.mem_cons_self
        -- The categories after the first one do not take it away.
        have hkept : ∀ {db db' : Database} {t : TableName} {fields : Fields} {id : Int64},
            db.categories ≠ [] → db.insert t fields = .ok (db', id) → db'.categories ≠ [] :=
          fun hne hinsert hnil =>
            hne (List.eq_nil_of_sublist_nil (hnil ▸ sublist_of_insert hinsert .categories))
        exact insertAll_induction hkept hnew h
    · rename_i hnot
      cases h
      simpa using hnot
  rw [initialise, List.isEmpty_eq_false_iff.2 hsome]
  rfl

namespace GrowsTo

theorem trans (h : db.GrowsTo db₁) (h' : db₁.GrowsTo db₂) : db.GrowsTo db₂ := by
  induction h' with
  | refl => exact h
  | insert _ hinsert ih => exact .insert ih hinsert

theorem reached (h : db.GrowsTo db₁) (hdb : db.Reached) : db₁.Reached := by
  induction h with
  | refl => exact hdb
  | insert _ hinsert ih => exact .insert ih hinsert

theorem sound (h : db.GrowsTo db₁) (hdb : db.Sound) : db₁.Sound := by
  induction h with
  | refl => exact hdb
  | insert _ hinsert ih => exact ih.insert hinsert

/-- The rows of every table stay, in their order. -/
theorem sublist (h : db.GrowsTo db₁) (t : TableName) : (db.rows t).Sublist (db₁.rows t) := by
  induction h with
  | refl => exact .refl _
  | insert _ hinsert ih => exact ih.trans (sublist_of_insert hinsert t)

end GrowsTo

end Database

end PagedReports
