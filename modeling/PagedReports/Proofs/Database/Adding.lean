import PagedReports.Proofs.Attempts
import PagedReports.Proofs.Database.Growing
import PagedReports.Proofs.Database.Numbering

/-!
# Adding rows

Fields that suit a table (`Database.Takes`) become a row of it with a new number, just as they are,
unless they agree with a row on columns that tell rows apart (`Database.Takes.settles_insert`). So
fields that do not agree with each other are added all together, and each table keeps the rows that
it had, or they are refused because one of them agrees with a row that was there before
(`settles_insertMany`). This is said once more for one table after another, as the rows of each make
a list of their own (`Database.Gains.settles_insertMany`).
-/

namespace PagedReports

open Sql

/-! ### Suitable fields -/

namespace Database

/-- Fields suit a table: it takes them in as they are, none of them is empty, and references lead to
rows. -/
structure Takes (db : Database) (t : TableName) (fields : Fields) : Prop where
  /-- They are taken in as they are. -/
  cells : (t.schema.columns.map fun c => (c.name, c.take fields)) = fields
  /-- Each holds something. -/
  filled : ∀ f ∈ fields, f.2 ≠ .null
  /-- References lead to rows. -/
  grounded : ∀ ref ∈ t.schema.references, ∃ target ∈ db.rows ref.2,
    fields.lookup ref.1 = some (.integer target.id)

end Database

/-- No column is called like the number of a row. -/
theorem TableName.name_ne_id (t : TableName) : ∀ c ∈ t.schema.columns, c.name ≠ "id" := by
  cases t <;> decide

theorem TableName.reference_ne_id (t : TableName) : ∀ ref ∈ t.schema.references, ref.1 ≠ "id" := by
  cases t <;> decide

/-- A row holds its cells. -/
theorem Row.value_of_ne {r : Row} {column : String} (h : column ≠ "id") :
    r.value column = (r.cells.lookup column).getD .null := if_neg h

namespace Database.Takes

variable {db db' : Database} {t : TableName} {fields : Fields} (h : db.Takes t fields)

include h

theorem map_fst : fields.map Prod.fst = t.schema.columns.map ColumnSpec.name := by
  have hnames := congrArg (List.map Prod.fst) h.cells
  rw [List.map_map] at hnames
  exact hnames.symm

theorem ne_id {f : String × Value} (hf : f ∈ fields) : f.1 ≠ "id" := by
  have hname : f.1 ∈ fields.map Prod.fst := List.mem_map_of_mem hf
  rw [h.map_fst] at hname
  obtain ⟨c, hc, heq⟩ := List.mem_map.1 hname
  rw [← heq]
  exact t.name_ne_id c hc

theorem unknownColumn?_eq_none : unknownColumn? t fields = none := by
  rw [unknownColumn?, Option.map_eq_none_iff, List.find?_eq_none]
  intro f hf hunknown
  rw [Bool.and_eq_true, List.all_eq_true] at hunknown
  have hname : f.1 ∈ fields.map Prod.fst := List.mem_map_of_mem hf
  rw [h.map_fst] at hname
  obtain ⟨c, hc, heq⟩ := List.mem_map.1 hname
  exact absurd heq (of_decide_eq_true (hunknown.2 c hc))

theorem takeId_eq (rows : List Row) : takeId rows fields = .ok (nextId rows) := by
  have hnone : fields.lookup "id" = none := by
    rw [List.lookup_eq_none_iff]
    intro f hf
    exact bne_iff_ne.2 (h.ne_id hf).symm
  rw [takeId, hnone]
  rfl

theorem complete (id : Int64) : Complete t.schema ⟨id, fields⟩ := by
  intro c hc _
  have hname : c.name ∈ fields.map Prod.fst := h.map_fst ▸ List.mem_map_of_mem hc
  rw [Row.value_of_ne (t.name_ne_id c hc)]
  cases hlookup : fields.lookup c.name with
  | none =>
    obtain ⟨f, hf, heq⟩ := List.mem_map.1 hname
    have hne := List.lookup_eq_none_iff.1 hlookup f hf
    exact absurd heq.symm (bne_iff_ne.1 hne)
  | some v =>
    obtain ⟨before, after, hsplit, -⟩ := List.lookup_eq_some_iff.1 hlookup
    exact h.filled (c.name, v) (by rw [hsplit]; simp)

theorem isGrounded (id : Int64) :
    t.schema.references.all (isGrounded db ⟨id, fields⟩) = true := by
  rw [List.all_eq_true]
  intro ref href
  obtain ⟨target, htarget, hvalue⟩ := h.grounded ref href
  have hvalue' : (⟨id, fields⟩ : Row).value ref.1 = .integer target.id := by
    rw [Row.value_of_ne (t.reference_ne_id ref href), hvalue]
    rfl
  simp only [PagedReports.isGrounded, hvalue']
  exact List.any_eq_true.2 ⟨target, htarget, decide_eq_true rfl⟩

/-- Suitable fields are refused only for columns that tell rows apart. -/
theorem objection?_eq {id : Int64} (hid : ∀ x ∈ db.rows t, x.id ≠ id) :
    db.objection? t ⟨id, fields⟩ =
      (t.schema.uniques.find? fun columns => (db.rows t).any (agree columns · ⟨id, fields⟩)).map
        (.notUnique t.sql) := by
  have hcomplete : (t.schema.columns.find? fun c =>
      c.required && (⟨id, fields⟩ : Row).value c.name == .null) = none := by
    rw [List.find?_eq_none]
    intro c hc hmissing
    rw [Bool.and_eq_true, beq_iff_eq] at hmissing
    exact h.complete id c hc hmissing.1 hmissing.2
  have hfree : ((db.rows t).any fun other => other.id = (⟨id, fields⟩ : Row).id) = false := by
    rw [List.any_eq_false]
    exact fun x hx heq => hid x hx (of_decide_eq_true heq)
  unfold objection?
  rw [hcomplete]
  simp only [hfree, h.isGrounded id, Bool.false_eq_true, if_false, if_true]
  cases t.schema.uniques.find? fun columns => (db.rows t).any (agree columns · ⟨id, fields⟩) <;> rfl

/-- Suitable fields become a row with a new number, unless a row agrees with them on columns that
tell rows apart, or no number is left. -/
theorem settles_insert (hdb : db.Sound) :
    Settles (db.insert t fields)
      (fun result => ∃ r : Row, r.cells = fields ∧ result.2 = r.id ∧
        result.1 = db.withRows t (insertRow r (db.rows t)))
      fun e => (∃ columns ∈ t.schema.uniques, e = .notUnique t.sql columns ∧
          ∃ x ∈ db.rows t, ∃ id, Agree columns x ⟨id, fields⟩) ∨
        0x10000000000000000 ≤ (db.rows t).length := by
  by_cases hroom : (db.rows t).length < 0x10000000000000000
  · have hid := nextId_ne (hdb.ordered t) hroom
    simp only [Database.insert, h.unknownColumn?_eq_none, h.takeId_eq, h.cells, h.objection?_eq hid]
    cases hfind : t.schema.uniques.find? fun columns =>
        (db.rows t).any (agree columns · ⟨nextId (db.rows t), fields⟩) with
    | none => exact ⟨⟨nextId (db.rows t), fields⟩, rfl, rfl, rfl⟩
    | some columns =>
      have hany := List.find?_some hfind
      obtain ⟨x, hx, hagree⟩ := List.any_eq_true.1 hany
      refine .inl ⟨columns, List.mem_of_find?_eq_some hfind, rfl, x, hx, nextId (db.rows t), ?_⟩
      by_contra hapart
      rw [agree_eq_false_iff.2 hapart] at hagree
      cases hagree
  · cases hinsert : db.insert t fields with
    | error e => exact .inr (Nat.not_lt.1 hroom)
    | ok result =>
      obtain ⟨db', id⟩ := result
      obtain ⟨r, hid, hcells, -, hdb'⟩ := insert_eq_ok hinsert
      exact ⟨r, hcells.trans h.cells, hid.symm, hdb'⟩

/-- Fields still suit a table when rows have come to the database. -/
theorem mono (hrows : ∀ u, ∀ r ∈ db.rows u, r ∈ db'.rows u) : db'.Takes t fields := by
  refine ⟨h.cells, h.filled, fun ref href => ?_⟩
  obtain ⟨target, htarget, hvalue⟩ := h.grounded ref href
  exact ⟨target, hrows _ target htarget, hvalue⟩

end Database.Takes

/-! ### Many rows -/

/-- Of two lists of fields, each makes a row of a table of its own. -/
def Apart (t : TableName) (fields fields' : Fields) : Prop :=
  ∀ columns ∈ t.schema.uniques, ∀ id id', ¬Agree columns ⟨id, fields⟩ ⟨id', fields'⟩

/-- A database comes of another one by rows that are added to a table. -/
structure Database.Adds (db : Database) (t : TableName) (added : List Row) (db' : Database) :
    Prop where
  /-- The table has the rows that it had, and those that are added. -/
  perm : (db'.rows t).Perm (db.rows t ++ added)
  /-- The other tables are as they were. -/
  same : ∀ u, u ≠ t → db'.rows u = db.rows u
  /-- The rows were accepted. -/
  grows : db.GrowsTo db'

variable {db : Database} {t : TableName}

/-- A row that is added first stands for one more that is added. -/
theorem Database.Adds.cons {db db₁ db₂ : Database} {r : Row} {fields : Fields} {added : List Row}
    (hinsert : db.insert t fields = .ok (db₁, r.id))
    (hdb₁ : db₁ = db.withRows t (insertRow r (db.rows t))) (h : db₁.Adds t added db₂) :
    db.Adds t (r :: added) db₂ := by
  refine ⟨?_, fun u hu => ?_, .trans (.insert .refl hinsert) h.grows⟩
  · calc (db₂.rows t).Perm (db₁.rows t ++ added) := h.perm
      List.Perm _ (r :: db.rows t ++ added) := by
        rw [hdb₁, rows_withRows_self]
        exact (insertRow_perm r _).append_right added
      List.Perm _ (db.rows t ++ r :: added) := List.perm_middle.symm
  · rw [h.same u hu, hdb₁, rows_withRows_of_ne hu]

theorem insertMany_cons (db : Database) (t : TableName) (f : Fields) (fs : List Fields) :
    db.insertMany t (f :: fs) = db.insert t f >>= fun first =>
      first.1.insertMany t fs >>= fun rest => .ok (rest.1, first.2 :: rest.2) := by
  rw [Database.insertMany]
  cases db.insert t f with
  | error e => rfl
  | ok first =>
    obtain ⟨db₁, id⟩ := first
    cases hrest : db₁.insertMany t fs <;> simp [bind, Except.bind, Except.map, hrest]

/-- Suitable fields that make rows of their own are added all together, or one of them agrees with
a row that was there before, or no number is left. -/
theorem settles_insertMany (hdb : db.Sound) {fs : List Fields} (htakes : ∀ f ∈ fs, db.Takes t f)
    (hapart : fs.Pairwise (Apart t)) :
    Settles (db.insertMany t fs)
      (fun result => ∃ added : List Row, added.map Row.cells = fs ∧
        result.2 = added.map Row.id ∧ db.Adds t added result.1)
      fun e => (∃ f ∈ fs, ∃ columns ∈ t.schema.uniques, e = .notUnique t.sql columns ∧
          ∃ x ∈ db.rows t, ∃ id, Agree columns x ⟨id, f⟩) ∨
        0x10000000000000000 ≤ (db.rows t).length + fs.length := by
  induction fs generalizing db with
  | nil => exact ⟨[], rfl, rfl, .of_eq (List.append_nil _).symm, fun _ _ => rfl, .refl⟩
  | cons f fs ih =>
    obtain ⟨hf, hfs⟩ := List.forall_mem_cons.1 htakes
    obtain ⟨hfirst, hrest⟩ := List.pairwise_cons.1 hapart
    rw [insertMany_cons, settles_bind]
    have hinsert := hf.settles_insert hdb
    cases hresult : db.insert t f with
    | error e =>
      rw [hresult] at hinsert
      rcases hinsert with ⟨columns, hcolumns, he, hx⟩ | hcrowded
      · exact .inl ⟨f, List.mem_cons_self, columns, hcolumns, he, hx⟩
      · exact .inr (Nat.le_trans hcrowded (Nat.le_add_right _ _))
    | ok result =>
      obtain ⟨db₁, id⟩ := result
      rw [hresult] at hinsert
      obtain ⟨r, rfl, hid, hdb₁⟩ := hinsert
      simp only at hid hdb₁
      subst hid
      have hrows : ∀ x ∈ db₁.rows t, x = r ∨ x ∈ db.rows t := by
        rw [hdb₁, Database.rows_withRows_self]
        exact fun x => mem_insertRow.1
      have hlength : (db₁.rows t).length = (db.rows t).length + 1 := by
        rw [hdb₁, Database.rows_withRows_self]
        exact (insertRow_perm r _).length_eq
      have htakes₁ : ∀ g ∈ fs, db₁.Takes t g := fun g hg =>
        (hfs g hg).mono fun u => (Database.sublist_of_insert hresult u).subset
      refine settles_bind.2 ((ih (hdb.insert hresult) htakes₁ hrest).imp ?_ ?_)
      · rintro ⟨db₂, ids⟩ ⟨added, rfl, hids, hadds⟩
        simp only at hids hadds
        subst hids
        exact ⟨r :: added, rfl, rfl, hadds.cons hresult hdb₁⟩
      · rintro e (⟨g, hg, columns, hcolumns, he, x, hx, id, hagree⟩ | hcrowded)
        · rcases hrows x hx with rfl | hx
          · exact absurd hagree (hfirst g hg columns hcolumns x.id id)
          · exact .inl ⟨g, List.mem_cons_of_mem _ hg, columns, hcolumns, he, x, hx, id, hagree⟩
        · rw [hlength] at hcrowded
          rw [List.length_cons]
          exact .inr (by omega)

/-! ### Table after table -/

/-- Rows that hold parts of the members of a list name the rows of these members. -/
theorem map_parts {α β : Type} (xs : List α) (rows : List Row) (parts : α → List β)
    (fields : α → Int64 → β → Fields) :
    ((xs.zip (rows.map Row.id)).flatMap fun e => (parts e.1).map (fields e.1 e.2)) =
      ((xs.zip rows).flatMap fun e => (parts e.1).map (e, ·)).map
        fun y => fields y.1.1 y.1.2.id y.2 := by
  rw [List.zip_map_right, List.flatMap_map, List.map_flatMap]
  simp only [List.map_map]
  rfl

/-- A database has come of another one by rows that were added to its tables. -/
structure Database.Gains (db : Database) (added : TableName → List Row) (db' : Database) :
    Prop where
  /-- Each table has the rows that it had, and those that were added. -/
  perm : ∀ u, (db'.rows u).Perm (db.rows u ++ added u)
  /-- The rows were accepted. -/
  grows : db.GrowsTo db'

namespace Database.Gains

variable {db db₁ db₂ : Database} {t : TableName} {added : TableName → List Row} {rs : List Row}

theorem none (db : Database) : db.Gains (fun _ => []) db :=
  ⟨fun _ => .of_eq (List.append_nil _).symm, .refl⟩

theorem mem (h : db.Gains added db₁) {r : Row} (hr : r ∈ added t) : r ∈ db₁.rows t :=
  (h.perm t).mem_iff.2 (List.mem_append_right _ hr)

/-- The rows that were there and those that were added have different numbers. -/
theorem pairwise_ne (h : db.Gains added db₁) (hdb : db.Sound) (t : TableName) :
    (db.rows t ++ added t).Pairwise fun a b => a.id ≠ b.id := by
  have hne : (db₁.rows t).Pairwise fun a b => a.id ≠ b.id :=
    ((h.grows.sound hdb).ordered t).imp Int64.ne_of_lt
  exact hne.perm (h.perm t) fun hab => hab.symm

/-- Rows are added to a table that gained none. -/
theorem adds (h : db.Gains added db₁) (hnone : added t = []) (hadds : db₁.Adds t rs db₂) :
    db.Gains (Function.update added t rs) db₂ := by
  refine ⟨fun u => ?_, h.grows.trans hadds.grows⟩
  by_cases hu : u = t
  · subst hu
    have hkept := h.perm u
    rw [hnone, List.append_nil] at hkept
    rw [Function.update_self]
    exact hadds.perm.trans (hkept.append_right rs)
  · rw [Function.update_of_ne hu, hadds.same u hu]
    exact h.perm u

/-- Suitable fields for the members of a list become the rows of a table that gained none. -/
theorem settles_insertMany {α : Type} {xs : List α} {fields : α → Fields} {P : α → Row → Prop}
    (h : db.Gains added db₁) (hdb : db.Sound) (hnone : added t = [])
    (htakes : ∀ x ∈ xs, db₁.Takes t (fields x)) (hapart : (xs.map fields).Pairwise (Apart t))
    (hP : ∀ x ∈ xs, ∀ r : Row, r.cells = fields x → P x r) :
    Settles (db₁.insertMany t (xs.map fields))
      (fun result => ∃ rs : List Row, result.2 = rs.map Row.id ∧ List.Forall₂ P xs rs ∧
        db.Gains (Function.update added t rs) result.1)
      fun e => (∃ x ∈ xs, ∃ columns ∈ t.schema.uniques, e = .notUnique t.sql columns ∧
          ∃ r ∈ db.rows t, ∃ id, Agree columns r ⟨id, fields x⟩) ∨
        0x10000000000000000 ≤ (db.rows t).length + xs.length := by
  have hkept := h.perm t
  rw [hnone, List.append_nil] at hkept
  refine (PagedReports.settles_insertMany (h.grows.sound hdb)
    (List.forall_mem_map.2 htakes) hapart).imp ?_ ?_
  · rintro result ⟨rs, hcells, hids, hadds⟩
    refine ⟨rs, hids, ?_, h.adds hnone hadds⟩
    have heach : List.Forall₂ (fun x r => r.cells = fields x) xs rs := by
      rw [← List.forall₂_map_left_iff (R := fun f r => Row.cells r = f), ← hcells,
        List.forall₂_map_left_iff]
      exact List.forall₂_same.2 fun _ _ => rfl
    exact forall₂_of_mem heach hP
  · rintro e (⟨f, hf, columns, hcolumns, he, r, hr, hagree⟩ | hcrowded)
    · obtain ⟨x, hx, rfl⟩ := List.mem_map.1 hf
      exact .inl ⟨x, hx, columns, hcolumns, he, r, hkept.mem_iff.1 hr, hagree⟩
    · rw [hkept.length_eq, List.length_map] at hcrowded
      exact .inr hcrowded

/-- The same for the parts of the members of a list, whose fields name the rows of the members. -/
theorem settles_parts {α β : Type} (parts : α → List β) (fields : α → Int64 → β → Fields)
    {xs : List α} {rows : List Row} {R : α → Row → Prop} {Q : α × β → Row → Prop}
    (h : db.Gains added db₁) (hdb : db.Sound) (hnone : added t = [])
    (hrows : List.Forall₂ R xs rows)
    (htakes : ∀ x ∈ xs, ∀ row ∈ rows, R x row → ∀ p ∈ parts x, db₁.Takes t (fields x row.id p))
    (hapart : ((xs.zip (rows.map Row.id)).flatMap
      fun e => (parts e.1).map (fields e.1 e.2)).Pairwise (Apart t))
    (hQ : ∀ x ∈ xs, ∀ row ∈ rows, R x row → ∀ p ∈ parts x, ∀ r : Row,
      r.cells = fields x row.id p → Q (x, p) r) :
    Settles
      (db₁.insertMany t
        ((xs.zip (rows.map Row.id)).flatMap fun e => (parts e.1).map (fields e.1 e.2)))
      (fun result => ∃ rs : List Row,
        List.Forall₂ Q (xs.flatMap fun x => (parts x).map (x, ·)) rs ∧
        db.Gains (Function.update added t rs) result.1)
      fun e => (∃ x, ∃ row ∈ rows, ∃ p, ∃ columns ∈ t.schema.uniques,
          e = .notUnique t.sql columns ∧
            ∃ r ∈ db.rows t, ∃ id, Agree columns r ⟨id, fields x row.id p⟩) ∨
        0x10000000000000000 ≤ (db.rows t).length +
          (xs.flatMap fun x => (parts x).map (x, ·)).length := by
  have hmem : ∀ y ∈ (xs.zip rows).flatMap fun e => (parts e.1).map (e, ·),
      y.1.1 ∈ xs ∧ y.1.2 ∈ rows ∧ R y.1.1 y.1.2 ∧ y.2 ∈ parts y.1.1 := by
    intro y hy
    obtain ⟨e, he, hy⟩ := List.mem_flatMap.1 hy
    obtain ⟨p, hp, rfl⟩ := List.mem_map.1 hy
    exact ⟨(List.of_mem_zip he).1, (List.of_mem_zip he).2, (List.forall₂_iff_zip.1 hrows).2 he, hp⟩
  have hmembers : ((xs.zip rows).flatMap fun e => (parts e.1).map (e, ·)).map
      (fun y => (y.1.1, y.2)) = xs.flatMap fun x => (parts x).map (x, ·) := by
    calc ((xs.zip rows).flatMap fun e => (parts e.1).map (e, ·)).map (fun y => (y.1.1, y.2))
      _ = ((xs.zip rows).map Prod.fst).flatMap fun x => (parts x).map (x, ·) := by
        rw [List.map_flatMap, List.flatMap_map]
        simp only [List.map_map, Function.comp_def]
      _ = xs.flatMap fun x => (parts x).map (x, ·) := by
        rw [List.map_fst_zip (Nat.le_of_eq hrows.length_eq)]
  rw [map_parts] at hapart ⊢
  refine (h.settles_insertMany hdb hnone (P := fun y => Q (y.1.1, y.2)) ?_ hapart ?_).imp ?_ ?_
  · intro y hy
    obtain ⟨hx, hrow, hR, hp⟩ := hmem y hy
    exact htakes _ hx _ hrow hR _ hp
  · intro y hy
    obtain ⟨hx, hrow, hR, hp⟩ := hmem y hy
    exact hQ _ hx _ hrow hR _ hp
  · rintro result ⟨rs, -, hQs, hgains⟩
    refine ⟨rs, ?_, hgains⟩
    rw [← hmembers, List.forall₂_map_left_iff]
    exact hQs
  · rintro e (⟨y, hy, columns, hcolumns, he, hagree⟩ | hcrowded)
    · obtain ⟨-, hrow, -, -⟩ := hmem y hy
      exact .inl ⟨y.1.1, y.1.2, hrow, y.2, columns, hcolumns, he, hagree⟩
    · rw [← hmembers, List.length_map]
      exact .inr hcrowded

end Database.Gains

end PagedReports
