import PagedReports.Database.Sample
import PagedReports.Proofs.Ads.Sync
import PagedReports.Proofs.Attempts
import PagedReports.Proofs.Database.SampleFields

/-!
# Histories of writes

A directory is written to in four ways: rows are inserted, the first categories are set up, the
sample set is loaded, and the partner ads are replaced. Each of them ends in a database that accepted
inserts alone lead to (`Database.Write.reached`). For a replacement, which also deletes, this is
because no row of another table refers to an ad: leaving out the ads that were inserted before, all
the other inserts are accepted as they were (`Database.Reached.withoutAds`). So a database is intact
after any history of writes (`intact_after_writes`).
-/

namespace PagedReports

open Sql

/-! ### Inserts without the ads -/

/-- No column refers to an ad. -/
theorem TableName.reference_ne_partnerAds (t : TableName) :
    ∀ ref ∈ t.schema.references, ref.2 ≠ .partnerAds := by cases t <;> decide

namespace Database

variable {db db' : Database} {t : TableName}

/-- Whether a row of another table is objected to does not depend on the ads. -/
theorem objection?_withRows_partnerAds (ht : t ≠ .partnerAds) (rs : List Row) (r : Row) :
    (db.withRows .partnerAds rs).objection? t r = db.objection? t r := by
  have hgrounded : t.schema.references.all (isGrounded (db.withRows .partnerAds rs) r) =
      t.schema.references.all (isGrounded db r) := by
    rw [Bool.eq_iff_iff, List.all_eq_true, List.all_eq_true]
    refine forall₂_congr fun ref href => ?_
    rw [isGrounded, isGrounded, rows_withRows_of_ne (t.reference_ne_partnerAds ref href)]
  rw [objection?, objection?, rows_withRows_of_ne ht, hgrounded]

theorem withRows_comm (ht : t ≠ .partnerAds) (rs rs' : List Row) :
    (db.withRows .partnerAds rs).withRows t rs' = (db.withRows t rs').withRows .partnerAds rs := by
  cases t <;> first | rfl | exact absurd rfl ht

/-- What an insert does to another table does not depend on the ads. -/
theorem insert_withRows_partnerAds (ht : t ≠ .partnerAds) (rs : List Row) (fields : Fields) :
    (db.withRows .partnerAds rs).insert t fields =
      (db.insert t fields).map fun result => (result.1.withRows .partnerAds rs, result.2) := by
  simp only [insert, rows_withRows_of_ne ht]
  cases unknownColumn? t fields with
  | some column => rfl
  | none =>
    cases takeId (db.rows t) fields with
    | error e => rfl
    | ok id =>
      simp only [objection?_withRows_partnerAds ht]
      cases db.objection? t ⟨id, t.schema.columns.map fun c => (c.name, c.take fields)⟩ with
      | some e => rfl
      | none => simp only [Except.map, withRows_comm ht]

/-- **Accepted inserts also lead to a database without the ads.** -/
theorem Reached.withoutAds (h : db.Reached) : (db.withRows .partnerAds []).Reached := by
  induction h with
  | @initialised db h =>
    have hnone : (Database.empty.initialise.toOption.all fun db => db.partnerAds.isEmpty) = true := by
      decide +kernel
    rw [h] at hnone
    have hsame : db.withRows .partnerAds [] = db := by
      rw [withRows, ← List.isEmpty_iff.1 hnone]
    rw [hsame]
    exact .initialised h
  | @insert db db' t fields id _ hinsert ih =>
    by_cases ht : t = .partnerAds
    · subst ht
      obtain ⟨r, -, -, -, rfl⟩ := insert_eq_ok hinsert
      rwa [withRows_withRows]
    · have hkept : (db.withRows .partnerAds []).insert t fields =
          .ok (db'.withRows .partnerAds [], id) := by
        rw [insert_withRows_partnerAds ht, hinsert]
        rfl
      exact ih.insert hkept

/-! ### Writes -/

theorem settles_insertMany_grows (db : Database) (t : TableName) (fs : List Fields) :
    Settles (db.insertMany t fs) (fun result => db.GrowsTo result.1) fun _ => True := by
  induction fs generalizing db with
  | nil => exact .refl
  | cons f fs ih =>
    rw [insertMany_cons, settles_bind]
    cases hinsert : db.insert t f with
    | error e => trivial
    | ok first =>
      obtain ⟨db₁, id⟩ := first
      exact settles_bind.2 ((ih db₁).imp (fun _ hgrows => (GrowsTo.insert .refl hinsert).trans hgrows)
        fun _ h => h)

/-- The sample set is loaded by accepted inserts, if at all. -/
theorem settles_loadSample_grows (db : Database) (now : Int64) :
    Settles (db.loadSample now) db.GrowsTo fun _ => True := by
  unfold loadSample
  split
  · exact .refl
  unfold addSample
  refine (settles_insertMany_grows db _ _).bind fun r₁ h₁ => ?_
  refine (settles_insertMany_grows r₁.1 _ _).bind fun r₂ h₂ => ?_
  refine (settles_insertMany_grows r₂.1 _ _).bind fun r₃ h₃ => ?_
  refine (settles_insertMany_grows r₃.1 _ _).bind fun r₄ h₄ => ?_
  refine (settles_insertMany_grows r₄.1 _ _).bind fun r₅ h₅ => ?_
  refine (settles_insertMany_grows r₅.1 _ _).bind fun r₆ h₆ => ?_
  refine (settles_insertMany_grows r₆.1 _ _).bind fun r₇ h₇ => ?_
  exact h₁.trans (h₂.trans (h₃.trans (h₄.trans (h₅.trans (h₆.trans h₇)))))

/-- An attempt to write to a database. -/
inductive Write where
  /-- A row is inserted. -/
  | insert (t : TableName) (fields : Fields)
  /-- The first categories are set up. -/
  | setUp
  /-- The sample set is loaded. -/
  | loadSample (now : Int64)
  /-- The partner ads are replaced. -/
  | sync (a : SyncAttempt)

namespace Write

/-- What an attempt on a database comes to. -/
def result (db : Database) : Write → Except ReportError Database
  | insert t fields => ((db.insert t fields).map Prod.fst).mapError .database
  | setUp => db.initialise.mapError .database
  | loadSample now => (db.loadSample now).mapError .database
  | sync a => (a.result db).map Prod.fst

/-- The database after an attempt, which is the one before it if the attempt fails. -/
def after (db : Database) (w : Write) : Database :=
  match w.result db with
  | .ok db' => db'
  | .error _ => db

end Write

/-- The database after attempts to write to it, one after another. -/
def afterWrites (db : Database) (writes : List Write) : Database := writes.foldl Write.after db

/-- Replacing the partner ads leads to a reachable database. -/
theorem Reached.sync (hdb : db.Reached) {a : SyncAttempt} {summary : SyncSummary}
    (h : a.result db = .ok (db', summary)) : db'.Reached := by
  unfold SyncAttempt.result syncAds at h
  cases hads : a.feed.ads with
  | error e => rw [hads] at h; cases h
  | ok ads =>
    rw [hads] at h
    simp only at h
    split at h
    · cases h
    rename_i done hreplace
    cases h
    obtain ⟨db'', hinserted, hdone⟩ := bind_eq_ok_iff.1 hreplace
    cases hdone
    exact insertAll_induction Reached.insert hdb.withoutAds hinserted

/-- What one write preserves: a database that accepted inserts lead to. -/
theorem Write.reached (w : Write) (hdb : db.Reached) : (w.after db).Reached := by
  unfold after
  cases hresult : w.result db with
  | error e => exact hdb
  | ok db' =>
    show db'.Reached
    cases w with
    | insert t fields =>
      cases hinsert : db.insert t fields with
      | error e => rw [result, hinsert] at hresult; cases hresult
      | ok done =>
        obtain ⟨grown, id⟩ := done
        rw [result, hinsert] at hresult
        cases hresult
        exact hdb.insert hinsert
    | setUp =>
      rw [result, hdb.initialise] at hresult
      cases hresult
      exact hdb
    | loadSample now =>
      have hload := settles_loadSample_grows db now
      cases hloaded : db.loadSample now with
      | error e => rw [result, hloaded] at hresult; cases hresult
      | ok done =>
        rw [result, hloaded] at hresult
        rw [hloaded] at hload
        cases hresult
        exact hload.reached hdb
    | sync a =>
      cases hsync : a.result db with
      | error e => rw [result, hsync] at hresult; cases hresult
      | ok done =>
        obtain ⟨synced, summary⟩ := done
        rw [result, hsync] at hresult
        cases hresult
        exact hdb.sync hsync

/-- **Accepted inserts alone lead to the database after any history of writes.** -/
theorem Reached.afterWrites (hdb : db.Reached) (writes : List Write) :
    (db.afterWrites writes).Reached := by
  induction writes generalizing db with
  | nil => exact hdb
  | cons w writes ih => exact ih (w.reached hdb)

/-! ### Intact databases -/

/-- The columns that tell the rows of a table apart. -/
def keyColumns : List (TableName × List String) :=
  [(.users, ["username"]), (.plugins, ["frankenstyle"]),
    (.userCapabilities, ["userid", "capability"])]

/-- The columns that name rows, and whose rows they name. -/
def linkColumns : List (TableName × String × TableName) :=
  [(.userCapabilities, "userid", .users), (.plugins, "categoryid", .categories),
    (.contributors, "pluginid", .plugins), (.contributors, "userid", .users),
    (.versions, "pluginid", .plugins), (.reviews, "versionid", .versions),
    (.reviews, "userid", .users), (.pluginStats, "pluginid", .plugins)]

/-- A database in which rows can be told apart and found. -/
structure Intact (db : Database) : Prop where
  /-- No number is that of two rows of a table. -/
  ids : ∀ t, ((db.rows t).map Row.id).Nodup
  /-- No two rows agree on columns that tell rows apart. -/
  keys : ∀ k ∈ keyColumns, (db.rows k.1).Pairwise fun a b => ¬Agree k.2 a b
  /-- Columns that must hold something do. -/
  filled : ∀ t, ∀ r ∈ db.rows t, ∀ c ∈ t.schema.columns, c.required = true → r.value c.name ≠ .null
  /-- Columns that name rows name rows that are there, unless they hold nothing. -/
  links : ∀ k ∈ linkColumns, ∀ r ∈ db.rows k.1, r.value k.2.1 ≠ .null →
    ∃ target ∈ db.rows k.2.2, r.value k.2.1 = .integer target.id

theorem Sound.intact (hdb : db.Sound) : db.Intact where
  ids t := List.pairwise_map.2 ((hdb.ordered t).imp Int64.ne_of_lt)
  keys k hk := by
    have hunique : ∀ k ∈ keyColumns, k.2 ∈ k.1.schema.uniques := by decide
    exact hdb.distinguished k.1 k.2 (hunique k hk)
  filled := hdb.complete
  links k hk r hr := by
    have hreference : ∀ k ∈ linkColumns, k.2 ∈ k.1.schema.references := by decide
    exact hdb.grounded k.1 r hr k.2 (hreference k hk)

/-- An insert is accepted, and adds one row to its table and nothing else, or it is refused. -/
theorem settles_insert_adds (db : Database) (t : TableName) (fields : Fields) :
    Settles (db.insert t fields)
      (fun result => db.afterWrites [.insert t fields] = result.1 ∧
        (∃ r : Row, r.id = result.2 ∧ (result.1.rows t).Perm (r :: db.rows t)) ∧
        ∀ u, u ≠ t → result.1.rows u = db.rows u)
      fun _ => db.afterWrites [.insert t fields] = db := by
  simp only [afterWrites, List.foldl_cons, List.foldl_nil, Write.after, Write.result]
  cases hinsert : db.insert t fields with
  | error e => rfl
  | ok result =>
    obtain ⟨grown, id⟩ := result
    obtain ⟨r, hid, -, -, hdb'⟩ := insert_eq_ok hinsert
    refine ⟨rfl, ⟨r, hid, ?_⟩, fun u hu => ?_⟩
    · rw [hdb', rows_withRows_self]
      exact insertRow_perm r _
    · rw [hdb', rows_withRows_of_ne hu]

end Database

open Database in
/-- **A database is intact after any history of writes.** Setting up an empty database succeeds, and
after any attempts to insert rows of any values into any tables, to set it up again, to load the
sample set and to replace the partner ads, in whatever order and however they end: numbers, names of
users, names of components and capabilities of a user are told apart, required columns hold
something, and references lead to rows. A further insert adds a row, or is refused and leaves all
tables as they were. -/
theorem intact_after_writes :
    ∃ db, Database.empty.initialise = .ok db ∧ ∀ writes : List Write,
      (db.afterWrites writes).Intact ∧
        ∀ t fields, Settles ((db.afterWrites writes).insert t fields)
          (fun result => db.afterWrites (writes ++ [.insert t fields]) = result.1 ∧
            (∃ r : Row, r.id = result.2 ∧
              (result.1.rows t).Perm (r :: (db.afterWrites writes).rows t)) ∧
            ∀ u, u ≠ t → result.1.rows u = (db.afterWrites writes).rows u)
          fun _ => db.afterWrites (writes ++ [.insert t fields]) = db.afterWrites writes := by
  obtain ⟨db, hdb⟩ : ∃ db, Database.empty.initialise = .ok db :=
    ⟨Database.founded [], by decide +kernel⟩
  refine ⟨db, hdb, fun writes => ⟨?_, fun t fields => ?_⟩⟩
  · exact ((Reached.initialised hdb).afterWrites writes).sound.intact
  · have happend : db.afterWrites (writes ++ [.insert t fields]) =
        (db.afterWrites writes).afterWrites [.insert t fields] := List.foldl_append
    rw [happend]
    exact settles_insert_adds (db.afterWrites writes) t fields

end PagedReports
