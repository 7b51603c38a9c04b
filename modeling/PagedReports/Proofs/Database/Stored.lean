import PagedReports.Proofs.Database.Integrity

/-!
# What columns hold

The rows of a reachable database were all taken in by inserts (`Database.Reached.taken`), so a
column that prefers whole numbers never holds a floating-point number that is a whole number. A
value of such a column that compares as equal to a whole number is therefore that number itself
(`Database.Reached.truth_equal_iff`): what a query asks of a code is what the column holds.
-/

namespace PagedReports

open Sql

/-! ### Whole numbers on the line of all numbers -/

namespace Binary64

theorem Place.compare_eq_eq_iff {a b : Place} : a.compare b = .eq ↔ a = b := by
  obtain ⟨part, steps⟩ := a
  obtain ⟨part', steps'⟩ := b
  simp [Place.compare, compareLex, compareOn, Ordering.then_eq_eq]

theorem neg_1074_le_exponent {bits : Nat} {negative : Bool} {m : Nat} {e : Int}
    (h : shapeOfBits bits = .finite negative m e) : -1074 ≤ e := by
  unfold shapeOfBits at h
  simp only at h
  split at h
  · split at h <;> cases h
  split at h
  · cases h
    exact Int.le_refl _
  · cases h
    omega

theorem signed_mul (negative : Bool) (a b : Nat) :
    signed negative (a * b) = signed negative a * b := by
  cases negative with
  | false => rfl
  | true => exact (Int.neg_mul a b).symm

theorem natAbs_signed (negative : Bool) (m : Nat) : (signed negative m).natAbs = m := by
  cases negative <;> simp [signed]

/-- A number whose multiple of the smallest step is that of a whole number has this number as its
whole part. -/
theorem signed_whole {negative : Bool} {m k : Nat} {e n bias : Int} (hbias : bias = k)
    (he : -bias ≤ e) (h : signed negative (m * Nat.pow 2 (e + bias).toNat) = n * Nat.pow 2 k) :
    signed negative (if 0 ≤ e then m * Nat.pow 2 e.toNat else m / Nat.pow 2 (-e).toNat) = n := by
  have hpos : ∀ k, 0 < Nat.pow 2 k := fun k => Nat.pow_pos Nat.two_pos
  have cancel : ∀ {a b : Int} {k : Nat}, a * Nat.pow 2 k = b * Nat.pow 2 k → a = b :=
    fun {_ _ k} => Int.eq_of_mul_eq_mul_right (Int.natCast_ne_zero.2 (Nat.ne_of_gt (hpos k)))
  have hadd : ∀ j k, Nat.pow 2 (j + k) = Nat.pow 2 j * Nat.pow 2 k := Nat.pow_add 2
  split
  · have hexp : (e + bias).toNat = e.toNat + k := by omega
    rw [hexp, hadd, ← Nat.mul_assoc, signed_mul] at h
    exact cancel h
  · have hexp : k = (-e).toNat + (e + bias).toNat := by omega
    have hpow : Nat.pow 2 k = Nat.pow 2 (-e).toNat * Nat.pow 2 (e + bias).toNat := by
      rw [← hadd, ← hexp]
    have hm : signed negative m = n * Nat.pow 2 (-e).toNat := by
      rw [signed_mul, hpow, Int.natCast_mul, ← Int.mul_assoc] at h
      exact cancel h
    have habs : m = n.natAbs * Nat.pow 2 (-e).toNat := by
      rw [← natAbs_signed negative m, hm, Int.natAbs_mul, Int.natAbs_natCast]
    rw [habs, Nat.mul_div_cancel _ (hpos _)]
    rw [habs, signed_mul] at hm
    exact cancel hm

/-- A floating-point number at the place of a whole number has this number as its whole part. -/
theorem truncate_of_place {x : Float} {n : Int64} (h : place x = Place.ofInt n.toInt) :
    truncate x = n := by
  unfold place at h
  unfold truncate
  cases hshape : shape x with
  | nan => rw [hshape] at h; cases h
  | infinite negative =>
    rw [hshape] at h
    have hpart : signed negative 1 = 0 := congrArg Place.part h
    cases negative <;> cases hpart
  | finite negative m e =>
    rw [hshape, Place.ofInt, Place.mk.injEq] at h
    generalize hk : (1074 : Nat) = k at h
    have hwhole := signed_whole (by omega) (neg_1074_le_exponent hshape) h.2
    have hmin := Int64.le_toInt n
    have hmax := Int64.toInt_lt n
    simp only [hwhole]
    rw [if_neg (by omega), if_neg (by omega), Int64.ofInt_toInt]

/-- A floating-point number at the place of a whole number is whole. -/
theorem wholeOf?_of_place {x : Float} {n : Int64} (h : place x = Place.ofInt n.toInt)
    (hmin : n ≠ Int64.minValue) (hmax : n ≠ Int64.maxValue) : wholeOf? x = some n := by
  unfold wholeOf?
  rw [truncate_of_place h]
  exact if_pos ⟨h, hmin, hmax⟩

end Binary64

/-! ### Kinds of values -/

theorem Sql.Value.exists_eq_integer {v : Value} (h : v.kindName = "Integer") :
    ∃ n, v = .integer n := by
  cases v with
  | integer n => exact ⟨n, rfl⟩
  | _ => simp [Value.kindName] at h

theorem Sql.Value.exists_eq_text {v : Value} (h : v.kindName = "Text") : ∃ s, v = .text s := by
  cases v with
  | text s => exact ⟨s, rfl⟩
  | _ => simp [Value.kindName] at h

/-! ### Values that columns take in -/

theorem preferWhole_eq_real {x y : Float} (h : preferWhole x = .real y) : wholeOf? y = none := by
  unfold preferWhole at h
  cases hwhole : wholeOf? x with
  | some n => rw [hwhole] at h; cases h
  | none => rw [hwhole] at h; cases h; exact hwhole

/-- A column that prefers whole numbers does not take in whole numbers in another form. -/
theorem Affinity.apply_integer_eq_real {v : Value} {x : Float}
    (h : Affinity.integer.apply v = .real x) : wholeOf? x = none := by
  cases v with
  | real y => exact preferWhole_eq_real h
  | text s =>
    simp only [Affinity.apply] at h
    split at h
    · unfold numeralValue at h
      simp only at h
      split at h
      · cases h
      · exact preferWhole_eq_real h
    · cases h
  | _ => cases h

/-- A row holds what the columns of its table took in from an insert. -/
def Row.Taken (t : TableName) (r : Row) : Prop :=
  ∃ fields : Fields, r.cells = t.schema.columns.map fun c => (c.name, c.take fields)

/-- **Every row of a reachable database was taken in by an insert.** -/
theorem Database.Reached.taken {db : Database} (h : db.Reached) :
    ∀ t, ∀ r ∈ db.rows t, r.Taken t := by
  have step : ∀ {db db' : Database} {t : TableName} {fields : Fields} {id : Int64},
      (∀ u, ∀ r ∈ db.rows u, r.Taken u) → db.insert t fields = .ok (db', id) →
        ∀ u, ∀ r ∈ db'.rows u, r.Taken u := by
    intro db db' t fields id hdb hinsert u r hr
    obtain ⟨new, -, hcells, -, rfl⟩ := insert_eq_ok hinsert
    rcases mem_rows_insertRow.1 hr with ⟨rfl, rfl⟩ | hold
    · exact ⟨fields, hcells⟩
    · exact hdb u r hold
  induction h with
  | initialised h =>
    exact insertAll_induction step (fun t r hr => by cases t <;> cases hr) h
  | insert _ h ih => exact step ih h

/-- A column prefers whole numbers. -/
def TableName.IsWhole (t : TableName) (column : String) : Prop :=
  column ≠ "id" ∧ ∀ c ∈ t.schema.columns, c.name = column → c.affinity = .integer

instance (t : TableName) (column : String) : Decidable (t.IsWhole column) :=
  inferInstanceAs (Decidable (_ ∧ _))

theorem Row.Taken.wholeOf?_eq_none {t : TableName} {r : Row} (hr : r.Taken t) {column : String}
    (hcolumn : t.IsWhole column) {x : Float} (h : r.value column = .real x) :
    wholeOf? x = none := by
  obtain ⟨fields, hcells⟩ := hr
  rw [Row.value, if_neg hcolumn.1, hcells] at h
  cases hlookup : (t.schema.columns.map fun c => (c.name, c.take fields)).lookup column with
  | none => rw [hlookup] at h; cases h
  | some v =>
    rw [hlookup] at h
    obtain ⟨before, after, hsplit, -⟩ := List.lookup_eq_some_iff.1 hlookup
    have hmem : (column, v) ∈ t.schema.columns.map fun c => (c.name, c.take fields) := by
      rw [hsplit]
      simp
    obtain ⟨c, hc, hpair⟩ := List.mem_map.1 hmem
    obtain ⟨hname, htake⟩ := Prod.mk.inj hpair
    rw [Option.getD_some, ← htake, ColumnSpec.take, hcolumn.2 c hc hname] at h
    exact Affinity.apply_integer_eq_real h

/-- A value of a column that prefers whole numbers is equal to a whole number only if it is this
number. -/
theorem Database.Reached.truth_equal_iff {db : Database} (hdb : db.Reached) {t : TableName}
    {r : Row} (hr : r ∈ db.rows t) (column : String) (hcolumn : t.IsWhole column) {n : Int64}
    (hmin : n ≠ Int64.minValue) (hmax : n ≠ Int64.maxValue) :
    Relation.truth .equal (r.value column) (.integer n) = some true ↔
      r.value column = .integer n := by
  constructor
  · intro h
    cases hv : r.value column with
    | integer m =>
      rw [hv] at h
      have heq : (Value.integer m).compare (.integer n) = .eq := by simpa [Relation.truth] using h
      rw [Value.compare_integer_eq_iff.1 heq]
    | real x =>
      rw [hv] at h
      have heq : (Value.real x).compare (.integer n) = .eq := by simpa [Relation.truth] using h
      have hplace : Binary64.place x = Binary64.Place.ofInt n.toInt := by
        rw [Value.compare_eq_compareByClass, Value.compareByClass, compareLex] at heq
        exact Binary64.Place.compare_eq_eq_iff.1
          (Ordering.then_eq_eq.1 (Ordering.then_eq_eq.1 heq).2).1
      have hwhole := Binary64.wholeOf?_of_place hplace hmin hmax
      rw [(hdb.taken t r hr).wholeOf?_eq_none hcolumn hv] at hwhole
      cases hwhole
    | null => rw [hv] at h; cases h
    | text s => rw [hv] at h; cases h
    | blob bytes => rw [hv] at h; cases h
  · intro h
    simp [h, Relation.truth, Value.compare_integer_eq_iff]

end PagedReports
