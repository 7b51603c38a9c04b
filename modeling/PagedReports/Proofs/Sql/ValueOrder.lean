import PagedReports.Sql.Evaluate

/-!
# The order of values

Values of all kinds stand in one linear order, up to numbers that are equal as a whole number and
as a floating-point number: `Value.compare` is oriented and transitive. Lists of values compare
by the first pair that is told apart, each pair in a direction of its own (`compareKeys`), which
is again an order of the lists of one length, and `sortByKeys` permutes things into it.
-/

namespace PagedReports.Sql

/-! ### Single values -/

namespace Value

instance : Std.TransCmp Binary64.Place.compare :=
  inferInstanceAs (Std.TransCmp (compareLex (compareOn _) (compareOn _)))

instance : Std.TransCmp (fun a b : Value => a.place.compare b.place) where
  eq_swap {a b} :=
    show a.place.compare b.place = (b.place.compare a.place).swap from Std.OrientedCmp.eq_swap
  isLE_trans {a _ c} hab hbc :=
    show (a.place.compare c.place).isLE from Std.TransCmp.isLE_trans hab hbc

instance : Std.TransCmp compareByClass :=
  inferInstanceAs (Std.TransCmp (compareLex (compareOn _)
    (compareLex (fun a b : Value => a.place.compare b.place)
      (compareLex (compareOn _) (compareOn _)))))

/-- Whole numbers lie on the line of all numbers in their own order. -/
theorem compare_ofInt (m n : Int) :
    (Binary64.Place.ofInt m).compare (Binary64.Place.ofInt n) = Ord.compare m n := by
  have scale : ∀ k : Nat, 0 < k → Ord.compare (m * (k : Int)) (n * k) = Ord.compare m n := by
    intro k hk
    have hpos : (0 : Int) < k := Int.natCast_pos.2 hk
    rcases Int.lt_trichotomy m n with h | h | h
    · rw [Std.compare_eq_lt.2 h, Std.compare_eq_lt.2 (Int.mul_lt_mul_of_pos_right h hpos)]
    · subst h
      rw [Std.ReflOrd.compare_self, Std.ReflOrd.compare_self]
    · rw [Std.compare_eq_gt.2 h, Std.compare_eq_gt.2 (Int.mul_lt_mul_of_pos_right h hpos)]
  have hpow : ∀ e, 0 < Nat.pow 2 e := fun _ => Nat.pow_pos Nat.two_pos
  exact scale _ (hpow 1074)

/-- Whole numbers are no exception in the order of all values. -/
theorem compare_eq_compareByClass (a b : Value) : a.compare b = compareByClass a b := by
  cases a with
  | integer m =>
    cases b with
    | integer n =>
      simp [compare, compareByClass, compareLex, compareOn, rank, place, textKey, blobKey,
        compare_ofInt]
    | _ => rfl
  | _ => rfl

instance : Std.TransCmp Value.compare where
  eq_swap {a b} := by
    simp only [compare_eq_compareByClass]
    exact Std.OrientedCmp.eq_swap
  isLE_trans {a b c} := by
    simp only [compare_eq_compareByClass]
    exact Std.TransCmp.isLE_trans

theorem compare_integer_eq_iff {m n : Int64} :
    (integer m).compare (integer n) = .eq ↔ m = n := by
  rw [compare, Std.LawfulEqOrd.compare_eq_iff_eq, Int64.toInt_inj]

theorem isLE_compare_integer {m n : Int64} :
    ((integer m).compare (integer n)).isLE ↔ m ≤ n := by
  rw [compare, Int.isLE_compare, Int64.le_iff_toInt_le]

end Value

/-! ### Lists of values -/

instance (d : Direction) : Std.TransCmp fun a b : Value => directedOrder d (a.compare b) := by
  cases d with
  | ascending => exact inferInstanceAs (Std.TransCmp Value.compare)
  | descending =>
    have h : (fun a b : Value => directedOrder .descending (a.compare b)) =
        fun a b => b.compare a := by
      funext a b
      have hab : b.compare a = (a.compare b).swap := Std.OrientedCmp.eq_swap
      exact hab.symm
    rw [h]
    infer_instance

theorem compareKeys_swap (ds : List Direction) (as bs : List Value) :
    compareKeys ds as bs = (compareKeys ds bs as).swap := by
  induction ds generalizing as bs with
  | nil => cases as <;> cases bs <;> rfl
  | cons d ds ih =>
    cases as with
    | nil => cases bs <;> rfl
    | cons a as =>
      cases bs with
      | nil => rfl
      | cons b bs =>
        let cmp := fun a b : Value => directedOrder d (a.compare b)
        have _ : Std.TransCmp cmp := inferInstance
        have hab : cmp a b = (cmp b a).swap := Std.OrientedCmp.eq_swap
        simp only [compareKeys, Ordering.swap_then]
        rw [← ih as bs]
        exact congrArg (Ordering.then · _) hab

/-- Lists with a value for each direction are in an order. -/
theorem compareKeys_isLE_trans {ds : List Direction} {as bs cs : List Value}
    (ha : as.length = ds.length) (hb : bs.length = ds.length) (hc : cs.length = ds.length)
    (hab : (compareKeys ds as bs).isLE) (hbc : (compareKeys ds bs cs).isLE) :
    (compareKeys ds as cs).isLE := by
  induction ds generalizing as bs cs with
  | nil => cases as <;> rfl
  | cons d ds ih =>
    obtain ⟨a, as, rfl⟩ := List.exists_cons_of_length_eq_add_one ha
    obtain ⟨b, bs, rfl⟩ := List.exists_cons_of_length_eq_add_one hb
    obtain ⟨c, cs, rfl⟩ := List.exists_cons_of_length_eq_add_one hc
    simp only [List.length_cons, Nat.add_right_cancel_iff] at ha hb hc
    let cmp := fun a b : Value => directedOrder d (a.compare b)
    have _ : Std.TransCmp cmp := inferInstance
    simp only [compareKeys, Ordering.isLE_then_iff_or] at hab hbc ⊢
    change cmp a b = .lt ∨ cmp a b = .eq ∧ _ at hab
    change cmp b c = .lt ∨ cmp b c = .eq ∧ _ at hbc
    change cmp a c = .lt ∨ cmp a c = .eq ∧ _
    rcases hab with hab | ⟨hab, hab'⟩
    · rcases hbc with hbc | ⟨hbc, -⟩
      · exact .inl (Std.TransCmp.lt_trans hab hbc)
      · exact .inl (Std.TransCmp.lt_of_lt_of_eq hab hbc)
    · rcases hbc with hbc | ⟨hbc, hbc'⟩
      · exact .inl (Std.TransCmp.lt_of_eq_of_lt hab hbc)
      · exact .inr ⟨Std.TransCmp.eq_trans hab hbc, ih ha hb hc hab' hbc'⟩

/-! ### Sorting -/

variable {α β : Type}

/-- Whether keys come before others or are not told apart from them. -/
def keysLE (ds : List Direction) (a b : List Value × α) : Bool := compareKeys ds a.1 b.1 != .gt

theorem keysLE_iff {ds : List Direction} {a b : List Value × α} :
    keysLE ds a b = true ↔ (compareKeys ds a.1 b.1).isLE := by
  unfold keysLE
  cases compareKeys ds a.1 b.1 <;> decide

theorem sortByKeys_perm (ds : List Direction) (xs : List (List Value × α)) :
    (sortByKeys ds xs).Perm (xs.map Prod.snd) :=
  (List.mergeSort_perm xs _).map _

/-- Things that are given keys are permuted. -/
theorem sortByKeys_map_perm (ds : List Direction) (keys : α → List Value) (xs : List α) :
    (sortByKeys ds (xs.map fun x => (keys x, x))).Perm xs := by
  have h := sortByKeys_perm ds (xs.map fun x => (keys x, x))
  rw [List.map_map] at h
  exact h.trans (List.Perm.of_eq (List.map_id xs))

theorem length_sortByKeys (ds : List Direction) (xs : List (List Value × α)) :
    (sortByKeys ds xs).length = xs.length := by
  simp [sortByKeys]

/-- Things with a key for each direction are sorted into the order of their keys. -/
theorem pairwise_mergeSort_keysLE {ds : List Direction} {xs : List (List Value × α)}
    (hxs : ∀ x ∈ xs, x.1.length = ds.length) :
    (xs.mergeSort (keysLE ds)).Pairwise fun a b => keysLE ds a b = true := by
  -- The order is transitive on lists of the right length only, so it is used on a subtype.
  let le (a b : { x : List Value × α // x.1.length = ds.length }) := keysLE ds a.1 b.1
  have hval : xs.mergeSort (keysLE ds) = ((xs.attachWith _ hxs).mergeSort le).map Subtype.val := by
    have hmap := List.map_mergeSort (r := le) (s := keysLE ds) (f := Subtype.val)
      (l := xs.attachWith _ hxs) fun _ _ _ _ => rfl
    rw [hmap, List.attachWith_map_subtype_val]
  rw [hval, List.pairwise_map]
  refine List.pairwise_mergeSort (fun a b c hab hbc => ?_) (fun a b => ?_) _
  · exact keysLE_iff.2 (compareKeys_isLE_trans a.2 b.2 c.2 (keysLE_iff.1 hab) (keysLE_iff.1 hbc))
  · simp only [keysLE]
    rw [compareKeys_swap ds a.1.1 b.1.1]
    cases compareKeys ds b.1.1 a.1.1 <;> decide

/-- Things that are given a key for each direction are sorted into the order of their keys. -/
theorem pairwise_sortByKeys {ds : List Direction} {keys : α → List Value} {xs : List α}
    (hxs : ∀ x ∈ xs, (keys x).length = ds.length) :
    (sortByKeys ds (xs.map fun x => (keys x, x))).Pairwise fun a b =>
      (compareKeys ds (keys a) (keys b)).isLE := by
  have hkeyed : ∀ x ∈ xs.map fun x => (keys x, x), x.1 = keys x.2 ∧ x.1.length = ds.length := by
    intro x hx
    obtain ⟨y, hy, rfl⟩ := List.mem_map.1 hx
    exact ⟨rfl, hxs y hy⟩
  have hsorted : ((xs.map fun x => (keys x, x)).mergeSort (keysLE ds)).Pairwise fun a b =>
      keysLE ds a b = true := pairwise_mergeSort_keysLE fun x hx => (hkeyed x hx).2
  refine List.pairwise_map.2 (hsorted.imp_of_mem fun {a b} ha hb hab => ?_)
  rw [← (hkeyed a (List.mem_mergeSort.1 ha)).1, ← (hkeyed b (List.mem_mergeSort.1 hb)).1]
  exact keysLE_iff.1 hab

/-- Sorting looks at the keys only. -/
theorem sortByKeys_map (ds : List Direction) (f : α → β) (xs : List (List Value × α)) :
    sortByKeys ds (xs.map fun x => (x.1, f x.2)) = (sortByKeys ds xs).map f := by
  have hmap := List.map_mergeSort (r := keysLE ds) (s := keysLE ds)
    (f := fun x : List Value × α => (x.1, f x.2)) (l := xs) fun _ _ _ _ => rfl
  change ((xs.map _).mergeSort (keysLE ds)).map Prod.snd =
    ((xs.mergeSort (keysLE ds)).map Prod.snd).map f
  rw [← hmap, List.map_map, List.map_map]
  rfl

/-- The first of sorted things has keys that come before all others, or are not told apart. -/
theorem sortByKeys_eq_cons {ds : List Direction} {xs : List (List Value × α)}
    (hxs : ∀ x ∈ xs, x.1.length = ds.length) (hne : xs ≠ []) :
    ∃ first ∈ xs, ∃ rest, sortByKeys ds xs = first.2 :: rest ∧
      ∀ x ∈ xs, (compareKeys ds first.1 x.1).isLE := by
  have hperm := List.mergeSort_perm xs (keysLE ds)
  have hsorted := pairwise_mergeSort_keysLE hxs
  have hsort : sortByKeys ds xs = (xs.mergeSort (keysLE ds)).map Prod.snd := rfl
  cases h : xs.mergeSort (keysLE ds) with
  | nil => exact absurd (h ▸ hperm).symm.eq_nil hne
  | cons first rest =>
    rw [h] at hperm hsorted hsort
    refine ⟨first, hperm.mem_iff.1 List.mem_cons_self, _, hsort, fun x hx => ?_⟩
    rcases List.mem_cons.1 (hperm.mem_iff.2 hx) with rfl | hrest
    · have hself : compareKeys ds x.1 x.1 = (compareKeys ds x.1 x.1).swap := compareKeys_swap ..
      cases hcmp : compareKeys ds x.1 x.1 with
      | gt => rw [hcmp] at hself; cases hself
      | _ => rfl
    · exact keysLE_iff.1 ((List.pairwise_cons.1 hsorted).1 x hrest)

end PagedReports.Sql
