import Mathlib.Data.List.Nodup
import PagedReports.Proofs.Sql.ValueOrder
import PagedReports.Proofs.Text.Utf8

/-!
# Lexicographic order of keys

Among nothing, whole numbers and texts (`Value.Plain`) the order of values is told without any
comparison: nothing comes first, then the numbers by size, then the texts by their bytes
(`Value.Precedes`). Lists of such values stand in the order of the first place where they differ,
each place in a direction of its own (`KeysPrecede`). This is the order in which `sortByKeys` puts
things (`inKeyOrder_sortByKeys`), and things that differ in their keys have only one order
(`InKeyOrder.eq_of_perm`).
-/

namespace PagedReports.Sql

/-! ### Single values -/

namespace Value

/-- Nothing, a whole number or a text. -/
inductive Plain : Value → Prop where
  /-- Nothing. -/
  | null : Plain .null
  /-- A whole number. -/
  | integer (n : Int64) : Plain (.integer n)
  /-- A text. -/
  | text (s : String) : Plain (.text s)

instance : DecidablePred Plain
  | null => isTrue .null
  | integer n => isTrue (.integer n)
  | real _ => isFalse fun h => nomatch h
  | text s => isTrue (.text s)
  | blob _ => isFalse fun h => nomatch h

/-- One value comes before another. -/
inductive Precedes : Value → Value → Prop where
  /-- Nothing comes before numbers. -/
  | null_integer (n : Int64) : Precedes .null (.integer n)
  /-- Nothing comes before texts. -/
  | null_text (s : String) : Precedes .null (.text s)
  /-- Numbers come before texts. -/
  | integer_text (n : Int64) (s : String) : Precedes (.integer n) (.text s)
  /-- A smaller number comes before a larger one. -/
  | integers {m n : Int64} (h : m.toInt < n.toInt) : Precedes (.integer m) (.integer n)
  /-- Texts come in the order of their bytes. -/
  | texts {s t : String} (h : Text.Utf8.encode s < Text.Utf8.encode t) :
    Precedes (.text s) (.text t)

theorem compare_text (s t : String) : (text s).compare (text t) = Ord.compare s t := by
  have hplace : (text s).place.compare (text t).place = .eq := rfl
  have hblob : compareOn blobKey (text s) (text t) = .eq := rfl
  have hrank : compareOn rank (text s) (text t) = .eq := rfl
  have hkey : compareOn textKey (text s) (text t) = Ord.compare s t := rfl
  simp only [compare_eq_compareByClass, compareByClass, compareLex, hrank, hplace, hkey, hblob,
    Ordering.eq_then, Ordering.then_eq]

theorem compare_eq_lt_iff {a b : Value} (ha : a.Plain) (hb : b.Plain) :
    a.compare b = .lt ↔ a.Precedes b := by
  constructor
  · intro h
    cases ha with
    | null =>
      cases hb with
      | null => cases h
      | integer n => exact .null_integer n
      | text t => exact .null_text t
    | integer m =>
      cases hb with
      | null => cases h
      | integer n => exact .integers (Std.compare_eq_lt.1 h)
      | text t => exact .integer_text m t
    | text s =>
      cases hb with
      | null => cases h
      | integer n => cases h
      | text t =>
        rw [compare_text] at h
        exact .texts (Text.Utf8.encode_lt_encode_iff.2 (compareOfLessAndEq_eq_lt.1 h))
  · intro h
    cases h with
    | null_integer n => rfl
    | null_text t => rfl
    | integer_text m t => rfl
    | integers h => exact Std.compare_eq_lt.2 h
    | texts h =>
      rw [compare_text]
      exact compareOfLessAndEq_eq_lt.2 (Text.Utf8.encode_lt_encode_iff.1 h)

/-- Plain values that are not told apart are equal. -/
theorem eq_of_compare_eq {a b : Value} (ha : a.Plain) (hb : b.Plain) (h : a.compare b = .eq) :
    a = b := by
  cases ha with
  | null =>
    cases hb with
    | null => rfl
    | _ => cases h
  | integer m =>
    cases hb with
    | integer n => rw [compare_integer_eq_iff.1 h]
    | _ => cases h
  | text s =>
    cases hb with
    | text t =>
      rw [compare_text] at h
      rw [Std.LawfulEqOrd.compare_eq_iff_eq.1 h]
    | _ => cases h

end Value

/-! ### Lists of values -/

theorem directedOrder_eq_eq_iff {d : Direction} {o : Ordering} :
    directedOrder d o = .eq ↔ o = .eq := by
  cases d <;> cases o <;> decide

/-- One list of values comes before another, each place in a direction of its own. -/
inductive KeysPrecede : List Direction → List Value → List Value → Prop where
  /-- The first value comes first. -/
  | ascending {a b : Value} {ds : List Direction} {as bs : List Value} (h : a.Precedes b) :
    KeysPrecede (.ascending :: ds) (a :: as) (b :: bs)
  /-- The first value comes last, in a descending place. -/
  | descending {a b : Value} {ds : List Direction} {as bs : List Value} (h : b.Precedes a) :
    KeysPrecede (.descending :: ds) (a :: as) (b :: bs)
  /-- The first values are equal, and the other ones decide. -/
  | tie {a : Value} {d : Direction} {ds : List Direction} {as bs : List Value}
    (h : KeysPrecede ds as bs) : KeysPrecede (d :: ds) (a :: as) (a :: bs)

theorem compareKeys_eq_lt_iff {ds : List Direction} {as bs : List Value}
    (ha : ∀ a ∈ as, a.Plain) (hb : ∀ b ∈ bs, b.Plain) :
    compareKeys ds as bs = .lt ↔ KeysPrecede ds as bs := by
  induction ds generalizing as bs with
  | nil => exact ⟨fun h => (by cases as <;> cases h), fun h => by cases h⟩
  | cons d ds ih =>
    cases as with
    | nil => exact ⟨fun h => (by cases h), fun h => by cases h⟩
    | cons a as =>
      cases bs with
      | nil => exact ⟨fun h => (by cases h), fun h => by cases h⟩
      | cons b bs =>
        obtain ⟨ha, has⟩ := List.forall_mem_cons.1 ha
        obtain ⟨hb, hbs⟩ := List.forall_mem_cons.1 hb
        rw [compareKeys, Ordering.then_eq_lt]
        constructor
        · rintro (h | ⟨h, hrest⟩)
          · cases d with
            | ascending => exact .ascending ((Value.compare_eq_lt_iff ha hb).1 h)
            | descending =>
              exact .descending ((Value.compare_eq_lt_iff hb ha).1
                (Std.OrientedCmp.lt_of_gt (Ordering.swap_eq_lt.1 h)))
          · rw [Value.eq_of_compare_eq ha hb (directedOrder_eq_eq_iff.1 h)]
            exact .tie ((ih has hbs).1 hrest)
        · intro h
          cases h with
          | ascending h => exact .inl ((Value.compare_eq_lt_iff ha hb).2 h)
          | descending h =>
            exact .inl (Ordering.swap_eq_lt.2
              (Std.OrientedCmp.gt_of_lt ((Value.compare_eq_lt_iff hb ha).2 h)))
          | tie h =>
            have hself : a.compare a = .eq := Std.ReflCmp.compare_self
            exact .inr ⟨directedOrder_eq_eq_iff.2 hself, (ih has hbs).2 h⟩

/-- Lists with a value for each direction that are not told apart are equal. -/
theorem eq_of_compareKeys_eq {ds : List Direction} {as bs : List Value}
    (hda : as.length = ds.length) (hdb : bs.length = ds.length)
    (ha : ∀ a ∈ as, a.Plain) (hb : ∀ b ∈ bs, b.Plain) (h : compareKeys ds as bs = .eq) :
    as = bs := by
  induction ds generalizing as bs with
  | nil => rw [List.eq_nil_of_length_eq_zero hda, List.eq_nil_of_length_eq_zero hdb]
  | cons d ds ih =>
    obtain ⟨a, as, rfl⟩ := List.exists_cons_of_length_eq_add_one hda
    obtain ⟨b, bs, rfl⟩ := List.exists_cons_of_length_eq_add_one hdb
    obtain ⟨ha, has⟩ := List.forall_mem_cons.1 ha
    obtain ⟨hb, hbs⟩ := List.forall_mem_cons.1 hb
    obtain ⟨hfirst, hrest⟩ := Ordering.then_eq_eq.1 h
    rw [Value.eq_of_compare_eq ha hb (directedOrder_eq_eq_iff.1 hfirst),
      ih (Nat.succ.inj hda) (Nat.succ.inj hdb) has hbs hrest]

/-- Keys that are sorted first do not come after. -/
theorem isLE_compareKeys_iff_not_precede {ds : List Direction} {as bs : List Value}
    (ha : ∀ a ∈ as, a.Plain) (hb : ∀ b ∈ bs, b.Plain) :
    (compareKeys ds as bs).isLE ↔ ¬KeysPrecede ds bs as := by
  rw [← compareKeys_eq_lt_iff hb ha, compareKeys_swap ds bs as]
  cases compareKeys ds as bs <;> decide

/-- Of different lists with a value for each direction, one comes before the other. -/
theorem keysPrecede_of_ne {ds : List Direction} {as bs : List Value}
    (hda : as.length = ds.length) (hdb : bs.length = ds.length)
    (ha : ∀ a ∈ as, a.Plain) (hb : ∀ b ∈ bs, b.Plain) (hne : as ≠ bs)
    (hba : ¬KeysPrecede ds bs as) : KeysPrecede ds as bs := by
  rw [← isLE_compareKeys_iff_not_precede ha hb] at hba
  rw [← compareKeys_eq_lt_iff ha hb]
  cases h : compareKeys ds as bs with
  | lt => rfl
  | eq => exact absurd (eq_of_compareKeys_eq hda hdb ha hb h) hne
  | gt => rw [h] at hba; cases hba

/-! ### Things in the order of their keys -/

section Keyed

variable {α : Type} {ds : List Direction} {keys : α → List Value} {xs ys : List α}

/-- Things stand in the order of their keys: none comes after a thing that it precedes. -/
def InKeyOrder (ds : List Direction) (keys : α → List Value) (xs : List α) : Prop :=
  xs.Pairwise fun a b => ¬KeysPrecede ds (keys b) (keys a)

/-- Things have a plain value for each direction as their keys. -/
def PlainlyKeyed (ds : List Direction) (keys : α → List Value) (xs : List α) : Prop :=
  ∀ x ∈ xs, (keys x).length = ds.length ∧ ∀ v ∈ keys x, v.Plain

/-- Sorting puts things in the order of their keys. -/
theorem inKeyOrder_sortByKeys (h : PlainlyKeyed ds keys xs) :
    InKeyOrder ds keys (sortByKeys ds (xs.map fun x => (keys x, x))) := by
  have hmem : ∀ x ∈ sortByKeys ds (xs.map fun x => (keys x, x)), x ∈ xs := fun x hx =>
    (sortByKeys_map_perm ds keys xs).mem_iff.1 hx
  refine (pairwise_sortByKeys fun x hx => (h x hx).1).imp_of_mem fun {a b} ha hb hab => ?_
  exact (isLE_compareKeys_iff_not_precede (h a (hmem a ha)).2 (h b (hmem b hb)).2).1 hab

/-- Things with different keys stand in their order without ties. -/
theorem InKeyOrder.pairwise_precede (h : InKeyOrder ds keys xs) (hkeys : PlainlyKeyed ds keys xs)
    (hnodup : (xs.map keys).Nodup) :
    xs.Pairwise fun a b => KeysPrecede ds (keys a) (keys b) := by
  have hne : xs.Pairwise fun a b => keys a ≠ keys b := List.pairwise_map.1 hnodup
  refine (h.and hne).imp_of_mem fun {a b} ha hb hab => ?_
  obtain ⟨hlengthA, hplainA⟩ := hkeys a ha
  obtain ⟨hlengthB, hplainB⟩ := hkeys b hb
  exact keysPrecede_of_ne hlengthA hlengthB hplainA hplainB hab.2 hab.1

/-- Things with different keys have only one order. -/
theorem InKeyOrder.eq_of_perm (h : InKeyOrder ds keys xs) (h' : InKeyOrder ds keys ys)
    (hperm : ys.Perm xs) (hkeys : PlainlyKeyed ds keys xs) (hnodup : (xs.map keys).Nodup) :
    ys = xs := by
  refine List.Perm.eq_of_pairwise (fun a b ha hb hab hba => ?_) h' h hperm
  have ha' : a ∈ xs := hperm.mem_iff.1 ha
  obtain ⟨hlengthA, hplainA⟩ := hkeys a ha'
  obtain ⟨hlengthB, hplainB⟩ := hkeys b hb
  by_cases heq : keys a = keys b
  · exact List.inj_on_of_nodup_map hnodup ha' hb heq
  · exact absurd (keysPrecede_of_ne hlengthA hlengthB hplainA hplainB heq hab) hba

end Keyed

end PagedReports.Sql
