import PagedReports.Database.Insert

/-!
# Numbers for new rows

A row that is given no number gets one that no row of its table has (`nextId_ne`). After the last
number that is a number after it; where the largest number of all is taken, the search for a free
one goes down from there, and it ends before the numbers do, as long as not all of them are taken.
-/

namespace PagedReports

/-- From a number down, as many numbers as there are rows and one more suffice to find a free one
(`hroom`), if the rows go down from there too. -/
theorem freeFrom_le_and_ne {n : Int64} {rows : List Row}
    (hdown : rows.Pairwise fun a b => b.id < a.id) (hle : ∀ r ∈ rows, r.id ≤ n)
    (hroom : (rows.length : Int) ≤ n.toInt + 0x8000000000000000) :
    freeFrom n rows ≤ n ∧ ∀ r ∈ rows, r.id ≠ freeFrom n rows := by
  induction rows generalizing n with
  | nil => exact ⟨Int64.le_refl n, fun r hr => by cases hr⟩
  | cons first rest ih =>
    obtain ⟨hfirst, hrest⟩ := List.pairwise_cons.1 hdown
    unfold freeFrom
    by_cases htaken : first.id = n
    · rw [if_pos htaken]
      rw [List.length_cons] at hroom
      have hpred : (n - 1).toInt = n.toInt - 1 := by
        have hmax := Int64.toInt_lt n
        have hone : (1 : Int64).toInt = 1 := rfl
        rw [Int64.toInt_sub, hone]
        exact Int.bmod_eq_of_le (by omega) (by omega)
      have hbelow : ∀ r ∈ rest, r.id ≤ n - 1 := by
        intro r hr
        have hlt := Int64.lt_iff_toInt_lt.1 (hfirst r hr)
        rw [Int64.le_iff_toInt_le, hpred, ← htaken]
        omega
      obtain ⟨hfree, hne⟩ := ih hrest hbelow (by rw [hpred]; omega)
      have hlt : freeFrom (n - 1) rest < n := by
        rw [Int64.le_iff_toInt_le, hpred] at hfree
        rw [Int64.lt_iff_toInt_lt]
        omega
      refine ⟨Int64.le_of_lt hlt, fun r hr => ?_⟩
      rcases List.mem_cons.1 hr with rfl | hr
      · rw [htaken]
        exact (Int64.ne_of_lt hlt).symm
      · exact hne r hr
    · rw [if_neg htaken]
      refine ⟨Int64.le_refl n, fun r hr => ?_⟩
      rcases List.mem_cons.1 hr with rfl | hr
      · exact htaken
      · exact Int64.ne_of_lt (Int64.lt_of_lt_of_le (hfirst r hr) (hle first List.mem_cons_self))

/-- A new row gets a number that none of the rows has, unless they have all of them. -/
theorem nextId_ne {rows : List Row} (h : Ordered rows) (hroom : rows.length < 0x10000000000000000) :
    ∀ r ∈ rows, r.id ≠ nextId rows := by
  intro r hr
  unfold nextId
  cases hlast : rows.getLast? with
  | none =>
    rw [List.getLast?_eq_none_iff.1 hlast] at hr
    cases hr
  | some last =>
    -- Read backwards, the rows go down from the last one.
    have hdown : rows.reverse.Pairwise fun a b => b.id < a.id := List.pairwise_reverse.2 h
    have hle : ∀ x ∈ rows, x.id ≤ last.id := by
      intro x hx
      obtain ⟨before, rfl⟩ := List.getLast?_eq_some_iff.1 hlast
      rcases List.mem_append.1 hx with hx | hx
      · exact Int64.le_of_lt ((List.pairwise_append.1 h).2.2 x hx last (List.mem_singleton_self _))
      · rw [List.mem_singleton.1 hx]
        exact Int64.le_refl _
    by_cases hmax : last.id = Int64.maxValue
    · simp only [if_pos hmax]
      have hroom' : (rows.reverse.length : Int) ≤
          Int64.maxValue.toInt + 0x8000000000000000 := by
        have hvalue : Int64.maxValue.toInt = 0x7FFFFFFFFFFFFFFF := by decide
        rw [List.length_reverse, hvalue]
        omega
      exact (freeFrom_le_and_ne hdown (fun x hx => hmax ▸ hle x (List.mem_reverse.1 hx))
        hroom').2 r (List.mem_reverse.2 hr)
    · simp only [if_neg hmax]
      have hsucc : (last.id + 1).toInt = last.id.toInt + 1 := by
        have hne : last.id.toInt ≠ 0x7FFFFFFFFFFFFFFF := fun heq => hmax (Int64.toInt_inj.1 heq)
        have hmin := Int64.le_toInt last.id
        have hlt := Int64.toInt_lt last.id
        have hone : (1 : Int64).toInt = 1 := rfl
        rw [Int64.toInt_add, hone]
        exact Int.bmod_eq_of_le (by omega) (by omega)
      refine Int64.ne_of_lt ?_
      have hbefore := Int64.le_iff_toInt_le.1 (hle r hr)
      rw [Int64.lt_iff_toInt_lt, hsucc]
      omega

end PagedReports
