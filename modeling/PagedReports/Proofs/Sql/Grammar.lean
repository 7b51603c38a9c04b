import PagedReports.Sql.Clause

/-!
# The grammar of conditions

A condition is written from atoms with NOT, AND, OR and parentheses, and NOT binds its parts closer
than AND, which binds them closer than OR (`Clause.Spells`). Whatever is written so is read as the
formula that it spells (`Clause.read?_of_spells`): the depth of recursion that the reader is given
is always enough. At the outermost level a condition is a row of alternatives between ORs
(`Clause.Alternatives`), and it is true when one of them is (`Clause.Alternatives.holds_iff`).
-/

namespace PagedReports.Sql

variable {α : Type}

namespace Formula

variable {v : α → Option Bool} {f g : Formula α}

theorem truth_and_eq_true_iff :
    (and f g).truth v = some true ↔ f.truth v = some true ∧ g.truth v = some true := by
  rw [truth]
  rcases f.truth v with _ | _ | _ <;> rcases g.truth v with _ | _ | _ <;> simp

theorem truth_or_eq_true_iff :
    (or f g).truth v = some true ↔ f.truth v = some true ∨ g.truth v = some true := by
  rw [truth]
  rcases f.truth v with _ | _ | _ <;> rcases g.truth v with _ | _ | _ <;> simp

end Formula

namespace Clause

/-! ### The grammar -/

/-- How closely the outermost word of a condition binds its parts. -/
inductive Level where
  /-- There is none, or it is NOT. -/
  | unit
  /-- It may also be AND. -/
  | conjunction
  /-- It may be any word. -/
  | disjunction

/-- A condition spells a formula at a level. -/
inductive Spells : Level → Formula α → Clause α → Prop where
  /-- An atom stands for itself. -/
  | atom (a : α) : Spells .unit (.atom a) [.atom a]
  /-- NOT stands before a unit. -/
  | not {f : Formula α} {c : Clause α} : Spells .unit f c → Spells .unit (.not f) (.not :: c)
  /-- Parentheses make a unit of any condition. -/
  | parentheses {f : Formula α} {c : Clause α} :
    Spells .disjunction f c → Spells .unit f (.opening :: (c ++ [.closing]))
  /-- A unit is a conjunction of one. -/
  | ofUnit {f : Formula α} {c : Clause α} : Spells .unit f c → Spells .conjunction f c
  /-- AND joins units from the left. -/
  | and {f g : Formula α} {c d : Clause α} :
    Spells .conjunction f c → Spells .unit g d → Spells .conjunction (.and f g) (c ++ .and :: d)
  /-- A conjunction is a disjunction of one. -/
  | ofConjunction {f : Formula α} {c : Clause α} :
    Spells .conjunction f c → Spells .disjunction f c
  /-- OR joins conjunctions from the left. -/
  | or {f g : Formula α} {c d : Clause α} :
    Spells .disjunction f c → Spells .conjunction g d →
      Spells .disjunction (.or f g) (c ++ .or :: d)

/-- A condition that spells something is not empty. -/
theorem Spells.length_pos {l : Level} {f : Formula α} {c : Clause α} (h : Spells l f c) :
    0 < c.length := by
  induction h with
  | atom | not | parentheses => exact Nat.succ_pos _
  | ofUnit _ ih | ofConjunction _ ih => exact ih
  | and | or => rw [List.length_append, List.length_cons]; omega

/-! ### Reading what is written -/

/-- A conjunction ends where no AND follows. -/
theorem andMore?_of_head?_ne {rest : Clause α} (h : rest.head? ≠ some .and) (n : Nat)
    (f : Formula α) : andMore? n f rest = some (f, rest) := by
  cases n with
  | zero => rw [andMore?]; rintro _ _ ⟨⟩
  | succ n =>
    cases rest with
    | nil => rw [andMore?]; rintro _ _ - ⟨⟩
    | cons token rest => cases token <;> first | exact absurd rfl h | rfl

/-- A disjunction ends where no OR follows. -/
theorem orMore?_of_head?_ne {rest : Clause α} (h : rest.head? ≠ some .or) (n : Nat)
    (f : Formula α) : orMore? n f rest = some (f, rest) := by
  cases n with
  | zero => rw [orMore?]; rintro _ _ ⟨⟩
  | succ n =>
    cases rest with
    | nil => rw [orMore?]; rintro _ _ - ⟨⟩
    | cons token rest => cases token <;> first | exact absurd rfl h | rfl

/-- The readers take a condition from the start of what is written, if they are given a depth for
each of its pieces, and go on after it with what depth is left. -/
def Taken : Level → Formula α → Clause α → Prop
  | .unit, f, c => ∀ n rest, 4 * c.length ≤ n + 3 → readUnit? n (c ++ rest) = some (f, rest)
  | .conjunction, f, c => ∀ n rest, 4 * c.length ≤ n + 2 →
    ∃ m, n ≤ m + c.length ∧ readAnd? n (c ++ rest) = andMore? m f rest
  | .disjunction, f, c => ∀ n rest, rest.head? ≠ some .and → 4 * c.length ≤ n + 1 →
    ∃ m, n ≤ m + c.length ∧ readOr? n (c ++ rest) = orMore? m f rest

theorem Spells.taken {l : Level} {f : Formula α} {c : Clause α} (h : Spells l f c) :
    Taken l f c := by
  induction h with
  | atom a =>
    intro n rest hn
    obtain ⟨n, rfl⟩ : ∃ k, n = k + 1 := ⟨n - 1, by simp at hn; omega⟩
    rfl
  | @not f c _ ih =>
    intro n rest hn
    rw [List.length_cons] at hn
    obtain ⟨n, rfl⟩ : ∃ k, n = k + 1 := ⟨n - 1, by omega⟩
    rw [List.cons_append, readUnit?, ih n rest (by omega)]
    rfl
  | @parentheses f c hc ih =>
    intro n rest hn
    rw [List.length_cons, List.length_append, List.length_singleton] at hn
    obtain ⟨n, rfl⟩ : ∃ k, n = k + 1 := ⟨n - 1, by omega⟩
    have hends : (.closing :: rest : Clause _).head? ≠ some .or := nofun
    obtain ⟨m, -, hread⟩ := ih n (.closing :: rest) nofun (by omega)
    rw [orMore?_of_head?_ne hends] at hread
    rw [List.cons_append, List.append_assoc, List.singleton_append, readUnit?, hread]
  | @ofUnit f c hc ih =>
    intro n rest hn
    have hpos := hc.length_pos
    obtain ⟨n, rfl⟩ : ∃ k, n = k + 1 := ⟨n - 1, by omega⟩
    exact ⟨n, by omega, by rw [readAnd?, ih n rest (by omega)]⟩
  | @and f g c d _ _ ihc ihd =>
    intro n rest hn
    rw [List.length_append, List.length_cons] at hn ⊢
    obtain ⟨m, hm, hread⟩ := ihc n (.and :: (d ++ rest)) (by omega)
    obtain ⟨m, rfl⟩ : ∃ k, m = k + 1 := ⟨m - 1, by omega⟩
    refine ⟨m, by omega, ?_⟩
    rw [List.append_assoc, List.cons_append, hread, andMore?, ihd m rest (by omega)]
  | @ofConjunction f c hc ih =>
    intro n rest hrest hn
    have hpos := hc.length_pos
    obtain ⟨n, rfl⟩ : ∃ k, n = k + 1 := ⟨n - 1, by omega⟩
    obtain ⟨m, -, hread⟩ := ih n rest (by omega)
    rw [andMore?_of_head?_ne hrest] at hread
    exact ⟨n, by omega, by rw [readOr?, hread]⟩
  | @or f g c d _ hd ihc ihd =>
    intro n rest hrest hn
    rw [List.length_append, List.length_cons] at hn ⊢
    obtain ⟨m, hm, hread⟩ := ihc n (.or :: (d ++ rest)) nofun (by omega)
    obtain ⟨m, rfl⟩ : ∃ k, m = k + 1 := ⟨m - 1, by omega⟩
    obtain ⟨k, -, hnext⟩ := ihd m rest (by omega)
    rw [andMore?_of_head?_ne hrest] at hnext
    refine ⟨m, by omega, ?_⟩
    rw [List.append_assoc, List.cons_append, hread, orMore?, hnext]

/-- **What is written is read as what it spells.** -/
theorem read?_of_spells {f : Formula α} {c : Clause α} (h : Spells .disjunction f c) :
    c.read? = some f := by
  have hends : ([] : Clause α).head? ≠ some .or := nofun
  obtain ⟨m, -, hread⟩ := h.taken (4 * c.length + 4) [] nofun (by omega)
  rw [orMore?_of_head?_ne hends, List.append_nil] at hread
  rw [read?, hread]

/-- A condition holds when the formula that it spells is true. -/
theorem holds_iff_of_spells {f : Formula α} {c : Clause α} (h : Spells .disjunction f c)
    (v : α → Option Bool) : c.holds v = true ↔ f.truth v = some true := by
  have hread := read?_of_spells h
  cases c with
  | nil => exact absurd h.length_pos (Nat.lt_irrefl 0)
  | cons token rest =>
    rw [holds, hread, Option.bind_some, beq_iff_eq]
    rintro ⟨⟩

/-! ### Alternatives -/

/-- A condition is a row of alternatives between ORs, of which the last one is told apart. -/
inductive Alternatives : List (Formula α) → Formula α → Clause α → Prop where
  /-- There is one. -/
  | one {f : Formula α} {c : Clause α} : Spells .conjunction f c → Alternatives [] f c
  /-- A further one comes after others. -/
  | or {before : List (Formula α)} {f g : Formula α} {c d : Clause α} :
    Alternatives before f c → Spells .conjunction g d →
      Alternatives (before ++ [f]) g (c ++ .or :: d)

/-- Every condition is a row of alternatives. -/
theorem exists_alternatives {f : Formula α} {c : Clause α} (h : Spells .disjunction f c) :
    ∃ before last, Alternatives before last c := by
  generalize hl : Level.disjunction = l at h
  induction h with
  | ofConjunction h => exact ⟨[], _, .one h⟩
  | or _ hd ih =>
    obtain ⟨before, last, h⟩ := ih rfl
    exact ⟨before ++ [last], _, h.or hd⟩
  | _ => cases hl

namespace Alternatives

variable {before : List (Formula α)} {last : Formula α} {c : Clause α}

theorem exists_spells (h : Alternatives before last c) :
    ∃ f, Spells .disjunction f c ∧ ∀ v, f.truth v = some true ↔
      (∃ g ∈ before, g.truth v = some true) ∨ last.truth v = some true := by
  induction h with
  | one h => exact ⟨_, .ofConjunction h, fun v => by simp⟩
  | or _ hd ih =>
    obtain ⟨f, hf, htruth⟩ := ih
    refine ⟨_, hf.or hd, fun v => ?_⟩
    rw [Formula.truth_or_eq_true_iff, htruth]
    simp [or_and_right, exists_or]

/-- A row of alternatives holds when one of them is true. -/
theorem holds_iff (h : Alternatives before last c) (v : α → Option Bool) :
    c.holds v = true ↔ (∃ g ∈ before, g.truth v = some true) ∨ last.truth v = some true := by
  obtain ⟨f, hf, htruth⟩ := h.exists_spells
  rw [holds_iff_of_spells hf, htruth]

/-- What is joined by AND to a row of alternatives belongs to the last one only. -/
theorem append_and (h : Alternatives before last c) (a : α) :
    Alternatives before (.and last (.atom a)) (c ++ [.and, .atom a]) := by
  cases h with
  | one h => exact .one (h.and (.atom a))
  | or h hd =>
    rw [List.append_assoc, List.cons_append]
    exact h.or (hd.and (.atom a))

end Alternatives

end Clause

end PagedReports.Sql
