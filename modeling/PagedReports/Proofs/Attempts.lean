import Mathlib.Data.List.Forall2

/-!
# Attempts

What an attempt that can fail comes to is said by `Settles`, with one rule for attempts that follow
each other. `List.mapM` with such attempts gives what each attempt gives, in order, and if it fails,
then with the error of one of them.
-/

namespace PagedReports

/-! ### One after another -/

theorem bind_eq_ok_iff {ε α β : Type} {x : Except ε α} {f : α → Except ε β} {b : β} :
    (x >>= f) = .ok b ↔ ∃ a, x = .ok a ∧ f a = .ok b := by
  cases x <;> simp [bind, Except.bind]

/-- An attempt has the outcome `post` if it succeeds, and `fail` if it does not. -/
def Settles {ε α : Type} (x : Except ε α) (post : α → Prop) (fail : ε → Prop) : Prop :=
  match x with
  | .ok a => post a
  | .error e => fail e

section Settles

variable {ε α β : Type} {x : Except ε α} {f : α → Except ε β} {post post' : α → Prop}
  {fail fail' : ε → Prop}

theorem Settles.imp (h : Settles x post fail) (hpost : ∀ a, post a → post' a)
    (hfail : ∀ e, fail e → fail' e) : Settles x post' fail' := by
  cases x with
  | ok a => exact hpost a h
  | error e => exact hfail e h

theorem settles_bind {post : β → Prop} : Settles (x >>= f) post fail ↔
    Settles x (fun a => Settles (f a) post fail) fail := by
  cases x <;> rfl

/-- Attempts that can fail in the same way follow each other. -/
theorem Settles.bind {post' : β → Prop} (h : Settles x post fail)
    (hf : ∀ a, post a → Settles (f a) post' fail) : Settles (x >>= f) post' fail :=
  settles_bind.2 (h.imp hf fun _ he => he)

end Settles

/-! ### Members of lists -/

section Related

variable {α β : Type} {R : α → β → Prop} {xs : List α} {ys : List β}

/-- Each member of a list has one that it is related to. -/
theorem exists_of_mem_left (h : List.Forall₂ R xs ys) {x : α} (hx : x ∈ xs) : ∃ y ∈ ys, R x y := by
  induction h with
  | nil => cases hx
  | cons hxy _ ih =>
    rcases List.mem_cons.1 hx with rfl | hx
    · exact ⟨_, List.mem_cons_self, hxy⟩
    · obtain ⟨y, hy, hR⟩ := ih hx
      exact ⟨y, List.mem_cons_of_mem _ hy, hR⟩

theorem exists_of_mem_right (h : List.Forall₂ R xs ys) {y : β} (hy : y ∈ ys) :
    ∃ x ∈ xs, R x y :=
  exists_of_mem_left h.flip hy

/-- What stands at a place of a list is related to what stands there in the other one. -/
theorem exists_getElem?_of_forall₂ (h : List.Forall₂ R xs ys) {i : Nat} {x : α}
    (hx : xs[i]? = some x) : ∃ y, ys[i]? = some y ∧ R x y := by
  induction h generalizing i with
  | nil => cases hx
  | cons hxy _ ih =>
    cases i with
    | zero =>
      rw [List.getElem?_cons_zero] at hx
      cases hx
      exact ⟨_, List.getElem?_cons_zero, hxy⟩
    | succ i =>
      rw [List.getElem?_cons_succ] at hx ⊢
      exact ih hx

/-- A relation between members of two lists may make use of their being members. -/
theorem forall₂_of_mem {S : α → β → Prop} (h : List.Forall₂ R xs ys)
    (himp : ∀ x ∈ xs, ∀ y, R x y → S x y) : List.Forall₂ S xs ys := by
  induction h with
  | nil => exact .nil
  | cons hxy _ ih =>
    have hrest := ih fun x hx => himp x (List.mem_cons_of_mem _ hx)
    exact .cons (himp _ List.mem_cons_self _ hxy) hrest

/-- If each member of a list is related to something, the list is related to a list. -/
theorem exists_forall₂ (h : ∀ x ∈ xs, ∃ y, R x y) : ∃ ys, List.Forall₂ R xs ys := by
  induction xs with
  | nil => exact ⟨[], .nil⟩
  | cons x xs ih =>
    obtain ⟨y, hy⟩ := h x List.mem_cons_self
    obtain ⟨ys, hys⟩ := ih fun z hz => h z (List.mem_cons_of_mem _ hz)
    exact ⟨y :: ys, .cons hy hys⟩

end Related

variable {ε α β : Type} {f : α → Except ε β}

theorem mapM_eq_ok_iff {xs : List α} {ys : List β} :
    xs.mapM f = .ok ys ↔ List.Forall₂ (fun x y => f x = .ok y) xs ys := by
  induction xs generalizing ys with
  | nil =>
    rw [List.forall₂_nil_left_iff]
    exact ⟨fun h => by cases h; rfl, fun h => by rw [h]; rfl⟩
  | cons x xs ih =>
    rw [List.forall₂_cons_left_iff, List.mapM_cons]
    constructor
    · intro h
      cases hx : f x with
      | error e => rw [hx] at h; cases h
      | ok y =>
        rw [hx] at h
        cases hxs : xs.mapM f with
        | error e => rw [hxs] at h; cases h
        | ok rest =>
          rw [hxs] at h
          cases h
          exact ⟨y, rest, rfl, ih.1 hxs, rfl⟩
    · rintro ⟨y, rest, hy, hrest, rfl⟩
      rw [hy, ih.2 hrest]
      rfl

theorem mapM_eq_error {xs : List α} {e : ε} (h : xs.mapM f = .error e) :
    ∃ x ∈ xs, f x = .error e := by
  induction xs with
  | nil => cases h
  | cons x xs ih =>
    rw [List.mapM_cons] at h
    cases hx : f x with
    | error e' =>
      rw [hx] at h
      cases h
      exact ⟨x, List.mem_cons_self, hx⟩
    | ok y =>
      rw [hx] at h
      cases hxs : xs.mapM f with
      | ok rest => rw [hxs] at h; cases h
      | error e' =>
        rw [hxs] at h
        cases h
        obtain ⟨x', hmem, heq⟩ := ih hxs
        exact ⟨x', List.mem_cons_of_mem _ hmem, heq⟩

theorem length_of_mapM {xs : List α} {ys : List β} (h : xs.mapM f = .ok ys) :
    ys.length = xs.length :=
  (mapM_eq_ok_iff.1 h).length_eq.symm

/-- Attempts that all succeed succeed together, of whichever kind they are. -/
theorem mapM_eq_pure_map {m : Type → Type} [Monad m] [LawfulMonad m] {attempt : α → m β} {g : α → β}
    {xs : List α} (h : ∀ x ∈ xs, attempt x = pure (g x)) : xs.mapM attempt = pure (xs.map g) := by
  induction xs with
  | nil => rfl
  | cons x xs ih =>
    rw [List.mapM_cons, h x List.mem_cons_self, ih fun y hy => h y (List.mem_cons_of_mem _ hy)]
    simp

theorem mapM_eq_map {g : α → β} {xs : List α} (h : ∀ x ∈ xs, f x = .ok (g x)) :
    xs.mapM f = .ok (xs.map g) :=
  mapM_eq_pure_map h

theorem mapM_eq_some_map {f : α → Option β} {g : α → β} {xs : List α}
    (h : ∀ x ∈ xs, f x = some (g x)) : xs.mapM f = some (xs.map g) :=
  mapM_eq_pure_map h

end PagedReports
