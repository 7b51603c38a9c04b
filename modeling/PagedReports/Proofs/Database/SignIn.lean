import PagedReports.Database.Actors
import PagedReports.Proofs.Attempts
import PagedReports.Proofs.Database.Growing

/-!
# Signing in

A user who signs in becomes an actor (`Database.SignsIn`). Names tell users apart, so the actor is
made of the row of this user and of the capabilities granted to it, and of nothing else
(`signsIn_iff`): rows of anybody else do not change it (`SignsIn.of_insert`), and what comes later
can only add capabilities (`SignsIn.of_growsTo`).
-/

namespace PagedReports

open Sql

/-! ### Kinds of values -/

theorem textAt_eq_ok_iff {v : Value} {position : Nat} {column s : String} :
    textAt v position column = .ok s ↔ v = .text s := by
  cases v <;> simp [textAt]

theorem truthAt_eq_ok_iff {v : Value} {position : Nat} {column : String} {b : Bool} :
    truthAt v position column = .ok b ↔ ∃ n : Int64, v = .integer n ∧ b = decide (n ≠ 0) := by
  cases v <;> simp [truthAt, eq_comm]

/-! ### The actor of a row -/

/-- The names of a user are texts. -/
structure Row.HasNames (user : Row) : Prop where
  /-- The user name. -/
  username : ∃ s, user.value "username" = .text s
  /-- The first name. -/
  first : ∃ s, user.value "firstname" = .text s
  /-- The last name. -/
  last : ∃ s, user.value "lastname" = .text s

namespace Database

variable {db db' : Database} {user : Row} {actor actor' : Actor}

/-- What is granted to a user. -/
def grantsOf (db : Database) (user : Row) : List Row :=
  db.userCapabilities.filter fun r => r.value "userid" = .integer user.id

/-- A user is granted a capability. -/
def Grants (db : Database) (user : Row) (capability : String) : Prop :=
  ∃ g ∈ db.userCapabilities, g.value "userid" = .integer user.id ∧
    g.value "capability" = .text capability

/-- Every capability that is granted is a text. -/
def GrantsAreText (db : Database) : Prop :=
  ∀ g ∈ db.userCapabilities, ∃ s, g.value "capability" = .text s

theorem mem_grantsOf {g : Row} :
    g ∈ db.grantsOf user ↔ g ∈ db.userCapabilities ∧ g.value "userid" = .integer user.id := by
  rw [grantsOf, List.mem_filter, decide_eq_true_iff]

/-- The actor of a row is made of the columns of the row and of what is granted to it. -/
theorem actorOf_eq_ok_iff : db.actorOf user = .ok actor ↔
    ∃ username first last n capabilities, user.value "username" = .text username ∧
      user.value "firstname" = .text first ∧ user.value "lastname" = .text last ∧
      user.value "siteadmin" = .integer n ∧
      List.Forall₂ (fun g c => g.value "capability" = .text c) (db.grantsOf user) capabilities ∧
      actor = ⟨user.id, username, Text.fullName first last, decide (n ≠ 0), capabilities⟩ := by
  unfold actorOf
  simp only [bind_eq_ok_iff, textAt_eq_ok_iff, truthAt_eq_ok_iff, mapM_eq_ok_iff, pure,
    Except.pure, Except.ok.injEq]
  constructor
  · rintro ⟨username, hu, first, hf, last, hl, _, ⟨n, hn, rfl⟩, capabilities, hc, rfl⟩
    exact ⟨username, first, last, n, capabilities, hu, hf, hl, hn, hc, rfl⟩
  · rintro ⟨username, first, last, n, capabilities, hu, hf, hl, hn, hc, rfl⟩
    exact ⟨username, hu, first, hf, last, hl, _, ⟨n, hn, rfl⟩, capabilities, hc, rfl⟩

/-- What an actor holds is what the row is granted, or everything. -/
theorem holds_of_actorOf (h : db.actorOf user = .ok actor) {n : Int64}
    (hadmin : user.value "siteadmin" = .integer n) {capability : String} :
    actor.holds capability = true ↔ n ≠ 0 ∨ db.Grants user capability := by
  obtain ⟨username, first, last, n', capabilities, -, -, -, hn, hcapabilities, rfl⟩ :=
    actorOf_eq_ok_iff.1 h
  obtain rfl : n = n' := Value.integer.inj (hadmin.symm.trans hn)
  rw [Actor.holds_iff, decide_eq_true_iff]
  refine or_congr_right ?_
  constructor
  · intro hmem
    obtain ⟨g, hg, hvalue⟩ := exists_of_mem_right hcapabilities hmem
    obtain ⟨hrow, huser⟩ := mem_grantsOf.1 hg
    exact ⟨g, hrow, huser, hvalue⟩
  · rintro ⟨g, hrow, huser, hvalue⟩
    obtain ⟨c, hc, hvalue'⟩ := exists_of_mem_left hcapabilities (mem_grantsOf.2 ⟨hrow, huser⟩)
    rw [hvalue] at hvalue'
    rwa [Value.text.inj hvalue']

/-- Where grants are texts, a row with names and a number for its rank has an actor. -/
theorem exists_actorOf_iff (htext : db.GrantsAreText) {n : Int64}
    (hadmin : user.value "siteadmin" = .integer n) :
    (∃ actor, db.actorOf user = .ok actor) ↔ user.HasNames := by
  simp only [actorOf_eq_ok_iff]
  constructor
  · rintro ⟨_, username, first, last, -, -, hu, hf, hl, -⟩
    exact ⟨⟨username, hu⟩, ⟨first, hf⟩, ⟨last, hl⟩⟩
  · rintro ⟨⟨username, hu⟩, ⟨first, hf⟩, ⟨last, hl⟩⟩
    obtain ⟨capabilities, hcapabilities⟩ := exists_forall₂ fun g hg =>
      htext g (mem_grantsOf.1 hg).1
    exact ⟨_, username, first, last, n, capabilities, hu, hf, hl, hadmin, hcapabilities, rfl⟩

/-! ### Signing in by name -/

/-- The user of a row signs in as an actor. -/
def SignsIn (db : Database) (user : Row) (actor : Actor) : Prop :=
  ∃ name, user.value "username" = .text name ∧ db.loadActor name = .ok actor

/-- Whoever has the name of a user is this user. -/
theorem Sound.findText?_username (hdb : db.Sound) (huser : user ∈ db.users) {name : String}
    (hname : user.value "username" = .text name) :
    db.findText? .users "username" name = some user := by
  cases hfind : db.findText? .users "username" name with
  | none =>
    have hnone := List.find?_eq_none.1 hfind user huser
    exact absurd (decide_eq_true hname) hnone
  | some other =>
    have hother : other ∈ db.rows .users := List.mem_of_find?_eq_some hfind
    have hvalue : other.value "username" = .text name := by simpa using List.find?_some hfind
    have hagree : Agree ["username"] other user := by
      intro c hc
      rw [List.mem_singleton.1 hc, hvalue, hname]
      exact Std.ReflCmp.compare_self
    rw [hdb.eq_of_agree (t := .users) List.mem_cons_self hother huser hagree]

theorem signsIn_iff (hdb : db.Sound) (huser : user ∈ db.users) :
    db.SignsIn user actor ↔ db.actorOf user = .ok actor := by
  have hload : ∀ {name : String}, user.value "username" = .text name →
      (db.loadActor name = .ok actor ↔ db.actorOf user = .ok actor) := by
    intro name hname
    simp only [loadActor, hdb.findText?_username huser hname]
    cases db.actorOf user <;> simp
  constructor
  · rintro ⟨name, hname, hactor⟩
    exact (hload hname).1 hactor
  · intro hactor
    obtain ⟨name, -, -, -, -, hname, -⟩ := actorOf_eq_ok_iff.1 hactor
    exact ⟨name, hname, (hload hname).2 hactor⟩

/-! ### Rows that come later -/

/-- A row of another table, or one that grants something to somebody else, grants nothing to a
user. -/
theorem grantsOf_of_insert {t : TableName} {fields : Fields} {id : Int64}
    (h : db.insert t fields = .ok (db', id))
    (hother : t = .userCapabilities → ∀ r ∈ db'.userCapabilities, r.id = id →
      r.value "userid" ≠ .integer user.id) : db'.grantsOf user = db.grantsOf user := by
  obtain ⟨r, hid, -, -, rfl⟩ := insert_eq_ok h
  by_cases ht : t = .userCapabilities
  · subst ht
    have hr : r ∈ insertRow r db.userCapabilities := mem_insertRow.2 (.inl rfl)
    have hforeign := hother rfl r hr hid
    show (insertRow r db.userCapabilities).filter _ = db.userCapabilities.filter _
    rw [insertRow, List.filter_append, List.filter_cons_of_neg (by simpa using hforeign),
      ← List.filter_append, List.takeWhile_append_dropWhile]
  · have hrows : (db.withRows t (insertRow r (db.rows t))).userCapabilities = db.userCapabilities :=
      rows_withRows_of_ne (Ne.symm ht)
    exact congrArg (List.filter _) hrows

/-- The actor of a row depends on nothing but the row and its grants. -/
theorem actorOf_congr (h : db'.grantsOf user = db.grantsOf user) :
    db'.actorOf user = .ok actor ↔ db.actorOf user = .ok actor := by
  rw [actorOf_eq_ok_iff, actorOf_eq_ok_iff, h]

/-- Later grants add to what an actor holds. -/
theorem GrowsTo.holds (h : db.GrowsTo db') (hactor : db.actorOf user = .ok actor)
    (hactor' : db'.actorOf user = .ok actor') {capability : String}
    (hholds : actor.holds capability = true) : actor'.holds capability = true := by
  obtain ⟨-, -, -, n, -, -, -, -, hadmin, -⟩ := actorOf_eq_ok_iff.1 hactor
  rw [holds_of_actorOf hactor hadmin] at hholds
  rw [holds_of_actorOf hactor' hadmin]
  refine hholds.imp_right ?_
  rintro ⟨g, hg, huser, hcapability⟩
  exact ⟨g, (h.sublist .userCapabilities).subset hg, huser, hcapability⟩

end Database

end PagedReports
