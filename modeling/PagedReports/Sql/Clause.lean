/-!
# Conditions

A WHERE condition as it is written: atoms, connectives and parentheses in a row. `Clause.read?`
groups them as SQL does, NOT before AND before OR, into a `Formula`, and a clause holds when the
formula it reads as is true in the logic of true, false and unknown.
-/

namespace PagedReports.Sql

/-- A piece of a written condition. -/
inductive Token (α : Type) where
  /-- A condition without connectives. -/
  | atom (a : α)
  /-- The word AND. -/
  | and
  /-- The word OR. -/
  | or
  /-- The word NOT. -/
  | not
  /-- An opening parenthesis. -/
  | opening
  /-- A closing parenthesis. -/
  | closing
  deriving DecidableEq, Repr

/-- A written condition; an empty one says nothing. -/
abbrev Clause (α : Type) := List (Token α)

/-- A condition that has been read. -/
inductive Formula (α : Type) where
  /-- An atom. -/
  | atom (a : α)
  /-- A negation. -/
  | not (f : Formula α)
  /-- A conjunction. -/
  | and (f g : Formula α)
  /-- A disjunction. -/
  | or (f g : Formula α)
  deriving DecidableEq, Repr

namespace Formula

variable {α : Type}

/-- The truth of a formula; `none` is unknown. -/
def truth (v : α → Option Bool) : Formula α → Option Bool
  | atom a => v a
  | not f => (f.truth v).map (!·)
  | and f g =>
    match f.truth v, g.truth v with
    | some false, _ => some false
    | _, some false => some false
    | some true, some true => some true
    | _, _ => none
  | or f g =>
    match f.truth v, g.truth v with
    | some true, _ => some true
    | _, some true => some true
    | some false, some false => some false
    | _, _ => none

end Formula

namespace Clause

variable {α : Type}

/-! ### Reading

Each reader takes what it can from the start of a clause and returns the rest. The number bounds
the depth of the recursion. -/

mutual

/-- Reads an atom, a negation or a formula in parentheses. -/
def readUnit? : Nat → Clause α → Option (Formula α × Clause α)
  | n + 1, .not :: rest => (readUnit? n rest).map fun r => (.not r.1, r.2)
  | _ + 1, .atom a :: rest => some (.atom a, rest)
  | n + 1, .opening :: rest =>
    match readOr? n rest with
    | some (f, .closing :: rest) => some (f, rest)
    | _ => none
  | _, _ => none

/-- Reads units joined by AND. -/
def readAnd? : Nat → Clause α → Option (Formula α × Clause α)
  | n + 1, c =>
    match readUnit? n c with
    | some (f, rest) => andMore? n f rest
    | none => none
  | 0, _ => none

/-- Goes on after a conjunction that has been read. -/
def andMore? : Nat → Formula α → Clause α → Option (Formula α × Clause α)
  | n + 1, f, .and :: rest =>
    match readUnit? n rest with
    | some (g, rest) => andMore? n (.and f g) rest
    | none => none
  | _, f, rest => some (f, rest)

/-- Reads conjunctions joined by OR. -/
def readOr? : Nat → Clause α → Option (Formula α × Clause α)
  | n + 1, c =>
    match readAnd? n c with
    | some (f, rest) => orMore? n f rest
    | none => none
  | 0, _ => none

/-- Goes on after a disjunction that has been read. -/
def orMore? : Nat → Formula α → Clause α → Option (Formula α × Clause α)
  | n + 1, f, .or :: rest =>
    match readAnd? n rest with
    | some (g, rest) => orMore? n (.or f g) rest
    | none => none
  | _, f, rest => some (f, rest)

end

/-- The formula that a clause reads as. -/
def read? (c : Clause α) : Option (Formula α) :=
  match readOr? (4 * c.length + 4) c with
  | some (f, []) => some f
  | _ => none

/-- A clause holds when it says nothing or what it says is true. -/
def holds (v : α → Option Bool) (c : Clause α) : Bool :=
  match c with
  | [] => true
  | c => (c.read?.bind (·.truth v)) == some true

/-- The clauses that say something, joined by AND. -/
def conjoin (cs : List (Clause α)) : Clause α := List.intercalate [.and] cs

/-! ### Writing -/

/-- The text of a piece, for a text of every atom. -/
def tokenSql (atomSql : α → String) : Token α → String
  | .atom a => atomSql a
  | .and => " AND "
  | .or => " OR "
  | .not => "NOT "
  | .opening => "("
  | .closing => ")"

/-- The text of a clause; a clause that says nothing is written as a truth. -/
def sql (atomSql : α → String) (c : Clause α) : String :=
  match c with
  | [] => "1 = 1"
  | c => String.join (c.map (tokenSql atomSql))

end Clause

end PagedReports.Sql
