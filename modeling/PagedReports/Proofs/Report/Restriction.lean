import PagedReports.Proofs.Catalogue.OwnContributions
import PagedReports.Proofs.Sql.Grammar

/-!
# What a filter restricts

The condition of a report is that of its query, and the filter is joined to it by AND. Where the
condition of the query is a row of alternatives, the filter therefore restricts the last of them
only (`filter_restricts_iff`): it restricts the rows of the report exactly when each of the other
alternatives implies it, as it does when there are none. A condition in parentheses is one
alternative, so that a filter always restricts it.
-/

namespace PagedReports

open Sql Catalogue

variable {σ : Type}

/-- The filter of a report stands after the condition of its query. -/
theorem Report.condition_eq_append {r : Report σ} {base : Clause Atom} {x : Atom}
    (hbase : r.definition.source.base = some base) (hfilter : r.filter.atom = some x) :
    r.condition = base ++ [.and, .atom x] := by
  rw [condition, hbase, hfilter]
  rfl

/-- A joined row that a selection keeps meets its condition. -/
theorem Sql.Selection.holds_of_mem_envs {s : Selection} {db : Database} {params : List Value}
    {env : Env} (h : env ∈ s.envs db params) : s.condition.holds (Atom.truth db params env) = true := by
  unfold Selection.envs at h
  split at h
  · cases h
  · exact (List.mem_filter.1 h).2

/-- **A filter restricts the last alternative of a condition.** The condition of a query that is
written from atoms with AND, OR, NOT and parentheses is a row of alternatives, and the condition of
the report is true when one of them but the last is true, or the last one and the filter are. So
it is true exactly when the condition of the query and the filter are, as long as no alternative
but the last is true without the filter; and if none ever is, no row that the filter does not
accept is counted or listed. -/
theorem filter_restricts_iff (r : Report σ) {base : Clause Atom} {f : Formula Atom} {x : Atom}
    (hbase : r.definition.source.base = some base) (hspells : Clause.Spells .disjunction f base)
    (hfilter : r.filter.atom = some x) :
    (∃ before last, Clause.Alternatives before last base) ∧
      ∀ before last, Clause.Alternatives before last base →
        (∀ v, (base.holds v = true ↔
            (∃ g ∈ before, g.truth v = some true) ∨ last.truth v = some true) ∧
          (r.condition.holds v = true ↔
            (∃ g ∈ before, g.truth v = some true) ∨
              last.truth v = some true ∧ v x = some true) ∧
          ((r.condition.holds v = true ↔ base.holds v = true ∧ v x = some true) ↔
            ∀ g ∈ before, g.truth v = some true → v x = some true)) ∧
        ((∀ v, ∀ g ∈ before, g.truth v = some true → v x = some true) →
          ∀ db params, ∀ env ∈ r.selection.envs db params, x.truth db params env = some true) := by
  refine ⟨Clause.exists_alternatives hspells, fun before last halternatives => ?_⟩
  have hbaseHolds := halternatives.holds_iff
  have hholds : ∀ v, r.condition.holds v = true ↔
      (∃ g ∈ before, g.truth v = some true) ∨ last.truth v = some true ∧ v x = some true := by
    intro v
    rw [Report.condition_eq_append hbase hfilter, (halternatives.append_and x).holds_iff,
      Formula.truth_and_eq_true_iff]
    rfl
  refine ⟨fun v => ⟨hbaseHolds v, hholds v, ?_⟩, fun himplies db params env henv => ?_⟩
  · rw [hholds, hbaseHolds]
    constructor
    · intro hiff g hg htrue
      exact (hiff.1 (.inl ⟨g, hg, htrue⟩)).2
    · rintro himplies
      constructor
      · rintro (⟨g, hg, htrue⟩ | ⟨hlast, hx⟩)
        · exact ⟨.inl ⟨g, hg, htrue⟩, himplies g hg htrue⟩
        · exact ⟨.inr hlast, hx⟩
      · rintro ⟨hbefore | hlast, hx⟩
        · exact .inl hbefore
        · exact .inr ⟨hlast, hx⟩
  · obtain ⟨g, hg, htrue⟩ | ⟨-, hx⟩ := (hholds _).1 (Selection.holds_of_mem_envs henv)
    · exact himplies _ g hg htrue
    · exact hx

/-! ### Alternatives without parentheses -/

/-- The decision on a plugin is a given one. -/
def decisionIs (code : Int64) : Atom :=
  .comparison ⟨term "p" "approved", .equal, .operand (.number code)⟩

/-- The actor's own plugins that are approved or pending, written as two alternatives. -/
def openPlugins : Definition :=
  { myPlugins with
    name := "openplugins"
    source := { contributionSource with
      base := some [.atom (decisionIs 1), .or, .atom (decisionIs (-1))] } }

/-- Only the pending plugins are restricted to those of the actor. -/
theorem filter_restricts_pending :
    let r := sharedStudio.report openPlugins ⟨1, "ada", "-", false, [editOwnPlugins]⟩
      (Settings.defaults "") 0
    let approved : Formula Atom := .atom (decisionIs 1)
    let pending : Formula Atom := .atom (decisionIs (-1))
    let mine := againstParameter (.column (col "mc" "userid")) .equal
    r.definition.source.base = some [.atom (decisionIs 1), .or, .atom (decisionIs (-1))] ∧
      Clause.Spells .disjunction (.or approved pending)
        [.atom (decisionIs 1), .or, .atom (decisionIs (-1))] ∧
      r.filter.atom = some mine ∧
      ∀ v, (r.condition.holds v = true ↔
          (∃ g ∈ [approved], g.truth v = some true) ∨
            pending.truth v = some true ∧ v mine = some true) ∧
        ((r.condition.holds v = true ↔
            Clause.holds v [.atom (decisionIs 1), .or, .atom (decisionIs (-1))] = true ∧
              v mine = some true) ↔
          ∀ g ∈ [approved], g.truth v = some true → v mine = some true) := by
  intro r approved pending mine
  have hfirst : Clause.Spells .conjunction approved [.atom (decisionIs 1)] := .ofUnit (.atom _)
  have hlast : Clause.Spells .conjunction pending [.atom (decisionIs (-1))] := .ofUnit (.atom _)
  have hspells := Clause.Spells.or (.ofConjunction hfirst) hlast
  have halternatives := Clause.Alternatives.or (.one hfirst) hlast
  obtain ⟨-, hrestricts⟩ := filter_restricts_iff r rfl hspells rfl
  refine ⟨rfl, hspells, rfl, fun v => ?_⟩
  obtain ⟨-, hholds, hiff⟩ := (hrestricts [approved] pending halternatives).1 v
  exact ⟨hholds, hiff⟩

/-- In a report on the plugins of an actor whose condition has two alternatives, a contribution of
another user is counted and listed. -/
theorem others_among_openPlugins :
    let r := sharedStudio.report openPlugins ⟨1, "ada", "-", false, [editOwnPlugins]⟩
      (Settings.defaults "") 0
    sharedStudio.Reached ∧ Report.openFor openPlugins ⟨1, "ada", "-", false, [editOwnPlugins]⟩
        (Settings.defaults "") 0 sharedStudio.store = .ok r ∧
      (∃ f, Clause.Spells .disjunction f [.atom (decisionIs 1), .or, .atom (decisionIs (-1))]) ∧
      r.definition.source.base = some [.atom (decisionIs 1), .or, .atom (decisionIs (-1))] ∧
      r.filter.atom = some (againstParameter (.column (col "mc" "userid")) .equal) ∧
      r.selection.count sharedStudio r.filter.params = 3 ∧
      ∃ env ∈ r.selection.envs sharedStudio r.filter.params,
        (againstParameter (.column (col "mc" "userid")) .equal).truth sharedStudio r.filter.params
          env = some false := by
  refine ⟨reached_sharedStudio, Database.openFor_eq_ok rfl _ _,
    ⟨_, .or (.ofConjunction (.ofUnit (.atom _))) (.ofUnit (.atom _))⟩, rfl, rfl, ?_, ?_⟩ <;>
    decide +kernel

end PagedReports
