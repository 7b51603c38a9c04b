import PagedReports.Proofs.Sql.Joins
import PagedReports.Proofs.Sql.Records
import PagedReports.Catalogue

/-!
# The queries of the directory's reports

Every join of a report asks for the row of a table with a given number: that of another column
(`looksUp_sameAs`), or that of the first row that makes someone lead maintainer of a plugin
(`looksUp_firstLead`). The joined rows of a report are therefore no more than the rows of the
table that it starts from (`Catalogue.joins_lookUp`). A report without sums has plain listings
(`Report.plain_listing`), which never fail.
-/

namespace PagedReports

open Sql

/-! ### Columns of joined rows -/

namespace Sql.Env

@[simp] theorem value_cons_self (source column : String) (row : Row) (env : Env) :
    Env.value ((source, some row) :: env) ⟨source, column⟩ = row.value column := by
  simp [Env.value]

theorem value_cons_of_ne {source : String} {c : ColumnRef} (h : c.source ≠ source)
    (row : Option Row) (env : Env) : Env.value ((source, row) :: env) c = env.value c := by
  simp [Env.value, List.lookup_cons, beq_eq_false_iff_ne.2 h]

end Sql.Env

namespace Catalogue

variable {db : Database} {params : List Value}

/-! ### Single joins -/

/-- Where the number of a joined row is that of another column, the row is looked up. -/
theorem looksUp_columns {τ : Type} {value : Env → τ → Value} (ofColumn : ColumnRef → τ)
    (hvalue : ∀ env c, value env (ofColumn c) = env.value c) {kind : JoinKind} {t : TableName}
    {source : String} {other : ColumnRef} (h : other.source ≠ source) :
    Join.LooksUp value
      ⟨kind, t, source, ⟨ofColumn (col source "id"), .equal, ofColumn other⟩⟩
      fun env => env.value other where
  relation := rfl
  left row env := by
    rw [hvalue]
    exact Env.value_cons_self source "id" row env
  right row env := by
    rw [hvalue]
    exact Env.value_cons_of_ne h (some row) env

theorem looksUp_sameAs {kind : JoinKind} {t : TableName} {source : String} {other : ColumnRef}
    (h : other.source ≠ source) :
    Join.LooksUp (Term.value db params) ⟨kind, t, source, sameAs (col source "id") other⟩
      fun env => env.value other :=
  looksUp_columns (fun c => Term.operand (.column c)) (fun _ _ => rfl) h

theorem looksUp_sameInside {kind : JoinKind} {t : TableName} {source : String} {other : ColumnRef}
    (h : other.source ≠ source) :
    Join.LooksUp (Operand.value params) ⟨kind, t, source, sameInside (col source "id") other⟩
      fun env => env.value other :=
  looksUp_columns Operand.column (fun _ _ => rfl) h

/-- The rows that make someone lead maintainer of the plugin with a number. -/
def leads (db : Database) (pluginId : Value) : List Row :=
  (db.rows .contributors).filter fun row =>
    Relation.truth .equal (row.value "pluginid") pluginId = some true &&
      Relation.truth .equal (row.value "maintainer") (.integer 1) = some true

/-- The first lead maintainer is the one with the least number. -/
theorem value_firstLead (env : Env) :
    firstLead.value db params env =
      leastValue ((leads db (env.value (col "p" "id"))).map fun row => .integer row.id) := by
  have hplugin : ∀ row : Row, Env.value (("c2", some row) :: env) (col "p" "id") =
      env.value (col "p" "id") := fun row => Env.value_cons_of_ne (by decide) (some row) env
  simp only [firstLead, Subquery.value, innerEnvs, Tables.envs, List.foldl_nil, List.filter_map,
    List.map_map, leads]
  congr 2
  refine List.filter_congr fun row _ => ?_
  simp only [Function.comp_apply, sameInside, List.all_cons, List.all_nil, Bool.and_true,
    Comparison.truth, Operand.value, hplugin]
  rfl

/-- The first lead maintainer of the plugin is looked up. -/
theorem looksUp_firstLead :
    Join.LooksUp (Term.value db params)
      ⟨.left, .contributors, "lm", ⟨term "lm" "id", .equal, .subquery firstLead⟩⟩
      fun env => firstLead.value db params env where
  relation := rfl
  left row env := Env.value_cons_self "lm" "id" row env
  right row env := by
    change firstLead.value db params _ = _
    rw [value_firstLead, value_firstLead, Env.value_cons_of_ne (by decide)]

/-! ### All joins of a report -/

theorem leadJoins_lookUp : ∀ j ∈ leadJoins, ∃ key, j.LooksUp (Term.value db params) key :=
  List.forall_mem_cons.2 ⟨⟨_, looksUp_firstLead⟩,
    List.forall_mem_singleton.2 ⟨_, looksUp_sameAs (by decide)⟩⟩

/-- Each join of a report looks a row up. -/
theorem joins_lookUp {d : Definition} (hd : d ∈ all) :
    ∃ t : Tables Term, d.source.origin = .tables t ∧
      ∀ (db : Database) (params : List Value), ∀ j ∈ t.joins,
        ∃ key, j.LooksUp (Term.value db params) key := by
  have hqueue : ∀ (db : Database) (params : List Value), ∀ j ∈ categoryJoin :: leadJoins,
      ∃ key, j.LooksUp (Term.value db params) key := fun _ _ =>
    List.forall_mem_cons.2 ⟨⟨_, looksUp_sameAs (by decide)⟩, leadJoins_lookUp⟩
  simp only [all, List.mem_cons, List.not_mem_nil, or_false] at hd
  rcases hd with rfl | rfl | rfl | rfl | rfl | rfl
  · exact ⟨_, rfl, hqueue⟩
  · exact ⟨_, rfl, hqueue⟩
  · refine ⟨_, rfl, fun _ _ => List.forall_mem_cons.2 ⟨⟨_, looksUp_sameAs (by decide)⟩, ?_⟩⟩
    refine List.forall_mem_cons.2 ⟨⟨_, looksUp_sameAs (by decide)⟩, ?_⟩
    exact List.forall_mem_singleton.2 ⟨_, looksUp_sameAs (by decide)⟩
  · exact ⟨_, rfl, fun _ _ =>
      List.forall_mem_cons.2 ⟨⟨_, looksUp_sameAs (by decide)⟩, leadJoins_lookUp⟩⟩
  · exact ⟨_, rfl, fun _ _ => List.forall_mem_cons.2 ⟨⟨_, looksUp_sameAs (by decide)⟩,
      List.forall_mem_singleton.2 ⟨_, looksUp_sameAs (by decide)⟩⟩⟩
  · exact ⟨_, rfl, fun _ _ => List.forall_mem_singleton.2 ⟨_, looksUp_sameAs (by decide)⟩⟩

end Catalogue

/-! ### Plain listings -/

/-- Whether a report neither groups rows nor gives or sorts by sums. -/
def Definition.isPlain (d : Definition) : Bool :=
  d.source.groupBy.isNone && d.source.outputs.all (!·.isSum) &&
    d.columns.all (·.order.all (!·.isSum)) && d.defaultOrder.all (!·.isSum)

/-- What holds of each term that a column can ask for, and of the terms of the default order, holds
of every term that a report is sorted by. -/
theorem Report.forall_order {σ : Type} {r : Report σ} {P : OrderTerm → Prop}
    (hcolumns : ∀ c ∈ r.definition.columns, ∀ o ∈ c.order, ∀ d, P (.by o d))
    (hdefault : ∀ o ∈ r.definition.defaultOrder, P o) (p : Paging) : ∀ o ∈ r.order p, P o := by
  intro o ho
  rcases List.mem_append.1 ho with ho | ho
  · cases hcolumn : p.sortKey.bind r.definition.sortableColumn? with
    | none => rw [hcolumn] at ho; cases ho
    | some c =>
      rw [hcolumn] at ho
      obtain ⟨key, -, hkey⟩ := Option.bind_eq_some_iff.1 hcolumn
      obtain ⟨output, houtput, rfl⟩ := List.mem_map.1 ho
      exact hcolumns c (List.mem_of_find?_eq_some hkey) output houtput p.direction
  · exact hdefault o ho

/-- Every listing of a report without sums is plain, whatever order is asked for. -/
theorem Report.plain_listing {σ : Type} {r : Report σ} (h : r.definition.isPlain = true)
    (p : Paging) : (r.listing p).Plain := by
  simp only [Definition.isPlain, Bool.and_eq_true, Option.isNone_iff_eq_none, List.all_eq_true,
    Bool.not_eq_true'] at h
  obtain ⟨⟨⟨hgroup, houtputs⟩, hcolumns⟩, hdefault⟩ := h
  exact ⟨hgroup, houtputs, Report.forall_order (fun c hc o ho _ => hcolumns c hc o ho) hdefault p⟩

end PagedReports
