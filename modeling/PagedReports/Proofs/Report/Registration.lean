import Mathlib.Data.List.Nodup
import PagedReports.Catalogue

/-!
# Registration

A registry grows by registrations that are accepted (`Registry.registerAll`). What is accepted
has a name that requests can use and that no other report has, so that every registry which
comes of registrations finds each of its reports by its name (`WellNamed.resolve?_eq_some_iff`).
-/

namespace PagedReports

namespace Registry

/-- Registers definitions one after another. One that is refused changes nothing. -/
def registerAll (r : Registry) (ds : List Definition) : Registry :=
  ds.foldl (fun r d =>
    match r.register d with
    | .ok r' => r'
    | .error _ => r) r

/-- An accepted definition has a name that can be used and that is new, and stands last. -/
theorem register_eq_ok {r r' : Registry} {d : Definition} (h : r.register d = .ok r') :
    r' = ⟨r.entries ++ [d]⟩ ∧ isReportName d.name = true ∧ d.name ∉ r.names := by
  unfold register at h
  cases hobstacle : r.obstacle? d with
  | some flaw => rw [hobstacle] at h; cases h
  | none =>
    rw [hobstacle] at h
    cases h
    unfold obstacle? at hobstacle
    cases hflaw : d.flaw? with
    | some flaw => rw [hflaw] at hobstacle; cases hobstacle
    | none =>
      rw [hflaw] at hobstacle
      simp only at hobstacle
      split at hobstacle
      · cases hobstacle
      rename_i hname
      split at hobstacle
      · cases hobstacle
      rename_i hnew
      exact ⟨rfl, by simpa using hname, hnew⟩

/-- What every accepted registration keeps holds after all of them. -/
theorem registerAll_induction {Inv : Registry → Prop} {ds : List Definition}
    (step : ∀ r r', ∀ d ∈ ds, Inv r → r.register d = .ok r' → Inv r') {r : Registry} (hr : Inv r) :
    Inv (r.registerAll ds) := by
  induction ds generalizing r with
  | nil => exact hr
  | cons d ds ih =>
    have hrest := fun r r' e he => step r r' e (List.mem_cons_of_mem d he)
    simp only [registerAll, List.foldl_cons] at ih ⊢
    cases h : r.register d with
    | error _ => exact ih hrest hr
    | ok r' => exact ih hrest (step r r' d List.mem_cons_self hr h)

/-- What holds of the reports of a registry and of every definition to come holds of all reports. -/
theorem forall_entries_registerAll {P : Definition → Prop} {r : Registry} {ds : List Definition}
    (hr : ∀ d ∈ r.entries, P d) (hds : ∀ d ∈ ds, P d) : ∀ d ∈ (r.registerAll ds).entries, P d := by
  have step : ∀ r r' : Registry, ∀ d ∈ ds, (∀ e ∈ r.entries, P e) → r.register d = .ok r' →
      ∀ e ∈ r'.entries, P e := by
    intro r r' d hd hr h e he
    obtain ⟨rfl, -, -⟩ := register_eq_ok h
    rcases List.mem_append.1 he with he | he
    · exact hr e he
    · rw [List.mem_singleton.1 he]
      exact hds d hd
  exact registerAll_induction step hr

/-! ### Names -/

/-- The names of the reports can be used, and no two reports have the same one. -/
structure WellNamed (r : Registry) : Prop where
  /-- No two reports have the same name. -/
  nodup : r.names.Nodup
  /-- Each name can be used. -/
  named : ∀ d ∈ r.entries, isReportName d.name = true

theorem wellNamed_empty : empty.WellNamed := ⟨List.nodup_nil, fun _ hd => by cases hd⟩

theorem wellNamed_builtin : builtin.WellNamed := ⟨by decide +kernel, by decide +kernel⟩

theorem WellNamed.register {r r' : Registry} {d : Definition} (hr : r.WellNamed)
    (h : r.register d = .ok r') : r'.WellNamed := by
  obtain ⟨rfl, hname, hnew⟩ := register_eq_ok h
  refine ⟨?_, fun e he => ?_⟩
  · simp only [names, List.map_append, List.map_cons, List.map_nil]
    exact List.nodup_append.2 ⟨hr.nodup, by simp, fun a ha b hb heq =>
      hnew (by rw [← List.mem_singleton.1 hb, ← heq]; exact ha)⟩
  · rcases List.mem_append.1 he with he | he
    · exact hr.named e he
    · rw [List.mem_singleton.1 he]
      exact hname

theorem WellNamed.registerAll {r : Registry} (hr : r.WellNamed) (ds : List Definition) :
    (r.registerAll ds).WellNamed :=
  registerAll_induction (fun _ _ _ _ hr h => hr.register h) hr

/-- Every registry that comes of registrations, from an empty one or from that of the directory, is
well named. -/
theorem wellNamed_registerAll {base : Registry} (hbase : base = .empty ∨ base = .builtin)
    (ds : List Definition) : (base.registerAll ds).WellNamed := by
  rcases hbase with rfl | rfl
  · exact wellNamed_empty.registerAll ds
  · exact wellNamed_builtin.registerAll ds

/-! ### Looking reports up -/

theorem resolve?_eq_none_iff {r : Registry} {name : String} :
    r.resolve? name = none ↔ name ∉ r.names := by
  simp [resolve?, names]

theorem WellNamed.resolve?_eq_some_iff {r : Registry} (hr : r.WellNamed) {name : String}
    {d : Definition} : r.resolve? name = some d ↔ d ∈ r.entries ∧ d.name = name := by
  constructor
  · intro h
    exact ⟨List.mem_of_find?_eq_some h, by simpa using List.find?_some h⟩
  · rintro ⟨hd, rfl⟩
    cases h : r.resolve? d.name with
    | none => exact absurd (List.mem_map_of_mem hd) (resolve?_eq_none_iff.1 h)
    | some e =>
      have he : e ∈ r.entries := List.mem_of_find?_eq_some h
      have hname : e.name = d.name := by simpa using List.find?_some h
      exact congrArg some (List.inj_on_of_nodup_map hr.nodup he hd hname)

/-- A request names a report if its name can be used and is that of a report. -/
theorem WellNamed.requested?_eq_some_iff {r : Registry} (hr : r.WellNamed) {request : Request}
    {d : Definition} :
    r.requested? request = some d ↔ d ∈ r.entries ∧ request.reportName? = some d.name := by
  unfold requested?
  cases request.reportName? with
  | none => simp
  | some name =>
    simp only [Option.some.injEq]
    split
    · rw [hr.resolve?_eq_some_iff, eq_comm (a := name)]
    · rename_i hname
      refine ⟨fun h => (by cases h), ?_⟩
      rintro ⟨hd, rfl⟩
      exact absurd (hr.named d hd) hname

theorem requested?_eq_none_iff {r : Registry} {request : Request} :
    r.requested? request = none ↔ request.reportName? = none ∨ ∃ name,
      request.reportName? = some name ∧ (isReportName name = false ∨ name ∉ r.names) := by
  unfold requested?
  cases request.reportName? with
  | none => simp
  | some name =>
    simp only [reduceCtorEq, Option.some.injEq, exists_eq_left', false_or]
    split
    · rename_i hname
      rw [resolve?_eq_none_iff, hname]
      simp
    · rename_i hname
      exact iff_of_true rfl (.inl (Bool.not_eq_true _ ▸ hname))

end Registry

end PagedReports
