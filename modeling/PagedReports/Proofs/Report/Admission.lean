import Mathlib.Data.List.Induction
import PagedReports.Proofs.Report.Registration

/-!
# Admission to a registry

What it takes to be registered: an order, columns that can be told apart, and a name that requests
can use and that is new (`Registry.register_eq_ok_iff`). A registry is the record of its attempts:
after any history of them it holds the definitions of the attempts that succeeded, each under a
name under which no other attempt succeeded, and an attempt that is refused leaves no trace
(`Registry.records_of_attempts`). The registry of the directory is the record of six attempts on an
empty one (`Registry.registerAll_all`), so its histories are those that begin with these.
-/

namespace PagedReports

/-! ### Conditions -/

/-- The characters that names of reports are made of. -/
def nameCharacters : List Char := "abcdefghijklmnopqrstuvwxyz0123456789_".toList

/-- Among the first 128 characters those of names are listed. -/
theorem mem_nameCharacters_ofNat : ∀ n < 128, Char.ofNat n ∈ nameCharacters ↔
    (('a' ≤ Char.ofNat n && Char.ofNat n ≤ 'z') || ('0' ≤ Char.ofNat n && Char.ofNat n ≤ '9') ||
      Char.ofNat n == '_') = true := by
  decide +kernel

theorem mem_nameCharacters_iff {c : Char} : c ∈ nameCharacters ↔
    (('a' ≤ c && c ≤ 'z') || ('0' ≤ c && c ≤ '9') || c == '_') = true := by
  by_cases hc : c.toNat < 128
  · have h := mem_nameCharacters_ofNat c.toNat hc
    rwa [Char.ofNat_toNat] at h
  · -- No character beyond the first 128 is listed or lies in one of the ranges.
    have hsmall : (nameCharacters.all fun b => b.toNat < 128) = true := by decide +kernel
    have hlisted : ∀ b ∈ nameCharacters, b.toNat < 128 := fun b hb =>
      of_decide_eq_true (List.all_eq_true.1 hsmall b hb)
    have hranges : ∀ b : Char, b ≤ 'z' → b.toNat < 128 := fun b hb =>
      Nat.lt_of_le_of_lt (show b.toNat ≤ 122 from hb) (by decide)
    constructor
    · intro hmem
      exact absurd (hlisted c hmem) hc
    · intro hrange
      simp only [Bool.or_eq_true, Bool.and_eq_true, decide_eq_true_eq, beq_iff_eq] at hrange
      rcases hrange with (⟨-, hz⟩ | ⟨-, hnine⟩) | rfl
      · exact absurd (hranges c hz) hc
      · exact absurd (hranges c (Nat.le_trans hnine (by decide))) hc
      · exact absurd (by decide) hc

theorem isReportName_iff {name : String} :
    isReportName name = true ↔ name ≠ "" ∧ ∀ c ∈ name.toList, c ∈ nameCharacters := by
  simp only [isReportName, Bool.and_eq_true, decide_eq_true_eq, List.all_eq_true,
    mem_nameCharacters_iff]

theorem firstRepeat?_eq_none_iff {seen keys : List String} :
    firstRepeat? seen keys = none ↔ keys.Nodup ∧ ∀ key ∈ keys, key ∉ seen := by
  induction keys generalizing seen with
  | nil => simp [firstRepeat?]
  | cons key keys ih =>
    unfold firstRepeat?
    split
    · rename_i hseen
      simp [hseen]
    · rename_i hseen
      rw [ih, List.nodup_cons]
      constructor
      · rintro ⟨hnodup, hnew⟩
        refine ⟨⟨fun hkey => hnew key hkey List.mem_cons_self, hnodup⟩, fun k hk => ?_⟩
        rcases List.mem_cons.1 hk with rfl | hk
        · exact hseen
        · exact fun hmem => hnew k hk (List.mem_cons_of_mem _ hmem)
      · rintro ⟨⟨hkey, hnodup⟩, hnew⟩
        refine ⟨hnodup, fun k hk hmem => ?_⟩
        rcases List.mem_cons.1 hmem with rfl | hmem
        · exact hkey hk
        · exact hnew k (List.mem_cons_of_mem _ hk) hmem

namespace Definition

/-- What a definition needs to be registered where its name is new. -/
structure Admissible (d : Definition) : Prop where
  /-- It has a name. -/
  name_ne_empty : d.name ≠ ""
  /-- The name is made of the characters of names. -/
  named : ∀ c ∈ d.name.toList, c ∈ nameCharacters
  /-- Something orders its rows. -/
  ordered : d.defaultOrder ≠ []
  /-- It shows something. -/
  columns : d.columns ≠ []
  /-- No two of its columns have the same key. -/
  keys : (d.columns.map Column.key).Nodup

theorem flaw?_eq_none_iff {d : Definition} :
    d.flaw? = none ↔ d.defaultOrder ≠ [] ∧ d.columns ≠ [] ∧ (d.columns.map Column.key).Nodup := by
  unfold flaw?
  split
  · simp_all
  split
  · simp_all
  · rename_i horder hcolumns
    rw [Option.map_eq_none_iff, firstRepeat?_eq_none_iff]
    simp_all

theorem admissible_iff {d : Definition} :
    d.Admissible ↔ d.flaw? = none ∧ isReportName d.name = true := by
  rw [flaw?_eq_none_iff, isReportName_iff]
  constructor
  · rintro ⟨hne, hnamed, hordered, hcolumns, hkeys⟩
    exact ⟨⟨hordered, hcolumns, hkeys⟩, hne, hnamed⟩
  · rintro ⟨⟨hordered, hcolumns, hkeys⟩, hne, hnamed⟩
    exact ⟨hne, hnamed, hordered, hcolumns, hkeys⟩

end Definition

namespace Registry

variable {r r' : Registry} {d e : Definition}

theorem obstacle?_eq_none_iff : r.obstacle? d = none ↔ d.Admissible ∧ d.name ∉ r.names := by
  rw [Definition.admissible_iff]
  unfold obstacle?
  cases hflaw : d.flaw? with
  | some flaw => simp
  | none => cases hname : isReportName d.name <;> simp

/-- A definition is registered exactly if it is admissible and its name is new, and then it stands
last. -/
theorem register_eq_ok_iff :
    r.register d = .ok r' ↔ d.Admissible ∧ d.name ∉ r.names ∧ r' = ⟨r.entries ++ [d]⟩ := by
  rw [← and_assoc, ← obstacle?_eq_none_iff]
  unfold register
  cases r.obstacle? d with
  | some flaw => simp
  | none => simp [eq_comm]

/-- Any other definition is refused by its name. -/
theorem register_eq_error (h : ¬(d.Admissible ∧ d.name ∉ r.names)) :
    ∃ flaw, r.register d = .error (.invalidDefinition d.name flaw) := by
  rw [← obstacle?_eq_none_iff] at h
  obtain ⟨flaw, hflaw⟩ := Option.ne_none_iff_exists'.1 h
  exact ⟨flaw, by rw [register, hflaw]⟩

/-! ### Histories of attempts -/

/-- The registry after an attempt, which is the one before it if the attempt is refused. -/
def attempt (r : Registry) (d : Definition) : Registry :=
  match r.register d with
  | .ok r' => r'
  | .error _ => r

theorem attempt_of_ok (h : r.register d = .ok r') : r.attempt d = r' := by rw [attempt, h]

theorem attempt_of_error {err : ReportError} (h : r.register d = .error err) :
    r.attempt d = r := by rw [attempt, h]

theorem registerAll_concat (r : Registry) (ds : List Definition) (d : Definition) :
    r.registerAll (ds ++ [d]) = (r.registerAll ds).attempt d := by
  rw [registerAll, List.foldl_concat]
  rfl

theorem registerAll_append (r : Registry) (ds ds' : List Definition) :
    r.registerAll (ds ++ ds') = (r.registerAll ds).registerAll ds' := List.foldl_append

/-- The reports of a registry are admissible after any history of attempts. -/
theorem admissible_registerAll {ds : List Definition} :
    ∀ d ∈ (empty.registerAll ds).entries, d.Admissible := by
  have step : ∀ r r' : Registry, ∀ d ∈ ds, (∀ e ∈ r.entries, e.Admissible) →
      r.register d = .ok r' → ∀ e ∈ r'.entries, e.Admissible := by
    intro r r' d _ hr h e he
    obtain ⟨hd, -, rfl⟩ := register_eq_ok_iff.1 h
    rcases List.mem_append.1 he with he | he
    · exact hr e he
    · rw [List.mem_singleton.1 he]
      exact hd
  exact registerAll_induction step fun _ h => by cases h

/-- In a history that begins with these attempts and then tries a definition, the definition was
registered. -/
def RegisteredAfter (attempts before : List Definition) (d : Definition) : Prop :=
  before ++ [d] <+: attempts ∧ ∃ r, (empty.registerAll before).register d = .ok r

/-- The reports of a registry are those of the attempts that succeeded. -/
theorem mem_entries_iff {attempts : List Definition} :
    d ∈ (empty.registerAll attempts).entries ↔ ∃ before, RegisteredAfter attempts before d := by
  induction attempts using List.reverseRecOn with
  | nil =>
    constructor
    · intro h
      cases h
    · rintro ⟨before, hbegins, -⟩
      simp at hbegins
  | append_singleton attempts e ih =>
    rw [registerAll_concat]
    constructor
    · intro hd
      have hold : d ∈ (empty.registerAll attempts).entries →
          ∃ before, RegisteredAfter (attempts ++ [e]) before d := by
        intro hd
        obtain ⟨before, hbegins, hok⟩ := ih.1 hd
        exact ⟨before, hbegins.trans (List.prefix_append attempts [e]), hok⟩
      cases hregister : (empty.registerAll attempts).register e with
      | error err =>
        rw [attempt_of_error hregister] at hd
        exact hold hd
      | ok r =>
        rw [attempt_of_ok hregister] at hd
        obtain ⟨-, -, rfl⟩ := register_eq_ok_iff.1 hregister
        rcases List.mem_append.1 hd with hd | hd
        · exact hold hd
        · obtain rfl := List.mem_singleton.1 hd
          exact ⟨attempts, List.prefix_rfl, _, hregister⟩
    · rintro ⟨before, hbegins, r, hok⟩
      rcases List.prefix_concat_iff.1 hbegins with hlast | hbegins
      · obtain ⟨rfl, hde⟩ := List.append_inj' hlast rfl
        obtain rfl := List.singleton_inj.1 hde
        rw [attempt_of_ok hok, (register_eq_ok_iff.1 hok).2.2]
        exact List.mem_append_right _ (List.mem_singleton_self d)
      · have hd := ih.2 ⟨before, hbegins, r, hok⟩
        cases hregister : (empty.registerAll attempts).register e with
        | error err =>
          rw [attempt_of_error hregister]
          exact hd
        | ok r =>
          rw [attempt_of_ok hregister, (register_eq_ok_iff.1 hregister).2.2]
          exact List.mem_append_left _ hd

/-- Under a name a definition is registered at most once: what begins a longer history stands in
its registry already. -/
theorem RegisteredAfter.eq {attempts before before' : List Definition}
    (h : RegisteredAfter attempts before d) (h' : RegisteredAfter attempts before' e)
    (hname : d.name = e.name) : before = before' ∧ d = e := by
  -- Of two different places one comes first; its name is not new at the other.
  have clash : ∀ {before before' : List Definition} {d e : Definition},
      RegisteredAfter attempts before d → RegisteredAfter attempts before' e →
      d.name = e.name → ¬before ++ [d] <+: before' := by
    intro before before' d e h h' hname hfirst
    obtain ⟨r, hok⟩ := h'.2
    have hmem : d ∈ (empty.registerAll before').entries := mem_entries_iff.2 ⟨before, hfirst, h.2⟩
    exact (register_eq_ok_iff.1 hok).2.1 (hname ▸ List.mem_map_of_mem hmem)
  rcases List.prefix_or_prefix_of_prefix h.1 h'.1 with hle | hle
  · rcases List.prefix_concat_iff.1 hle with heq | hfirst
    · obtain ⟨hbefore, hde⟩ := List.append_inj' heq rfl
      exact ⟨hbefore, List.singleton_inj.1 hde⟩
    · exact absurd hfirst (clash h h' hname)
  · rcases List.prefix_concat_iff.1 hle with heq | hfirst
    · obtain ⟨hbefore, hde⟩ := List.append_inj' heq rfl
      exact ⟨hbefore.symm, (List.singleton_inj.1 hde).symm⟩
    · exact absurd hfirst (clash h' h hname.symm)

/-! ### The registry of the directory -/

/-- Admissible definitions with names of their own are all registered, in their order. -/
theorem registerAll_eq_append {ds : List Definition} (hds : ∀ d ∈ ds, d.Admissible)
    (hnames : (r.names ++ ds.map Definition.name).Nodup) :
    r.registerAll ds = ⟨r.entries ++ ds⟩ := by
  induction ds using List.reverseRecOn with
  | nil => rw [List.append_nil]; rfl
  | append_singleton ds d ih =>
    rw [List.map_append, ← List.append_assoc] at hnames
    obtain ⟨hbefore, -, hnew⟩ := List.nodup_append.1 hnames
    have hds' : ∀ e ∈ ds, e.Admissible := fun e he => hds e (List.mem_append_left _ he)
    have hd : d.Admissible := hds d (List.mem_append_right _ (List.mem_singleton_self d))
    have hname : d.name ∉ (⟨r.entries ++ ds⟩ : Registry).names := by
      intro hmem
      rw [names, List.map_append] at hmem
      exact hnew _ hmem _ (List.mem_singleton_self _) rfl
    rw [registerAll_concat, ih hds' hbefore, attempt_of_ok (register_eq_ok_iff.2 ⟨hd, hname, rfl⟩),
      List.append_assoc]

theorem admissible_of_mem_all (hd : d ∈ Catalogue.all) : d.Admissible := by
  have hall : Catalogue.all.all (fun d => d.flaw? == none && isReportName d.name) = true := by
    decide +kernel
  have h := List.all_eq_true.1 hall d hd
  rw [Bool.and_eq_true, beq_iff_eq] at h
  exact Definition.admissible_iff.2 h

/-- The registry of the directory is what its six reports make of an empty one. -/
theorem registerAll_all : empty.registerAll Catalogue.all = builtin :=
  registerAll_eq_append (fun _ => admissible_of_mem_all) wellNamed_builtin.nodup

/-! ### Records of attempts -/

/-- A registry is the record of attempts on an empty one. -/
structure Records (r : Registry) (attempts : List Definition) : Prop where
  /-- No two of its reports have the same name. -/
  nodup : r.names.Nodup
  /-- Each of its reports has a name that requests can use, an order, and columns that can be told
  apart. -/
  admissible : ∀ d ∈ r.entries, d.Admissible
  /-- The next attempt succeeds exactly if its definition is admissible and its name is new, and
  then the definition stands after the others. -/
  accepts : ∀ d r', r.register d = .ok r' ↔
    d.Admissible ∧ d.name ∉ r.names ∧ r' = ⟨r.entries ++ [d]⟩
  /-- If it does not succeed, it is refused by its name, and whoever asks sees no difference. -/
  refuses : ∀ d, ¬(d.Admissible ∧ d.name ∉ r.names) →
    (∃ flaw, r.register d = .error (.invalidDefinition d.name flaw)) ∧
      (r.attempt d).names = r.names ∧ (∀ name, (r.attempt d).resolve? name = r.resolve? name) ∧
      ∀ actor, (r.attempt d).viewable actor = r.viewable actor
  /-- A name stands for the definition that was registered under it. -/
  resolves : ∀ name d, r.resolve? name = some d ↔
    d.name = name ∧ ∃ before, RegisteredAfter attempts before d
  /-- Only one attempt under a name succeeded. -/
  once : ∀ before before' d e, RegisteredAfter attempts before d →
    RegisteredAfter attempts before' e → d.name = e.name → before = before' ∧ d = e

/-- Attempts on an empty registry leave the record of them. -/
theorem records_registerAll (attempts : List Definition) :
    (empty.registerAll attempts).Records attempts := by
  have hnamed := wellNamed_empty.registerAll attempts
  refine ⟨hnamed.nodup, admissible_registerAll, fun d r' => register_eq_ok_iff, fun d hd => ?_,
    fun name d => ?_, fun before before' d e h h' hname => h.eq h' hname⟩
  · obtain ⟨flaw, hflaw⟩ := register_eq_error hd
    rw [attempt_of_error hflaw]
    exact ⟨⟨flaw, hflaw⟩, rfl, fun _ => rfl, fun _ => rfl⟩
  · rw [hnamed.resolve?_eq_some_iff, mem_entries_iff, and_comm]

/-- **A registry is the record of its attempts.** Whatever definitions are tried, on an empty
registry or on that of the directory, in whatever order and however often, the registry after them
is the record of all attempts; those of the directory's registry begin with its six reports. -/
theorem records_of_attempts (attempts : List Definition) :
    (empty.registerAll attempts).Records attempts ∧
      (builtin.registerAll attempts).Records (Catalogue.all ++ attempts) := by
  refine ⟨records_registerAll attempts, ?_⟩
  have h := records_registerAll (Catalogue.all ++ attempts)
  rwa [registerAll_append, registerAll_all] at h

end Registry

end PagedReports
