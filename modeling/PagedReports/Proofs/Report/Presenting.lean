import PagedReports.Catalogue
import PagedReports.Proofs.Attempts

/-!
# Presenting records

The rows of a report are what its transform makes of its records, one after another
(`Report.Transforms`). With a pattern of dates that can be read (`Formatter.WritesDates`), what the
directory's reports show of a record is never an error (`Catalogue.presents`). The cells of many
records are then those of each of them (`Report.present_eq_map`), so that presenting does not care
how the records are cut into pages.
-/

namespace PagedReports

open Sql

/-- The pattern of dates can be read. -/
def Formatter.WritesDates (f : Formatter) : Prop :=
  (Calendar.Pattern.parse? f.dateFormat).isSome = true

theorem Formatter.WritesDates.date {f : Formatter} (hf : f.WritesDates) (seconds : Int64) :
    ∃ cell, f.date seconds = .ok cell := by
  obtain ⟨pattern, hpattern⟩ := Option.isSome_iff_exists.1 hf
  unfold Formatter.date Calendar.dateText?
  cases Calendar.Moment.ofSeconds? seconds with
  | none => exact ⟨_, rfl⟩
  | some m => exact ⟨.text (pattern.write m), by rw [hpattern]; rfl⟩

/-- A site that has set nothing writes dates. -/
theorem writesDates_defaults (dataDir : String) :
    (Formatter.ofSettings (Settings.defaults dataDir)).WritesDates := by
  have h : (Calendar.Pattern.parse? "%d %b %Y, %H:%M").isSome = true := by decide +kernel
  exact h

/-- A report shows something of every record: its transform fails for nothing but dates. -/
def Definition.Presents (d : Definition) : Prop :=
  ∀ (record : Record) (f : Formatter), f.WritesDates → ∃ cells, d.transform record f = .ok cells

/-- A report that fails for dates only shows something of every record. -/
theorem Definition.presents_of_date {d : Definition} (i : Nat)
    {cells : Record → Formatter → Cell → Cells}
    (h : ∀ record f, d.transform record f =
      f.date (record.int i) >>= fun cell => .ok (cells record f cell)) : d.Presents := by
  intro record f hf
  obtain ⟨cell, hcell⟩ := hf.date (record.int i)
  rw [h, hcell]
  exact ⟨_, rfl⟩

/-- Each of the directory's reports shows something of every record. -/
theorem Catalogue.presents {d : Definition} (hd : d ∈ all) : d.Presents := by
  simp only [all, List.mem_cons, List.not_mem_nil, or_false] at hd
  rcases hd with rfl | rfl | rfl | rfl | rfl | rfl
  · exact Definition.presents_of_date 5 fun _ _ => rfl
  · exact Definition.presents_of_date 5 fun _ _ => rfl
  · exact Definition.presents_of_date 6 fun _ _ => rfl
  · exact Definition.presents_of_date 4 fun _ _ => rfl
  · exact fun _ _ _ => ⟨_, rfl⟩
  · exact Definition.presents_of_date 4 fun _ _ => rfl

/-! ### Many records -/

namespace Report

variable {σ : Type}

/-- Some rows are what a report makes of some records, one after another. -/
def Transforms (r : Report σ) (records : List Record) (rows : List Cells) : Prop :=
  List.Forall₂ (fun record cells => r.definition.transform record r.formatter = .ok cells)
    records rows

theorem present_eq_ok_iff {r : Report σ} {records : List Record} {rows : List Cells} :
    r.present records = .ok rows ↔ r.Transforms records rows := mapM_eq_ok_iff

/-- What a report shows of a record; nothing if it fails to. -/
def shown (r : Report σ) (record : Record) : Cells :=
  match r.definition.transform record r.formatter with
  | .ok cells => cells
  | .error _ => .empty

theorem present_eq_map {r : Report σ} (hd : r.definition.Presents) (hf : r.formatter.WritesDates)
    (records : List Record) : r.present records = .ok (records.map r.shown) := by
  refine mapM_eq_map fun record _ => ?_
  obtain ⟨cells, hcells⟩ := hd record r.formatter hf
  rw [shown, hcells]

theorem transforms_iff_eq_map {r : Report σ} (hd : r.definition.Presents)
    (hf : r.formatter.WritesDates) {records : List Record} {rows : List Cells} :
    r.Transforms records rows ↔ rows = records.map r.shown := by
  rw [← present_eq_ok_iff, present_eq_map hd hf, Except.ok.injEq, eq_comm]

end Report

end PagedReports
