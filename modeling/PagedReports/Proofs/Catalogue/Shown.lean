import PagedReports.Proofs.Catalogue.JoinedRows
import PagedReports.Proofs.Catalogue.Pages

/-!
# What reports over a database show

A report over a database shows each of some things (`Report.ShowsEach`) when its records are those
of the things, in whatever order it is asked for, its rows show them, its total is their number, and
its pages show slices of the records. For a report whose groups of joined rows stand for the things
it is enough that no sum fails and that the record and the cells of each single thing are right
(`Report.showsEach_of_groups`).
-/

namespace PagedReports

open Sql

/-- A definition opened over a database. -/
def Database.report (db : Database) (d : Definition) (actor : Actor) (settings : Settings)
    (now : Int64) : Report Unit :=
  ⟨d, d.filter.resolve actor now, Formatter.ofSettings settings, db.store⟩

theorem Database.openFor_eq_ok {db : Database} {d : Definition} {actor : Actor}
    (hview : d.canView actor = true) (settings : Settings) (now : Int64) :
    Report.openFor d actor settings now db.store = .ok (db.report d actor settings now) :=
  if_pos hview

/-- What a report selects does not depend on the database. -/
theorem Database.selection_report (db : Database) (d : Definition) (actor : Actor)
    (settings : Settings) (now : Int64) :
    (db.report d actor settings now).selection =
      ⟨d.source.origin, Clause.conjoin (d.source.base.toList ++
        ((d.filter.resolve actor now).atom.map fun a => [Token.atom a]).toList),
        d.source.groupBy⟩ := rfl

/-- The link to a plugin. -/
def Formatter.linkTo (f : Formatter) (plugin : Row) : Cell :=
  f.pluginLink (plugin.value "frankenstyle").toText (plugin.value "name").toText

/-- Cells with a date are made where the date can be written. -/
theorem Formatter.exists_date_of_cells {f : Formatter} {seconds : Int64} {cells : Cells}
    {write : Cell → Cells}
    (h : (f.date seconds >>= fun cell => pure (write cell)) = .ok cells) :
    ∃ cell, f.date seconds = .ok cell ∧ write cell = cells := by
  cases hdate : f.date seconds with
  | error e => rw [hdate] at h; cases h
  | ok cell =>
    rw [hdate] at h
    exact ⟨cell, rfl, Except.ok.inj h⟩

/-! ### Times -/

/-- A time lies in a window that ends now if it is no earlier than the start of the window. -/
theorem truth_since_iff {now window t : Int64} (hwindow : 0 ≤ window.toInt)
    (hnow : -0x8000000000000000 ≤ now.toInt - window.toInt) :
    Relation.truth .atLeast (.integer t) (.integer (now - window)) = some true ↔
      now.toInt - window.toInt ≤ t.toInt := by
  have hmax := Int64.toInt_lt now
  have hstart : (now - window).toInt = now.toInt - window.toInt := by
    rw [Int64.toInt_sub]
    exact Int.bmod_eq_of_le (by omega) (by omega)
  have hlt : (Value.integer t).compare (.integer (now - window)) = .lt ↔
      t.toInt < (now - window).toInt := Std.compare_eq_lt
  have htruth : Relation.truth .atLeast (.integer t) (.integer (now - window)) = some true ↔
      (Value.integer t).compare (.integer (now - window)) ≠ .lt := by
    simp [Relation.truth]
  rw [htruth, Ne, hlt, hstart, Int.not_lt]

/-! ### Rows of a report -/

namespace Report

variable {α : Type}

/-- A report over a database has one record and one row for each of some things. -/
structure ShowsEach (r : Report Unit) (db : Database) (xs : List α) (record : α → Record)
    (Shows : α → Cells → Prop) : Prop where
  /-- Whatever order is asked for, the records are those of the things, each once, and each row
  shows what it should. -/
  records : ∀ asked, ∃ ys : List α, ys.Perm xs ∧
    (r.listing asked).records db r.filter.params = .ok (ys.map record) ∧
    ∀ rows, r.Transforms (ys.map record) rows → List.Forall₂ Shows ys rows
  /-- Where dates can be written, all records are shown. -/
  presents : r.formatter.WritesDates → ∀ records, ∃ rows, r.Transforms records rows
  /-- The total is the number of the things. -/
  total : r.selection.count db r.filter.params = xs.length ∧
    ∃ s, r.rowCount (Session.start ()) = .ok (UInt64.ofNat xs.length) s
  /-- Where a store can address them and dates can be written, the count and the pages that are
  fetched tell of these records. -/
  pages : xs.length < 0x8000000000000000 → r.formatter.WritesDates → ∀ asked records,
    (r.listing asked).records db r.filter.params = .ok records → r.ShowsAll asked records

variable {r : Report Unit} {db : Database} {xs : List α} {record : α → Record}
  {Shows : α → Cells → Prop}

/-- A report whose groups stand for things shows each of them, if no sum fails. -/
theorem showsEach_of_groups (hstore : r.store = db.store) (hd : r.definition ∈ Catalogue.all)
    {group : α → List Env} (hgroups : r.selection.groups db r.filter.params = xs.map group)
    (horder : ∀ asked, ∀ x ∈ xs, ∀ o ∈ r.order asked, ∃ v, o.value (group x) = .ok v)
    (houtputs : ∀ x ∈ xs, ∀ o ∈ r.definition.source.outputs, ∃ v, o.value (group x) = .ok v)
    (hrecord : ∀ x ∈ xs, r.definition.source.outputs.map (·.valueOf (group x)) = record x)
    (hshows : ∀ x ∈ xs, ∀ cells,
      r.definition.transform (record x) r.formatter = .ok cells → Shows x cells) :
    r.ShowsEach db xs record Shows := by
  have hcount : r.selection.count db r.filter.params = xs.length := by
    rw [Selection.count, hgroups, List.length_map]
  refine ⟨fun asked => ?_,
    fun hf records => ⟨_, (transforms_iff_eq_map (Catalogue.presents hd) hf).2 rfl⟩,
    ⟨hcount, hcount ▸ rowCount_eq_ok hstore⟩, fun hroom hf asked records hrecords =>
      showsAll hstore (hcount ▸ hroom) hrecords (Catalogue.presents hd) hf⟩
  have hrecords := Listing.records_of_groups (l := r.listing asked) hgroups (horder asked) houtputs
  have hperm := sortByKeys_map_perm ((r.listing asked).order.map OrderTerm.direction)
    (fun x => (r.listing asked).order.map (·.valueOf (group x))) xs
  generalize sortByKeys _ _ = ys at hperm hrecords
  refine ⟨ys, hperm, ?_, fun rows hrows => ?_⟩
  · rw [hrecords]
    exact congrArg _ (List.map_congr_left fun x hx => hrecord x (hperm.mem_iff.1 hx))
  · have hmem : ∀ y ∈ ys, ∀ cells,
        r.definition.transform (record y) r.formatter = .ok cells → Shows y cells :=
      fun y hy => hshows y (hperm.mem_iff.1 hy)
    have hall := List.forall₂_map_left_iff.1 hrows
    exact ((List.forall₂_and_left _ _).2 ⟨hmem, hall⟩).imp fun y cells h => h.1 cells h.2

/-- A report without sums whose joined rows stand for things shows each of them. -/
theorem showsEach_of_envs (hstore : r.store = db.store) (hd : r.definition ∈ Catalogue.all)
    (hplain : r.definition.isPlain = true) {env : α → Env}
    (henvs : r.selection.envs db r.filter.params = xs.map env)
    (hrecord : ∀ x ∈ xs, r.definition.source.outputs.map (·.valueIn (env x)) = record x)
    (hshows : ∀ x ∈ xs, ∀ cells,
      r.definition.transform (record x) r.formatter = .ok cells → Shows x cells) :
    r.ShowsEach db xs record Shows := by
  have hlisting := fun asked => plain_listing hplain asked
  have houtputs := (hlisting ⟨0, 0, none, .ascending⟩).outputs
  have hgroups : r.selection.groups db r.filter.params = xs.map fun x => [env x] :=
    Selection.groups_of_envs (hlisting ⟨0, 0, none, .ascending⟩).groupBy henvs
  refine showsEach_of_groups hstore hd hgroups
    (fun asked x _ o ho => ⟨_, OrderTerm.value_singleton ((hlisting asked).order o ho) (env x)⟩)
    (fun x _ o ho => ⟨_, Output.value_singleton (houtputs o ho) (env x)⟩) (fun x hx => ?_) hshows
  have hvalues : r.definition.source.outputs.map (·.valueOf [env x]) =
      r.definition.source.outputs.map (·.valueIn (env x)) :=
    List.map_congr_left fun o ho => Output.valueOf_singleton (houtputs o ho) (env x)
  rw [hvalues, hrecord x hx]

end Report

end PagedReports
