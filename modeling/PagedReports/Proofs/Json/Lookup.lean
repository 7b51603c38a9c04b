import Mathlib.Data.List.Basic
import PagedReports.Json.View
import PagedReports.Proofs.Attempts

/-!
# Looking things up in documents

Objects keep their entries in the order of their names. Where the names are all different, each
entry is found under its name (`at?_sorted`). So the document of a page gives back the labels of
the columns and, row by row, the cells of the page (`viewHeads?_viewDocument`,
`viewCells?_viewDocument`), if no two columns have one key.
-/

namespace PagedReports.Json

/-! ### Entries -/

/-- The entry of an object with a name. -/
def Value.at? (key : String) : Value → Option Value
  | object entries => entries.lookup key
  | _ => none

/-- The items of a list. -/
def Value.items? : Value → Option (List Value)
  | array items => some items
  | _ => none

/-- The text that a document is. -/
def Value.text? : Value → Option String
  | string s => some s
  | _ => none

/-- The truth value that a document is. -/
def Value.flag? : Value → Option Bool
  | bool b => some b
  | _ => none

/-- An entry is found under its name where it is put in, and the others as before. -/
theorem lookup_insertEntry (key name : String) (v : Value) (entries : List (String × Value)) :
    (insertEntry key v entries).lookup name =
      if name = key then some v else entries.lookup name := by
  induction entries with
  | nil =>
    by_cases h : name = key
    · simp [insertEntry, h]
    · simp [insertEntry, h, List.lookup_cons, beq_eq_false_iff_ne.2 h]
  | cons e entries ih =>
    obtain ⟨k, w⟩ := e
    rw [insertEntry]
    by_cases h : name = key
    · subst h
      by_cases hk : name = k
      · subst hk
        simp
      · have hbeq : (name == k) = false := beq_eq_false_iff_ne.2 hk
        split
        · simp
        · simp [List.lookup_cons, hbeq, ih]
    · have hbeq : (name == key) = false := beq_eq_false_iff_ne.2 h
      split_ifs with hlt heq
      · simp [List.lookup_cons, hbeq]
      · subst heq
        simp [List.lookup_cons, hbeq]
      · rw [List.lookup_cons, List.lookup_cons, ih, if_neg h]

/-- Entries with other names do not matter. -/
theorem lookup_foldl_insertEntry {name : String} {entries : List (String × Value)}
    (h : name ∉ entries.map Prod.fst) (before : List (String × Value)) :
    (entries.foldl (fun acc e => insertEntry e.1 e.2 acc) before).lookup name =
      before.lookup name := by
  induction entries generalizing before with
  | nil => rfl
  | cons e entries ih =>
    rw [List.map_cons, List.mem_cons, not_or] at h
    rw [List.foldl_cons, ih h.2, lookup_insertEntry, if_neg h.1]

/-- Each entry of an object is found under its name, if the names are all different. -/
theorem at?_sorted {entries : List (String × Value)} (hnodup : (entries.map Prod.fst).Nodup)
    {name : String} {v : Value} (h : (name, v) ∈ entries) :
    (Value.sorted entries).at? name = some v := by
  have hfold : ∀ before : List (String × Value),
      (entries.foldl (fun acc e => insertEntry e.1 e.2 acc) before).lookup name = some v := by
    induction entries with
    | nil => cases h
    | cons e entries ih =>
      intro before
      rw [List.map_cons, List.nodup_cons] at hnodup
      rw [List.foldl_cons]
      rcases List.mem_cons.1 h with rfl | h
      · rw [lookup_foldl_insertEntry hnodup.1, lookup_insertEntry, if_pos rfl]
      · exact ih hnodup.2 h _
  exact hfold []

/-! ### The document of a page -/

/-- The cell that a document stands for, or nothing where it is empty. -/
def Value.cell? : Value → Option (Option Cell)
  | null => some none
  | string s => some (some (.text s))
  | v => do
    let label ← (v.at? "label").bind text?
    let href ← (v.at? "href").bind text?
    return some (.link href label)

/-- What a document says of a column. -/
structure Head where
  /-- The key of the cells. -/
  key : String
  /-- The label. -/
  label : String
  /-- Whether rows can be sorted by the column. -/
  sortable : Bool
  deriving DecidableEq, Repr

/-- The head that the document of a column gives. -/
def Value.head? (v : Value) : Option Head := do
  let key ← (v.at? "key").bind text?
  let label ← (v.at? "label").bind text?
  let sortable ← (v.at? "sortable").bind flag?
  return ⟨key, label, sortable⟩

/-- The heads of the columns in the document of a page. -/
def Value.viewHeads? (v : Value) : Option (List Head) :=
  ((v.at? "columns").bind items?).bind fun columns => columns.mapM head?

/-- The cells of the rows in the document of a page, each looked up under the key of its column. -/
def Value.viewCells? (v : Value) : Option (List (List (Option Cell))) := do
  let heads ← v.viewHeads?
  let rows ← (v.at? "rows").bind items?
  rows.mapM fun row => heads.mapM fun head => (row.at? head.key).bind cell?

/-- The document of a cell stands for that cell. -/
theorem cell?_cellValue (c : Cell) : (cellValue c).cell? = some (some c) := by
  cases c with
  | text s => rfl
  | link href label =>
    have hlabel : (cellValue (.link href label)).at? "label" = some (.string label) :=
      at?_sorted (by simp) (by simp)
    have hhref : (cellValue (.link href label)).at? "href" = some (.string href) :=
      at?_sorted (by simp) (by simp)
    change (((cellValue (.link href label)).at? "label").bind Value.text?).bind (fun label' =>
      (((cellValue (.link href label)).at? "href").bind Value.text?).bind fun href' =>
        some (some (Cell.link href' label'))) = _
    rw [hlabel, hhref]
    rfl

theorem head?_columnValue (c : Column) :
    (columnValue c).head? = some ⟨c.key, c.label, c.isSortable⟩ := by
  have hkey : (columnValue c).at? "key" = some (.string c.key) :=
    at?_sorted (by simp) (by simp)
  have hlabel : (columnValue c).at? "label" = some (.string c.label) :=
    at?_sorted (by simp) (by simp)
  have hsortable : (columnValue c).at? "sortable" = some (.bool c.isSortable) :=
    at?_sorted (by simp) (by simp)
  rw [Value.head?, hkey, hlabel, hsortable]
  rfl

/-- The document of a page names its columns in their order. -/
theorem viewHeads?_viewDocument (v : View) :
    (viewDocument v).viewHeads? =
      some (v.columns.map fun c => ⟨c.key, c.label, c.isSortable⟩) := by
  have hcolumns : (viewDocument v).at? "columns" = some (.array (v.columns.map columnValue)) :=
    at?_sorted (by simp) (by simp)
  rw [Value.viewHeads?, hcolumns]
  simp only [Option.bind_some, Value.items?, List.mapM_map]
  exact mapM_eq_some_map fun c _ => head?_columnValue c

/-- A row of the document of a page has the cell of each column under its key. -/
theorem at?_rowValue {columns : List Column} (hkeys : (columns.map Column.key).Nodup)
    (cells : Cells) {c : Column} (hc : c ∈ columns) :
    ((rowValue columns cells).at? c.key).bind Value.cell? = some (cells.get? c.key) := by
  have hnames : ((columns.map fun c =>
      (c.key, ((cells.get? c.key).map cellValue).getD .null)).map Prod.fst).Nodup := by
    rwa [List.map_map]
  have hentry := at?_sorted hnames (List.mem_map_of_mem hc)
  rw [rowValue, hentry, Option.bind_some]
  cases cells.get? c.key with
  | none => rfl
  | some cell => exact cell?_cellValue cell

/-- **The document of a page holds its cells**, if no two of its columns have one key. -/
theorem viewCells?_viewDocument {v : View} (hkeys : (v.columns.map Column.key).Nodup) :
    (viewDocument v).viewCells? =
      some (v.page.rows.map fun cells => v.columns.map fun c => cells.get? c.key) := by
  have hrows : (viewDocument v).at? "rows" =
      some (.array (v.page.rows.map (rowValue v.columns))) :=
    at?_sorted (by simp) (by simp)
  rw [Value.viewCells?, viewHeads?_viewDocument, hrows]
  simp only [Option.bind_eq_bind, Option.bind_some, Value.items?, List.mapM_map]
  exact mapM_eq_some_map fun cells _ => mapM_eq_some_map fun c hc => at?_rowValue hkeys cells hc

end PagedReports.Json
