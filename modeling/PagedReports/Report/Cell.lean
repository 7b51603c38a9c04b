import PagedReports.Calendar.Pattern
import PagedReports.Error
import PagedReports.Html.Node
import PagedReports.Settings
import PagedReports.Text.Blank

/-!
# Cells

What a report shows of a row: a cell for each column key, which is text or a link. A `Formatter`
makes the cells that depend on the settings.
-/

namespace PagedReports

/-- What is shown in one place of a report. -/
inductive Cell where
  /-- A text. -/
  | text (s : String)
  /-- A link. -/
  | link (href label : String)
  deriving DecidableEq, Repr

namespace Cell

/-- The text of a cell, or the label of a link. -/
def plain : Cell → String
  | text s => s
  | link _ label => label

/-- A cell as markup. -/
def node : Cell → Html.Node
  | text s => .text s
  | link href label => .element "a" [("href", href)] [.text label]

/-- A cell as written markup. -/
def html (c : Cell) : String := c.node.write

end Cell

/-- The cells of a row by column key. The first pair with a key counts. -/
structure Cells where
  /-- Keys and cells. -/
  pairs : List (String × Cell)
  deriving DecidableEq, Repr

namespace Cells

/-- A row without cells. -/
def empty : Cells := ⟨[]⟩

/-- The row with another cell, in place of any that has the same key. -/
def insert (cs : Cells) (key : String) (c : Cell) : Cells := ⟨(key, c) :: cs.pairs⟩

/-- The cell with a key. -/
def get? (cs : Cells) (key : String) : Option Cell := cs.pairs.lookup key

/-- The text of the cell with a key; empty when there is none. -/
def text (cs : Cells) (key : String) : String := ((cs.get? key).map Cell.plain).getD ""

theorem get?_insert (cs : Cells) (key other : String) (c : Cell) :
    (cs.insert key c).get? other = if other = key then some c else cs.get? other := by
  by_cases h : other = key
  · simp [insert, get?, h]
  · simp [insert, get?, h, List.lookup_cons, beq_eq_false_iff_ne.2 h]

end Cells

/-- How dates and links are shown. -/
structure Formatter where
  /-- The pattern of dates. -/
  dateFormat : String
  /-- What links start with, without slashes at the end. -/
  baseUrl : String
  deriving DecidableEq, Repr

namespace Formatter

/-- The formatter of a site. -/
def ofSettings (s : Settings) : Formatter := ⟨s.dateFormat, Text.dropTrailing '/' s.baseUrl⟩

/-- A date, or a dash for a count of seconds that names none. -/
def date (f : Formatter) (seconds : Int64) : Except ReportError Cell :=
  match Calendar.dateText? f.dateFormat seconds with
  | some s => .ok (.text s)
  | none => .error .badDatePattern

/-- A link to a plugin, under its name, or under its component name if it has none. -/
def pluginLink (f : Formatter) (component name : String) : Cell :=
  .link (f.baseUrl ++ "/" ++ component) (if name = "" then component else name)

end Formatter

end PagedReports
