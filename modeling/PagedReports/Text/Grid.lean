import PagedReports.Text.Width

/-!
# Grids

Texts in rows and columns with lines drawn around them. Each column is as wide as its widest
line, and each row as high as its highest text.
-/

namespace PagedReports.Text

/-- Texts in rows below a head. Every row has as many texts as the head. -/
structure Grid where
  /-- What stands above the columns. -/
  head : List String
  /-- The rows. -/
  rows : List (List String)
  deriving DecidableEq, Repr

namespace Grid

/-- The lines of a text. -/
def lines (s : String) : List String := (s.toList.splitOn '\n').map String.ofList

/-- As many copies of a character. -/
def run (c : Char) (n : Nat) : String := String.ofList (List.replicate n c)

/-- The width of the widest line of a text. -/
def textWidth (s : String) : Nat := ((lines s).map width).foldl max 0

/-- The widths of the columns, each for its widest line. -/
def widths (g : Grid) : List Nat :=
  g.rows.foldl (fun ws row => List.zipWith max ws (row.map textWidth)) (g.head.map textWidth)

/-- A drawn line, from its ends, its joints and what it is drawn with. -/
def rule (ws : List Nat) (start joint stop : String) (c : Char) : String :=
  start ++ String.intercalate joint (ws.map fun w => run c (w + 2)) ++ stop

/-- A line of a text in its column. -/
def pad (line : String) (w : Nat) : String := " " ++ line ++ run ' ' (w - width line) ++ " "

/-- One drawn line of a row: in each column the text's line of that number, if there is one. -/
def rowLine (ws : List Nat) (row : List String) (i : Nat) : String :=
  "|" ++ String.intercalate "|" (List.zipWith (fun s w => pad ((lines s)[i]?.getD "") w) row ws) ++
    "|"

/-- The drawn lines of a row. -/
def rowLines (ws : List Nat) (row : List String) : List String :=
  (List.range ((row.map fun s => (lines s).length).foldl max 0)).map (rowLine ws row)

/-- The drawn lines of the rows, with lines between rows. -/
def bodyLines (ws : List Nat) (rows : List (List String)) : List String :=
  List.intercalate [rule ws "|" "+" "|" '-'] (rows.map (rowLines ws))

/-- A grid as drawn, without an end of line after the last one. -/
def draw (g : Grid) : String :=
  let ws := g.widths
  let edge := rule ws "+" "+" "+" '-'
  String.intercalate "\n"
    ([edge] ++ rowLines ws g.head ++ [rule ws "+" "=" "+" '='] ++ bodyLines ws g.rows ++ [edge])

end Grid

end PagedReports.Text
