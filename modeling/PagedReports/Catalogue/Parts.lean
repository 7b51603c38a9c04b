import PagedReports.Report.Definition

/-!
# Parts of the directory's reports

What several of the reports have in common: columns of the tables under their usual short names,
and the join that finds a plugin's first lead maintainer.
-/

namespace PagedReports.Catalogue

open Sql

/-- The seconds of a day. -/
def day : Int64 := 86400

/-- A column of a table under its short name. -/
def col (source column : String) : ColumnRef := ⟨source, column⟩

/-- A column as an output. -/
def out (source column : String) : Output := .column (col source column)

/-- A column as a term. -/
def term (source column : String) : Term := .operand (.column (col source column))

/-- Two columns are equal. -/
def sameAs (a b : ColumnRef) : Comparison Term :=
  ⟨.operand (.column a), .equal, .operand (.column b)⟩

/-- Two columns are equal, inside a query of its own. -/
def sameInside (a b : ColumnRef) : Comparison Operand := ⟨.column a, .equal, .column b⟩

/-- The number of the first row that makes someone lead maintainer of the plugin `p`. -/
def firstLead : Subquery :=
  .least (col "c2" "id") ⟨.contributors, "c2", []⟩
    [sameInside (col "c2" "pluginid") (col "p" "id"),
      ⟨.column (col "c2" "maintainer"), .equal, .number 1⟩]

/-- Joins the first lead maintainer of the plugin `p` as the user `u`, if there is one. -/
def leadJoins : List (Join Term) :=
  [⟨.left, .contributors, "lm", ⟨term "lm" "id", .equal, .subquery firstLead⟩⟩,
    ⟨.left, .users, "u", sameAs (col "u" "id") (col "lm" "userid")⟩]

/-- Joins the category of the plugin `p` as `c`, if there is one. -/
def categoryJoin : Join Term :=
  ⟨.left, .categories, "c", sameAs (col "c" "id") (col "p" "categoryid")⟩

/-- The sort terms of a user's name. -/
def byUser : List Output := [out "u" "lastname", out "u" "firstname"]

/-- The link to the plugin whose component and name come first in a record. -/
def pluginCell (r : Record) (f : Formatter) : Cell := f.pluginLink (r.text 0) (r.text 1)

end PagedReports.Catalogue
