import PagedReports.Database.Basic

/-!
# The schema

The columns of each table and what its rows must satisfy: which columns must hold something,
which must tell rows apart, and which refer to the rows of another table. A row's own number,
`id`, is not listed: every table has it, and it always tells rows apart.
-/

namespace PagedReports

open Sql

/-- Which values a column prefers. -/
inductive Affinity where
  /-- Whole numbers. -/
  | integer
  /-- Texts. -/
  | text
  deriving DecidableEq, Repr

/-- A column of a table. -/
structure ColumnSpec where
  /-- Its name. -/
  name : String
  /-- Which values it prefers. -/
  affinity : Affinity
  /-- Whether it must hold something. -/
  required : Bool
  /-- What it holds when an insert does not name it. -/
  default : Value
  deriving DecidableEq

/-- What the rows of a table look like. -/
structure TableSchema where
  /-- The columns. -/
  columns : List ColumnSpec
  /-- The columns that together tell rows apart. -/
  uniques : List (List String)
  /-- The columns that hold numbers of another table's rows. -/
  references : List (String × TableName)
  deriving DecidableEq

/-- A column that must hold something and has no default. -/
def ColumnSpec.needed (name : String) (affinity : Affinity) : ColumnSpec :=
  ⟨name, affinity, true, .null⟩

/-- A column that may hold nothing. -/
def ColumnSpec.optional (name : String) (affinity : Affinity) : ColumnSpec :=
  ⟨name, affinity, false, .null⟩

/-- A column that must hold something, and holds a text unless told otherwise. -/
def ColumnSpec.defaultText (name default : String) : ColumnSpec :=
  ⟨name, .text, true, .text default⟩

/-- A column that must hold something, and holds a number unless told otherwise. -/
def ColumnSpec.defaultNumber (name : String) (default : Int64) : ColumnSpec :=
  ⟨name, .integer, true, .integer default⟩

open ColumnSpec in
/-- The schema of a table. -/
def TableName.schema : TableName → TableSchema
  | .users =>
    ⟨[needed "username" .text, defaultText "firstname" "", defaultText "lastname" "",
        defaultNumber "siteadmin" 0], [["username"]], []⟩
  | .userCapabilities =>
    ⟨[needed "userid" .integer, needed "capability" .text], [["userid", "capability"]],
      [("userid", .users)]⟩
  | .categories => ⟨[needed "name" .text], [], []⟩
  | .plugins =>
    ⟨[needed "frankenstyle" .text, needed "name" .text, optional "categoryid" .integer,
        defaultNumber "approved" (-1), defaultNumber "timecreated" 0,
        defaultNumber "timequeued" 0, defaultNumber "timelastreleased" 0],
      [["frankenstyle"]], [("categoryid", .categories)]⟩
  | .contributors =>
    ⟨[needed "pluginid" .integer, needed "userid" .integer, defaultNumber "maintainer" 0], [],
      [("pluginid", .plugins), ("userid", .users)]⟩
  | .versions =>
    ⟨[needed "pluginid" .integer, needed "version" .integer, optional "releasename" .text,
        defaultNumber "timecreated" 0], [], [("pluginid", .plugins)]⟩
  | .reviews =>
    ⟨[needed "versionid" .integer, needed "userid" .integer, defaultNumber "timereviewed" 0,
        defaultNumber "status" 0], [], [("versionid", .versions), ("userid", .users)]⟩
  | .pluginStats =>
    ⟨[needed "pluginid" .integer, needed "timeperiod" .integer, defaultNumber "downloads" 0], [],
      [("pluginid", .plugins)]⟩
  | .partnerAds =>
    ⟨[needed "partnerid" .text, needed "name" .text, optional "imageurl" .text,
        needed "url" .text, optional "country" .text, needed "timesynced" .integer], [], []⟩

/-! ### What a database must satisfy -/

/-- The rows of a table stand in the order of their numbers, no two of which are equal. -/
def Ordered (rows : List Row) : Prop := rows.Pairwise fun a b => a.id < b.id

/-- The required columns of a row hold something. -/
def Complete (schema : TableSchema) (r : Row) : Prop :=
  ∀ c ∈ schema.columns, c.required = true → r.value c.name ≠ .null

/-- Two rows agree on some columns. -/
def Agree (columns : List String) (a b : Row) : Prop :=
  ∀ c ∈ columns, (a.value c).compare (b.value c) = .eq

/-- No two rows of a table agree on columns that tell rows apart. -/
def Distinguished (schema : TableSchema) (rows : List Row) : Prop :=
  ∀ columns ∈ schema.uniques, rows.Pairwise fun a b => ¬Agree columns a b

/-- What the reference columns of a row hold, if anything, are numbers of rows. -/
def Grounded (db : Database) (schema : TableSchema) (r : Row) : Prop :=
  ∀ ref ∈ schema.references, r.value ref.1 ≠ .null →
    ∃ target ∈ db.rows ref.2, r.value ref.1 = .integer target.id

/-- Every table keeps to its schema. -/
structure Database.Sound (db : Database) : Prop where
  /-- Numbers tell rows apart. -/
  ordered : ∀ t, Ordered (db.rows t)
  /-- Required columns hold something. -/
  complete : ∀ t, ∀ r ∈ db.rows t, Complete t.schema r
  /-- Columns that must tell rows apart do. -/
  distinguished : ∀ t, Distinguished t.schema (db.rows t)
  /-- References lead to rows. -/
  grounded : ∀ t, ∀ r ∈ db.rows t, Grounded db t.schema r

theorem Database.sound_empty : Database.empty.Sound where
  ordered t := by cases t <;> exact List.Pairwise.nil
  complete t r h := by cases t <;> cases h
  distinguished t := by cases t <;> intro _ _ <;> exact List.Pairwise.nil
  grounded t r h := by cases t <;> cases h

end PagedReports
