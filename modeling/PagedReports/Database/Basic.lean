import PagedReports.Sql.Value

/-!
# Tables

The nine tables of the plugins directory. A row has a number and named values; a table is the
list of its rows in the order of their numbers.
-/

namespace PagedReports

open Sql

/-- The tables of the directory. -/
inductive TableName where
  /-- Who can sign in. -/
  | users
  /-- Which capabilities are granted to whom. -/
  | userCapabilities
  /-- What plugins are filed under. -/
  | categories
  /-- The plugins. -/
  | plugins
  /-- Who works on which plugin. -/
  | contributors
  /-- The versions of plugins. -/
  | versions
  /-- What reviewers wrote on versions. -/
  | reviews
  /-- Download counts per plugin and period. -/
  | pluginStats
  /-- The ads of partners. -/
  | partnerAds
  deriving DecidableEq, Repr

namespace TableName

/-- All tables. -/
def all : List TableName :=
  [users, userCapabilities, categories, plugins, contributors, versions, reviews, pluginStats,
    partnerAds]

/-- The name of a table in a query. -/
def sql : TableName → String
  | users => "users"
  | userCapabilities => "user_capabilities"
  | categories => "categories"
  | plugins => "plugins"
  | contributors => "contributors"
  | versions => "versions"
  | reviews => "reviews"
  | pluginStats => "plugin_stats"
  | partnerAds => "partner_ads"

/-- The table of that name. -/
def ofSql? (name : String) : Option TableName := all.find? (·.sql = name)

theorem mem_all (t : TableName) : t ∈ all := by cases t <;> decide

end TableName

/-- A row of a table. -/
structure Row where
  /-- The number of the row, which no other row of the table has. -/
  id : Int64
  /-- The values of the other columns, by name. -/
  cells : List (String × Value)
  deriving DecidableEq

/-- The value of a column of a row; nothing when there is no such column. -/
def Row.value (r : Row) (column : String) : Value :=
  if column = "id" then .integer r.id else (r.cells.lookup column).getD .null

/-- The rows of every table. -/
structure Database where
  /-- The rows of `users`. -/
  users : List Row
  /-- The rows of `user_capabilities`. -/
  userCapabilities : List Row
  /-- The rows of `categories`. -/
  categories : List Row
  /-- The rows of `plugins`. -/
  plugins : List Row
  /-- The rows of `contributors`. -/
  contributors : List Row
  /-- The rows of `versions`. -/
  versions : List Row
  /-- The rows of `reviews`. -/
  reviews : List Row
  /-- The rows of `plugin_stats`. -/
  pluginStats : List Row
  /-- The rows of `partner_ads`. -/
  partnerAds : List Row
  deriving DecidableEq

namespace Database

/-- A database without any rows. -/
def empty : Database := ⟨[], [], [], [], [], [], [], [], []⟩

/-- The rows of a table. -/
def rows (db : Database) : TableName → List Row
  | .users => db.users
  | .userCapabilities => db.userCapabilities
  | .categories => db.categories
  | .plugins => db.plugins
  | .contributors => db.contributors
  | .versions => db.versions
  | .reviews => db.reviews
  | .pluginStats => db.pluginStats
  | .partnerAds => db.partnerAds

/-- The database with other rows in one table. -/
def withRows (db : Database) (t : TableName) (rs : List Row) : Database :=
  match t with
  | .users => { db with users := rs }
  | .userCapabilities => { db with userCapabilities := rs }
  | .categories => { db with categories := rs }
  | .plugins => { db with plugins := rs }
  | .contributors => { db with contributors := rs }
  | .versions => { db with versions := rs }
  | .reviews => { db with reviews := rs }
  | .pluginStats => { db with pluginStats := rs }
  | .partnerAds => { db with partnerAds := rs }

@[simp] theorem rows_withRows_self (db : Database) (t : TableName) (rs : List Row) :
    (db.withRows t rs).rows t = rs := by cases t <;> rfl

theorem rows_withRows_of_ne {db : Database} {t u : TableName} {rs : List Row} (h : u ≠ t) :
    (db.withRows t rs).rows u = db.rows u := by
  cases t <;> cases u <;> first | rfl | exact absurd rfl h

/-- Two databases with the same rows in every table are the same. -/
theorem ext_rows {a b : Database} (h : ∀ t, a.rows t = b.rows t) : a = b := by
  cases a; cases b
  simp only [Database.mk.injEq]
  exact ⟨h .users, h .userCapabilities, h .categories, h .plugins, h .contributors, h .versions,
    h .reviews, h .pluginStats, h .partnerAds⟩

end Database

end PagedReports
