import Mathlib.Data.List.Forall2
import PagedReports.Database.Sample

/-!
# The sample set

What the complete sample set is (`Sample.Rows`): a row for each sample user, grant, plugin,
contribution, version, review and count of downloads, in this order, which leads to the sample rows
that it belongs to. Times lie whole days before or after the time of loading. And what can keep the
sample set out of a database (`Sample.Refused`).
-/

namespace PagedReports

open Sql

/-! ### Values of rows -/

/-- A value is the number of one of some rows that hold a text in a column. -/
def Sql.Value.Names (v : Value) (rows : List Row) (column text : String) : Prop :=
  ∃ r ∈ rows, r.value column = .text text ∧ v = .integer r.id

/-- A row holds a whole number in a column. -/
def Row.Counts (r : Row) (column : String) (n : Int) : Prop :=
  ∃ m : Int64, r.value column = .integer m ∧ m.toInt = n

namespace Sample

/-- The seconds of some days. -/
def seconds (days : Nat) : Int := 86400 * days

/-! ### What is in the set -/

/-- Which user is granted what. -/
def grants : List (User × String) := users.flatMap fun u => u.capabilities.map (u, ·)

/-- Who contributes to which plugin, and in which role. -/
def contributions : List ((Plugin × Nat) × String × Int64) :=
  plugins.zipIdx.flatMap fun e => (e.1.contributors e.2).map (e, ·)

/-- Who reviews which version, and how many days after its release. -/
def allReviews : List (Release × String × Nat) := releases.flatMap fun r => r.reviews.map (r, ·)

/-- For which periods the downloads of a plugin are counted: half a year if it is approved. -/
def Plugin.months (p : Plugin) : List Nat := if p.approval = .approved then List.range 6 else []

/-- Which plugins have counts of downloads, and for which periods. -/
def downloads : List ((Plugin × Nat) × Nat) := plugins.zipIdx.flatMap fun e => e.1.months.map (e, ·)

/-! ### What the rows hold -/

/-- A row is that of a sample user. -/
structure User.IsRow (u : User) (r : Row) : Prop where
  /-- The user name. -/
  username : r.value "username" = .text u.username
  /-- The first name. -/
  first : r.value "firstname" = .text u.first
  /-- The last name. -/
  last : r.value "lastname" = .text u.last
  /-- Whether the user may do everything. -/
  rank : r.value "siteadmin" = .integer (if u.siteAdmin then 1 else 0)

/-- A row grants a sample user, among some rows, a capability. -/
structure IsGrant (users : List Row) (u : User) (capability : String) (r : Row) : Prop where
  /-- The user. -/
  user : (r.value "userid").Names users "username" u.username
  /-- What is granted. -/
  capability : r.value "capability" = .text capability

/-- A row is that of a sample plugin, filed under one of some categories. -/
structure Plugin.IsRow (categories : List Row) (now : Int) (p : Plugin) (r : Row) : Prop where
  /-- The component name. -/
  component : r.value "frankenstyle" = .text p.component
  /-- The name. -/
  name : r.value "name" = .text p.name
  /-- What it is filed under. -/
  category : (r.value "categoryid").Names categories "name" p.category
  /-- What was decided about it. -/
  approval : r.value "approved" = .integer p.approval.code
  /-- When it was handed in. -/
  created : r.Counts "timecreated" (now - seconds p.queued)
  /-- When it was queued. -/
  queued : r.Counts "timequeued" (now - seconds p.queued)
  /-- When its latest version was released. -/
  released : ∀ days, p.releases.getLast? = some days →
    r.Counts "timelastreleased" (now - seconds days)

/-- A row makes a sample user contribute to a sample plugin, both among some rows. -/
structure IsContribution (users plugins : List Row) (p : Plugin) (username : String) (role : Int64)
    (r : Row) : Prop where
  /-- The plugin. -/
  plugin : (r.value "pluginid").Names plugins "frankenstyle" p.component
  /-- The user. -/
  user : (r.value "userid").Names users "username" username
  /-- The role. -/
  role : r.value "maintainer" = .integer role

/-- A row is that of a version of a sample plugin among some rows. -/
structure Release.IsRow (plugins : List Row) (now : Int) (rel : Release) (r : Row) : Prop where
  /-- The plugin. -/
  plugin : (r.value "pluginid").Names plugins "frankenstyle" rel.plugin.component
  /-- The number of the version. -/
  version : r.Counts "version" (2024010100 + rel.earlier * 100 + rel.position)
  /-- The name of the release. -/
  name : r.value "releasename" =
    .text (Nat.repr (rel.earlier + 1) ++ "." ++ Nat.repr (rel.position % 4))
  /-- When it was released. -/
  released : r.Counts "timecreated" (now - seconds rel.days)

/-- A row is a positive review of a version, which one of some rows is that of. -/
structure IsReview (users plugins versions : List Row) (now : Int) (rel : Release)
    (username : String) (days : Nat) (r : Row) : Prop where
  /-- The version. -/
  version : ∃ v ∈ versions, rel.IsRow plugins now v ∧ r.value "versionid" = .integer v.id
  /-- The reviewer. -/
  user : (r.value "userid").Names users "username" username
  /-- When it was written. -/
  reviewed : r.Counts "timereviewed" (now - seconds rel.days + seconds days)
  /-- The verdict. -/
  status : r.value "status" = .integer 1

/-- A row counts the downloads of a sample plugin, among some rows, for a period of thirty days. -/
structure IsDownloads (plugins : List Row) (now : Int) (p : Plugin) (position month : Nat)
    (r : Row) : Prop where
  /-- The plugin. -/
  plugin : (r.value "pluginid").Names plugins "frankenstyle" p.component
  /-- The period. -/
  period : r.Counts "timeperiod" (now - seconds (month * 30))
  /-- How often it was downloaded: less from plugin to plugin. -/
  downloads : r.Counts "downloads" (150 * (Sample.plugins.length - position : Nat) + month * 17)

/-- For each table, the rows of the complete sample set at a time, filed under some categories. -/
structure Rows (categories : List Row) (now : Int) (added : TableName → List Row) : Prop where
  /-- The users. -/
  users : List.Forall₂ User.IsRow users (added .users)
  /-- What they are granted. -/
  grants : List.Forall₂ (fun g => IsGrant (added .users) g.1 g.2) grants (added .userCapabilities)
  /-- The plugins. -/
  plugins : List.Forall₂ (Plugin.IsRow categories now) plugins (added .plugins)
  /-- Who contributes to them. -/
  contributions : List.Forall₂
    (fun c => IsContribution (added .users) (added .plugins) c.1.1 c.2.1 c.2.2) contributions
    (added .contributors)
  /-- Their versions. -/
  versions : List.Forall₂ (Release.IsRow (added .plugins) now) releases (added .versions)
  /-- The reviews. -/
  reviews : List.Forall₂
    (fun v => IsReview (added .users) (added .plugins) (added .versions) now v.1 v.2.1 v.2.2)
    allReviews (added .reviews)
  /-- The counts of downloads. -/
  downloads : List.Forall₂ (fun d => IsDownloads (added .plugins) now d.1.1 d.1.2 d.2) downloads
    (added .pluginStats)
  /-- No categories. -/
  categories : added .categories = []
  /-- No ads. -/
  partnerAds : added .partnerAds = []

/-! ### What keeps the set out -/

/-- Why a database refuses the sample set, and with which error. -/
inductive Refused (db : Database) : DatabaseError → Prop where
  /-- A user with the name of a sample user is there. -/
  | username {u : User} {r : Row} : u ∈ Sample.users → r ∈ db.users →
    r.value "username" = .text u.username → Refused db (.notUnique "users" ["username"])
  /-- A plugin with the component name of a sample plugin is there. -/
  | component {p : Plugin} {r : Row} : p ∈ Sample.plugins → r ∈ db.plugins →
    r.value "frankenstyle" = .text p.component →
    Refused db (.notUnique "plugins" ["frankenstyle"])
  /-- There are not enough 64-bit numbers for the rows of a table and two dozen more. -/
  | full {t : TableName} {e : DatabaseError} :
    0x10000000000000000 ≤ (db.rows t).length + 24 → Refused db e

end Sample

end PagedReports
