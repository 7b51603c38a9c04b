import PagedReports.Actor
import PagedReports.Database.Actors
import PagedReports.Database.Insert
import PagedReports.Plugin

/-!
# Sample data

Users, plugins, versions, reviews and download counts to try the reports on. All times lie a
whole number of days before or after the time of loading. Either all of it is loaded or nothing,
and nothing is loaded where the first sample plugin is there already.
-/

namespace PagedReports

open Sql

namespace Sample

/-- A sample user. -/
structure User where
  /-- The user name. -/
  username : String
  /-- The first name. -/
  first : String
  /-- The last name. -/
  last : String
  /-- Whether the user may do everything. -/
  siteAdmin : Bool
  /-- What the user is granted. -/
  capabilities : List String
  deriving DecidableEq, Repr

/-- A sample plugin. -/
structure Plugin where
  /-- The component name. -/
  component : String
  /-- The name. -/
  name : String
  /-- What it is filed under. -/
  category : String
  /-- What was decided about it. -/
  approval : Approval
  /-- How many days ago it was handed in. -/
  queued : Nat
  /-- The user name of its lead maintainer. -/
  lead : String
  /-- How many days ago its versions were released, the oldest first. -/
  releases : List Nat
  deriving DecidableEq, Repr

/-- The sample users. -/
def users : List User :=
  [⟨"admin", "Site", "Admin", true, []⟩,
    ⟨"approver", "Petra", "Approver", false, [approvePlugin, viewReports]⟩,
    ⟨"reviewer", "Rolf", "Reviewer", false, [viewReports]⟩,
    ⟨"dana", "Dana", "Developer", false, [editOwnPlugins]⟩,
    ⟨"marco", "Marco", "Maintainer", false, [editOwnPlugins]⟩]

/-- The component name of the first sample plugin. -/
def firstComponent : String := "mod_quizgame"

/-- The sample plugins. -/
def plugins : List Plugin :=
  [⟨firstComponent, "Quiz game", "Activities", .approved, 400, "dana", [300, 120, 12]⟩,
    ⟨"block_progress", "Progress bar", "Blocks", .approved, 800, "marco", [700, 45, 3]⟩,
    ⟨"filter_codehighlight", "Code highlighter", "Filters", .approved, 200, "dana", [180, 20]⟩,
    ⟨"theme_lagoon", "Lagoon", "Themes", .approved, 90, "marco", [80]⟩,
    ⟨"auth_magiclink", "Magic link login", "Authentication", .pending, 2, "dana", [2]⟩,
    ⟨"report_engagement", "Engagement report", "Reports", .pending, 5, "marco", [5]⟩,
    ⟨"local_sync", "Sync helper", "Local plugins", .pending, 9, "marco", [9]⟩,
    ⟨"block_weather", "Weather", "Blocks", .pending, 14, "dana", [14]⟩,
    ⟨"mod_flashcards", "Flashcards", "Activities", .pending, 21, "marco", [21]⟩,
    ⟨"filter_emoji", "Emoji filter", "Filters", .needsWork, 30, "dana", [30]⟩,
    ⟨"local_tweaks", "Site tweaks", "Local plugins", .needsWork, 60, "marco", [60]⟩]

/-- The time so many days before another. -/
def daysBefore (now : Int64) (days : Nat) : Int64 := now - Int64.ofNat days * 86400

/-- The time so many days after another. -/
def daysAfter (time : Int64) (days : Nat) : Int64 := time + Int64.ofNat days * 86400

/-! ### Rows -/

/-- A user's row. -/
def User.fields (u : User) : Fields :=
  [("username", .text u.username), ("firstname", .text u.first), ("lastname", .text u.last),
    ("siteadmin", .integer (if u.siteAdmin then 1 else 0))]

/-- The rows of what the users are granted, for the users' numbers. -/
def grantRows (userIds : List Int64) : List Fields :=
  (users.zip userIds).flatMap fun (u, id) =>
    u.capabilities.map fun c => [("userid", .integer id), ("capability", .text c)]

/-- The number of a user, for the users' numbers. -/
def userNamed (userIds : List Int64) (username : String) : Value :=
  (((users.zip userIds).find? (·.1.username = username)).map fun e => Value.integer e.2).getD .null

/-- A plugin's row. -/
def Plugin.fields (p : Plugin) (category : Value) (now : Int64) : Fields :=
  [("frankenstyle", .text p.component), ("name", .text p.name), ("categoryid", category),
    ("approved", .integer p.approval.code),
    ("timecreated", .integer (daysBefore now p.queued)),
    ("timequeued", .integer (daysBefore now p.queued)),
    ("timelastreleased", .integer ((p.releases.getLast?.map (daysBefore now)).getD 0))]

/-- Who works on the plugin at a position, and the code of the role: the lead maintainer, and for
every third plugin the other developer as well. -/
def Plugin.contributors (p : Plugin) (position : Nat) : List (String × Int64) :=
  (p.lead, 1) ::
    if position % 3 = 0 then [(if p.lead = "dana" then "marco" else "dana", 0)] else []

/-- The rows of who works on the plugins, for the plugins' numbers. -/
def contributorRows (user : String → Value) (pluginIds : List Int64) : List Fields :=
  (plugins.zipIdx.zip pluginIds).flatMap fun ((p, i), id) =>
    (p.contributors i).map fun (username, role) =>
      [("pluginid", .integer id), ("userid", user username), ("maintainer", .integer role)]

/-- A version of a sample plugin. -/
structure Release where
  /-- The plugin. -/
  plugin : Plugin
  /-- The position of the plugin in the list. -/
  position : Nat
  /-- How many versions came before. -/
  earlier : Nat
  /-- How many days ago it was released. -/
  days : Nat
  deriving DecidableEq, Repr

/-- All versions of the sample plugins. -/
def releases : List Release :=
  plugins.zipIdx.flatMap fun (p, i) => p.releases.zipIdx.map fun (days, k) => ⟨p, i, k, days⟩

/-- A version's row, for its plugin's number. -/
def Release.fields (r : Release) (pluginId : Value) (now : Int64) : Fields :=
  [("pluginid", pluginId),
    ("version", .integer (Int64.ofNat (2024010100 + r.earlier * 100 + r.position))),
    ("releasename", .text (Nat.repr (r.earlier + 1) ++ "." ++ Nat.repr (r.position % 4))),
    ("timecreated", .integer (daysBefore now r.days))]

/-- Who reviews a version, and how many days after its release: the reviewer each version of an
approved plugin, and the approver the latest one. -/
def Release.reviews (r : Release) : List (String × Nat) :=
  if r.plugin.approval = .approved then
    ("reviewer", 1) ::
      if r.earlier + 1 = r.plugin.releases.length then [("approver", 2)] else []
  else []

/-- The rows of the reviews, for the versions' numbers. All reviews are positive. -/
def reviewRows (user : String → Value) (versionIds : List Int64) (now : Int64) : List Fields :=
  (releases.zip versionIds).flatMap fun (r, id) =>
    r.reviews.map fun (username, days) =>
      [("versionid", .integer id), ("userid", user username),
        ("timereviewed", .integer (daysAfter (daysBefore now r.days) days)),
        ("status", .integer 1)]

/-- The rows of the download counts of the approved plugins, for half a year and for the plugins'
numbers. -/
def downloadRows (pluginIds : List Int64) (now : Int64) : List Fields :=
  (plugins.zipIdx.zip pluginIds).flatMap fun ((p, i), id) =>
    if p.approval = .approved then
      (List.range 6).map fun month =>
        [("pluginid", .integer id), ("timeperiod", .integer (daysBefore now (month * 30))),
          ("downloads", .integer (Int64.ofNat (150 * (plugins.length - i) + month * 17)))]
    else []

/-- How many reviews there are. -/
def reviewCount : Nat := (releases.flatMap Release.reviews).length

end Sample

/-! ### Loading -/

namespace Database

/-- Whether the first sample plugin is there. -/
def hasSample (db : Database) : Bool :=
  (db.findText? .plugins "frankenstyle" Sample.firstComponent).isSome

/-- The number of the first category with a name, if there is one. -/
def categoryNamed (db : Database) (name : String) : Value :=
  ((db.findText? .categories "name" name).map fun r => Value.integer r.id).getD .null

/-- Loads the sample data, table by table. -/
def addSample (db : Database) (now : Int64) : Except DatabaseError Database := do
  let (db, userIds) ← db.insertMany .users (Sample.users.map Sample.User.fields)
  let user := Sample.userNamed userIds
  let (db, _) ← db.insertMany .userCapabilities (Sample.grantRows userIds)
  let (db, pluginIds) ← db.insertMany .plugins
    (Sample.plugins.map fun p => p.fields (db.categoryNamed p.category) now)
  let (db, _) ← db.insertMany .contributors (Sample.contributorRows user pluginIds)
  let plugin (r : Sample.Release) : Value := (pluginIds[r.position]?.map Value.integer).getD .null
  let (db, versionIds) ← db.insertMany .versions
    (Sample.releases.map fun r => r.fields (plugin r) now)
  let (db, _) ← db.insertMany .reviews (Sample.reviewRows user versionIds now)
  let (db, _) ← db.insertMany .pluginStats (Sample.downloadRows pluginIds now)
  return db

/-- Loads the sample data, unless it is there. -/
def loadSample (db : Database) (now : Int64) : Except DatabaseError Database :=
  if db.hasSample then .ok db else db.addSample now

end Database

end PagedReports
