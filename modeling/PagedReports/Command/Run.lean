import PagedReports.Ads.Source
import PagedReports.Catalogue
import PagedReports.Command.Basic
import PagedReports.Command.Caller
import PagedReports.Database.Actors
import PagedReports.Database.Sample
import PagedReports.Database.Store
import PagedReports.Host.DatabaseFile
import PagedReports.Html.ReportPage
import PagedReports.Json.View
import PagedReports.Terminal

/-!
# Running commands

What a command does to a host at a time, and what it prints. What was done and printed before a
failure stays.
-/

namespace PagedReports

/-- A host, and what has been printed on it. -/
structure Console where
  /-- The host. -/
  host : Host
  /-- What has been printed. -/
  printed : String
  deriving DecidableEq

/-- A command while it runs. -/
abbrev Run (α : Type) := EStateM ReportError Console α

namespace Run

/-- Prints a text and ends the line. -/
def say (text : String) : Run Unit :=
  modify fun c => { c with printed := c.printed ++ text ++ "\n" }

/-- Replaces the host. -/
def setHost (h : Host) : Run Unit := modify fun c => { c with host := h }

/-- The host. -/
def host : Run Host := return (← get).host

/-- Goes on with a result, or stops with an error. -/
def need {α : Type} : Except ReportError α → Run α
  | .ok a => return a
  | .error e => throw e

/-- Goes on with the result of a database, or stops with its error. -/
def ask {α : Type} : Except DatabaseError α → Run α
  | .ok a => return a
  | .error e => throw (.database e)

/-- Goes on with a changed host, or stops because not everything could be changed. -/
def change (result : Host × Bool) : Run Unit := do
  setHost result.1
  if !result.2 then throw .fileAccess

/-- Opens the database at a path. -/
def openAt (path : String) : Run (Option Database) := do
  let (h, content) ← ask ((← host).openDatabase path)
  setHost h
  return content

/-- Opens the database of a site, which must be there. -/
def openExisting (settings : Settings) : Run (Option Database) := do
  if (← host).contains settings.databasePath then openAt settings.databasePath
  else throw (.noDatabase settings.databasePath)

/-- Writes the database of a site back. -/
def store (settings : Settings) (db : Database) : Run Unit := do
  setHost (← ask ((← host).storeDatabase settings.databasePath db))

/-- The database of a site, and who runs a command on it. -/
def signIn (settings : Settings) (user : Option String) : Run (Database × Actor) := do
  let content ← openExisting settings
  let name ← need (Command.caller user settings)
  let db ← ask (tablesFor .users content)
  return (db, ← need (db.loadActor name))

end Run

/-- The list of reports as a format writes it. -/
def Format.selector (reports : List Descriptor) : Format → String
  | .table => Terminal.selector reports
  | .html => Html.wrap Html.defaultSite "Reports" (Html.renderSelector reports)
  | .json => (Json.selectorDocument reports).pretty

/-- A page of a report as a format writes it. -/
def Format.view (v : View) : Format → String
  | .table => Terminal.view v
  | .html => Html.wrap Html.defaultSite v.descriptor.title (Html.renderReport v)
  | .json => (Json.viewDocument v).pretty

/-- The answer to a request as a format writes it. -/
def Format.answer (f : Format) : Answer → String
  | .selector reports => f.selector reports
  | .view v => f.view v

namespace Command

open Run

/-- The settings that a set-up leaves. -/
def newSettings (h : Host) (dataDir defaultUser : Option String) : Settings :=
  let s := h.loadSettings
  { s with
    dataDir := (dataDir.map h.expand).getD s.dataDir
    defaultUser := defaultUser.getD s.defaultUser }

/-- Sets up settings file, data directory and database. -/
def runInit (dataDir defaultUser : Option String) : Run Unit := do
  let settings := newSettings (← host) dataDir defaultUser
  change ((← host).saveSettings settings)
  change ((← host).makeDirectories settings.dataDir)
  let content ← openAt settings.databasePath
  store settings (← ask (initialised content))
  say ("Initialized plugreport at " ++ settings.dataDir)

/-- What is said of sample data that has been loaded. -/
def sampleReport : String :=
  String.intercalate "\n"
    ["Demo data loaded!",
      "  Users:     " ++ Nat.repr Sample.users.length,
      "  Plugins:   " ++ Nat.repr Sample.plugins.length,
      "  Versions:  " ++ Nat.repr Sample.releases.length,
      "  Reviews:   " ++ Nat.repr Sample.reviewCount,
      "",
      "Try these next:",
      "  plugreport reports --as approver",
      "  plugreport report unapproved --as approver --per-page 2",
      "  plugreport report reviews --as reviewer --sort plugin --dir desc",
      "  plugreport report myplugins --as dana --format html"]

/-- What is said of sample data that is there already. -/
def samplePresent : String :=
  "Demo data already loaded (plugin '" ++ Sample.firstComponent ++ "' exists)."

/-- Loads the sample data. -/
def runDemo (now : Int64) : Run Unit := do
  let settings := (← host).loadSettings
  let content ← openExisting settings
  let db ← ask (initialised content)
  store settings db
  let loaded ← ask (db.loadSample now)
  store settings loaded
  say (if db.hasSample then samplePresent else sampleReport)

/-- Lists the reports that someone may view. -/
def runReports (user : Option String) (quick : Bool) (format : Format) : Run Unit := do
  let (_, actor) ← signIn (← host).loadSettings user
  let reports :=
    if quick then Registry.builtin.quickAccess actor else Registry.builtin.viewable actor
  say (format.selector reports)

/-- Shows a page of a report. -/
def runReport (user : Option String) (request : Request) (format : Format) (now : Int64) :
    Run Unit := do
  let settings := (← host).loadSettings
  let (db, actor) ← signIn settings user
  match dispatch Registry.builtin actor settings now db.store request (Session.start ()) with
  | .ok answer _ => say (format.answer answer)
  | .error e _ =>
    match format, e with
    | .html, .permissionDenied _ =>
      say (Html.wrap Html.defaultSite "Permission denied" (Html.renderDenied e.message))
    | _, _ => pure ()
    throw e

/-- What is said of a replacement of the partner ads. -/
def syncReport (source : AdSource) (s : SyncSummary) : String :=
  "Synced partner ads from " ++ source.describe ++ ": " ++ Nat.repr s.inserted ++ " inserted, " ++
    Nat.repr s.removed ++ " removed, " ++ Nat.repr s.skipped ++ " skipped"

/-- Replaces the partner ads. -/
def runSync (location : Option String) (now : Int64) : Run Unit := do
  let settings := (← host).loadSettings
  let content ← openExisting settings
  let source ← need
    (AdSource.ofLocation (← host) (location.getD settings.adsSource) settings.httpTimeout)
  let ads ← need (source.fetch (← host))
  let db ← ask (tablesFor .partnerAds content)
  let (db, summary) ← need (db.syncAds (.ok ads) now)
  store settings db
  say (syncReport source summary)

/-- A setting as it is shown. -/
def orNotSet (s : String) : String := if s = "" then "(not set)" else s

/-- What is said of the settings. -/
def settingsReport (s : Settings) : String :=
  String.intercalate "\n"
    ["Default user: " ++ orNotSet s.defaultUser,
      "Data dir:     " ++ s.dataDir,
      "Database:     " ++ s.databasePath,
      "Page size:    " ++ Text.unsignedText s.perPage,
      "Ads source:   " ++ orNotSet s.adsSource]

/-- The plugins that wait for a decision. -/
def pendingPlugins (db : Database) : List Row :=
  db.plugins.filter fun r => r.value "approved" = .integer Approval.pending.code

/-- What is said of the database. -/
def databaseReport (db : Database) : String :=
  String.intercalate "\n"
    ["",
      "Users:        " ++ Nat.repr db.users.length,
      "Plugins:      " ++ Nat.repr db.plugins.length,
      "Pending:      " ++ Nat.repr (pendingPlugins db).length,
      "Reviews:      " ++ Nat.repr db.reviews.length,
      "Partner ads:  " ++ Nat.repr db.partnerAds.length]

/-- Sums up settings and database. -/
def runStatus : Run Unit := do
  let settings := (← host).loadSettings
  say (settingsReport settings)
  if (← host).contains settings.databasePath then
    let content ← openAt settings.databasePath
    say (databaseReport (← ask (tablesFor .users content)))
  else
    say "\nDatabase not found. Run `plugreport init` to set up."

/-- Runs a command at a time. -/
def run (now : Int64) : Command → Run Unit
  | .init dataDir defaultUser => runInit dataDir defaultUser
  | .demo => runDemo now
  | .reports user quick format => runReports user quick format
  | .report user request format => runReport user request format now
  | .syncAds location => runSync location now
  | .status => runStatus

end Command

end PagedReports
