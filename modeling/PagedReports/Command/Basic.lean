import PagedReports.Request

/-!
# Commands

What can be asked for on the command line, once the arguments have been understood.
-/

namespace PagedReports

/-- How reports are written out. -/
inductive Format where
  /-- As a grid for a terminal. -/
  | table
  /-- As a document of markup. -/
  | html
  /-- As a JSON document. -/
  | json
  deriving DecidableEq, Repr

/-- The format with a name. -/
def Format.ofName? (name : String) : Option Format :=
  if name = "table" then some .table
  else if name = "html" then some .html
  else if name = "json" then some .json
  else none

/-- A command. -/
inductive Command where
  /-- Set up the settings file, with another data directory or default user if they are given,
  and the database. -/
  | init (dataDir defaultUser : Option String)
  /-- Load the sample data. -/
  | demo
  /-- List the reports that someone may view, or the short list of them. -/
  | reports (user : Option String) (quick : Bool) (format : Format)
  /-- Show a page of a report to someone. -/
  | report (user : Option String) (request : Request) (format : Format)
  /-- Replace the partner ads by those of a feed; by default, of the one in the settings. -/
  | syncAds (location : Option String)
  /-- Sum up settings and database. -/
  | status
  deriving DecidableEq, Repr

end PagedReports
