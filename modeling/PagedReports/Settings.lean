/-!
# Settings

What can be set for a site: where its data lies, who runs commands when nobody is named, and how
reports are shown.
-/

namespace PagedReports

/-- The settings of a site. -/
structure Settings where
  /-- The directory of the database. -/
  dataDir : String
  /-- Who runs commands that name nobody; empty for no one. -/
  defaultUser : String
  /-- Rows per page for requests that name no number. -/
  perPage : UInt64
  /-- The pattern of dates. -/
  dateFormat : String
  /-- What links to plugins start with. -/
  baseUrl : String
  /-- Where partner ads come from; empty for nowhere. -/
  adsSource : String
  /-- How many seconds a feed may take to answer. -/
  httpTimeout : UInt64
  deriving DecidableEq, Repr

/-- The settings of a site that has set nothing, for its data directory. -/
def Settings.defaults (dataDir : String) : Settings where
  dataDir := dataDir
  defaultUser := ""
  perPage := 30
  dateFormat := "%d %b %Y, %H:%M"
  baseUrl := "https://moodle.org/plugins"
  adsSource := ""
  httpTimeout := 30

end PagedReports
