/-!
# Actors

Who asks for a report, and which capabilities they hold.
-/

namespace PagedReports

/-- The capability to decide on submitted plugins. -/
def approvePlugin : String := "local/plugins:approveplugin"

/-- The capability to view the reports on the whole directory. -/
def viewReports : String := "local/plugins:viewreports"

/-- The capability to look after one's own plugins. -/
def editOwnPlugins : String := "local/plugins:editownplugins"

/-- A user who asks for something. -/
structure Actor where
  /-- The user's number. -/
  id : Int64
  /-- The name the user signs in with. -/
  username : String
  /-- The name the user is shown by. -/
  fullName : String
  /-- A site administrator holds every capability. -/
  siteAdmin : Bool
  /-- The capabilities granted to the user. -/
  capabilities : List String
  deriving DecidableEq, Repr

/-- Whether an actor holds a capability. -/
def Actor.holds (a : Actor) (capability : String) : Bool :=
  a.siteAdmin || a.capabilities.contains capability

theorem Actor.holds_iff {a : Actor} {capability : String} :
    a.holds capability = true ↔ a.siteAdmin = true ∨ capability ∈ a.capabilities := by
  simp [Actor.holds]

end PagedReports
