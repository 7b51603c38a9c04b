/-!
# Plugins

What a plugin's approval code and a contributor's role code stand for.
-/

namespace PagedReports

/-- The decision on a submitted plugin. -/
inductive Approval where
  /-- Listed in the directory. -/
  | approved
  /-- Sent back to its maintainers. -/
  | needsWork
  /-- Not decided yet. -/
  | pending
  deriving DecidableEq, Repr

namespace Approval

/-- The stored code of a decision. -/
def code : Approval → Int64
  | approved => 1
  | needsWork => 0
  | pending => -1

/-- The decision that a stored code stands for. -/
def ofCode? (n : Int64) : Option Approval :=
  if n = 1 then some approved
  else if n = 0 then some needsWork
  else if n = -1 then some pending
  else none

/-- The words for a decision. -/
def label : Approval → String
  | approved => "Approved"
  | needsWork => "Needs more work"
  | pending => "Waiting for approval"

end Approval

/-- The words for a contributor's role. -/
def roleLabel (code : Int64) : String :=
  if code = 1 then "Lead maintainer" else if code = 2 then "Maintainer" else "Contributor"

end PagedReports
