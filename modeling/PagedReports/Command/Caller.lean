import PagedReports.Error
import PagedReports.Settings
import PagedReports.Text.Blank

/-!
# The caller of a command

Whose name a command runs under: the one it is given, or else the one from the settings.
-/

namespace PagedReports.Command

/-- The name a command runs under. A given name is trimmed; the one from the settings is taken
as it stands. -/
def caller (given : Option String) (settings : Settings) : Except ReportError String :=
  match given.bind Text.nonBlank? with
  | some name => .ok name
  | none => if settings.defaultUser = "" then .error .noUser else .ok settings.defaultUser

end PagedReports.Command
