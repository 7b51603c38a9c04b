import PagedReports.Command.Arguments
import PagedReports.Command.Run
import Std.Time.DateTime.Timestamp

/-!
# The command line

With arguments, runs the command that they ask for. Without arguments, runs the command that
each line of the standard input asks for. The host starts with an empty home directory and lives
as long as the program.
-/

namespace PagedReports

/-- The host that the program starts with. -/
def Host.atStart : Host := ((Host.mk "/home" ⟨[]⟩).makeDirectories "/home").1

/-- The words of a line. -/
def wordsOf (line : String) : List String :=
  ((line.toList.splitOnP Text.isBlankChar).filter (· ≠ [])).map String.ofList

/-- What arguments do at a time: the host after it, what is printed, and what went wrong. -/
def answerTo (h : Host) (now : Int64) (arguments : List String) :
    Host × String × Option String :=
  match Command.ofArguments arguments with
  | .error e => (h, "", some e.message)
  | .ok command =>
    match command.run now ⟨h, ""⟩ with
    | .ok _ c => (c.host, c.printed, none)
    | .error e c => (c.host, c.printed, some ("Error: " ++ e.message))

/-- Runs a command now; gives the host after it and whether it succeeded. -/
def perform (h : Host) (arguments : List String) : IO (Host × Bool) := do
  let now := (← Std.Time.Timestamp.now).toSecondsSinceUnixEpoch.val
  let (h, printed, complaint) := answerTo h (Int64.ofInt now) arguments
  IO.print printed
  match complaint with
  | some words => IO.eprintln words
  | none => pure ()
  return (h, complaint.isNone)

/-- Runs the commands of the lines that are left. -/
partial def performLines (input : IO.FS.Stream) (h : Host) : IO Unit := do
  let line ← input.getLine
  if line = "" then return
  match wordsOf line with
  | [] => performLines input h
  | arguments =>
    let (h, _) ← perform h arguments
    performLines input h

end PagedReports

/-- Runs commands. -/
def main (arguments : List String) : IO UInt32 := do
  if arguments.isEmpty then
    PagedReports.performLines (← IO.getStdin) PagedReports.Host.atStart
    return 0
  else
    let (_, succeeded) ← PagedReports.perform PagedReports.Host.atStart arguments
    return if succeeded then 0 else 1
