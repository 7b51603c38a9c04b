import PagedReports.Host.FileTree
import PagedReports.Settings.File

/-!
# The host

Where the program runs: a file tree with a home directory in it.

A host is limited in two ways. Its current directory is always the home directory, so relative paths
start there (`Host.startOf`). Its file tree has no symbolic links, so expanding a path that leads
somewhere gives the names of its place from the root on (`Host.expand`).
-/

namespace PagedReports

/-- A host. -/
structure Host where
  /-- The path of the home directory. -/
  home : String
  /-- The files. -/
  files : Host.FileTree
  deriving DecidableEq

namespace Host

/-- The names in a path, between slashes. -/
def names (path : String) : List String :=
  (path.toList.splitOn '/').map String.ofList

/-- The place of the home directory. -/
def homePlace (h : Host) : Place := (names h.home).filter (· ≠ "")

/-- Where following a path starts. -/
def startOf (h : Host) (path : String) : Place :=
  if path.toList.head? = some '/' then [] else h.homePlace

/-- The place that a path leads to, if something is there. The empty path leads nowhere. -/
def resolve? (h : Host) (path : String) : Option Place :=
  if path = "" then none else h.files.follow? (h.startOf path) (names path)

/-- Whether a path can be asked for: it has fewer than 4096 bytes, and no zero byte. -/
def isPath (path : String) : Bool := path.utf8ByteSize < 4096 && !path.toList.contains '\x00'

/-- Whether something is at a path. -/
def contains (h : Host) (path : String) : Bool := isPath path && (h.resolve? path).isSome

/-- What is at a path. -/
def node? (h : Host) (path : String) : Option Node := (h.resolve? path).bind h.files.node?

/-- The text of the file at a path. -/
def readText? (h : Host) (path : String) : Option String :=
  match h.node? path with
  | some (.text content) => some content
  | _ => none

/-- The place of a file that may still be missing, in a directory that is there. -/
def filePlace? (h : Host) (path : String) : Option Place :=
  match h.resolve? path with
  | some place => if h.files.isDirectory place then none else some place
  | none =>
    match (names path).reverse with
    | name :: before =>
      if name = "" ∨ name = "." ∨ name = ".." ∨ !FileTree.isFileName name then none
      else
        match h.files.follow? (h.startOf path) before.reverse with
        | some place => if h.files.isDirectory place then some (place ++ [name]) else none
        | none => none
    | [] => none

/-- Puts something at the place of a file, if its path can be asked for. -/
def write? (h : Host) (path : String) (n : Node) : Option Host :=
  if isPath path then (h.filePlace? path).map fun place => { h with files := h.files.set place n }
  else none

/-- Whether a path ends in a single dot, slashes after it aside. -/
def endsInDot (path : String) : Bool :=
  ((names path).reverse.dropWhile (· == "")).head? == some "."

/-- Makes a directory and those that it lies in, and says whether it is there then. The empty
path is there already. A directory that a dot comes after is not made, only those before it. -/
def makeDirectories (h : Host) (path : String) : Host × Bool :=
  if path = "" then (h, true)
  else if !isPath path then (h, false)
  else
    let start := h.startOf path
    let way := (names path).filter fun name => name ≠ "" ∧ name ≠ "."
    let made := h.files.makeDirectories start (if endsInDot path then way.dropLast else way)
    let there := (made.1.follow? start way).any made.1.isDirectory
    ({ h with files := made.1 }, made.2 && there)

/-- A path with the home directory for a tilde at its start. Any other path is replaced by the
path of the place that it leads to, if there is one. -/
def expand (h : Host) (path : String) : String :=
  match path.toList with
  | '~' :: rest => h.home ++ String.ofList rest
  | _ => ((h.resolve? path).map pathOf).getD path

/-- A path below a directory. An absolute path does not depend on the directory. -/
def join (directory path : String) : String :=
  if directory = "" ∨ path.toList.head? = some '/' then path
  else if directory.toList.getLast? = some '/' then directory ++ path
  else directory ++ "/" ++ path

/-! ### The program's own files -/

/-- The directory of the settings file. -/
def settingsDirectory (h : Host) : String := join (join h.home ".config") "plugreport"

/-- The settings file. -/
def settingsPath (h : Host) : String := join h.settingsDirectory "settings.json"

/-- The data directory of a host whose settings name none. -/
def defaultDataDir (h : Host) : String :=
  join (join (join h.home ".local") "share") "plugreport"

/-- The settings of a host. A settings file that is no text counts as an empty text. -/
def loadSettings (h : Host) : Settings :=
  Settings.load h.defaultDataDir
    (if h.contains h.settingsPath then some ((h.readText? h.settingsPath).getD "") else none)

/-- Writes the settings file, in a directory that is made if it is missing, and says whether that
went well. -/
def saveSettings (h : Host) (s : Settings) : Host × Bool :=
  let made := h.makeDirectories h.settingsDirectory
  match made.1.write? h.settingsPath (.text s.fileText) with
  | some written => if made.2 then (written, true) else made
  | none => (made.1, false)

end Host

/-- The path of the database of a site. -/
def Settings.databasePath (s : Settings) : String := Host.join s.dataDir "plugreport.db"

end PagedReports
