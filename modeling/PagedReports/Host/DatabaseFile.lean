import PagedReports.Database.Insert
import PagedReports.Host.Basic
import PagedReports.Host.DatabaseName

/-!
# Database files

How a database file of a host is opened and written back. A file of at most one byte is a
database without tables; opening a name whose file is missing makes one, if it may. The path of
the file is spelled out from the root on, and it must leave room for the names of the files that
stand beside a database.
-/

namespace PagedReports.Host

/-- The path of a database file may nowhere have so many bytes. -/
def databasePathLimit : Nat := 512

/-- How many bytes the names of the files beside a database file have more. -/
def besideLength : Nat := 8

/-- The place of the database file at a path. -/
def databasePlace? (h : Host) (path : String) : Option Place :=
  match h.files.spell? databasePathLimit (h.startOf path) (names path) with
  | some place =>
    if (pathOf place).utf8ByteSize + besideLength ≤ databasePathLimit then some place else none
  | none => none

/-- Puts a database at the place of a file in a directory. -/
def putDatabase? (h : Host) (place : Place) (content : Option Database) : Option Host :=
  if h.files.isDirectory place.dropLast then
    some { h with files := h.files.set place (.database content) }
  else none

/-- Opens the database file at a place. Nothing is given for a database without tables. -/
def openFile (h : Host) (place : Place) (access : Access) (name : String) :
    Except DatabaseError (Host × Option Database) :=
  match h.files.node? place with
  | some (.database content) => .ok (h, content)
  | some (.text content) =>
    if 1 < content.utf8ByteSize then .error .notADatabase
    else if access = .read then .error .readOnly
    else makeDatabase
  | some .directory => .error (.cannotOpen name)
  | none => if access = .create then makeDatabase else .error (.cannotOpen name)
where
  /-- Makes a database without tables. -/
  makeDatabase : Except DatabaseError (Host × Option Database) :=
    match h.putDatabase? place none with
    | some h => .ok (h, none)
    | none => .error (.cannotOpen name)

/-- Opens the database of a name. -/
def openDatabase (h : Host) (name : String) : Except DatabaseError (Host × Option Database) := do
  match ← DatabaseLocation.ofName name with
  | .nowhere => return (h, none)
  | .file path access =>
    match h.databasePlace? path with
    | some place => h.openFile place access name
    | none => throw (.cannotOpen name)

/-- Writes a database back to the file that it was opened from. -/
def storeDatabase (h : Host) (name : String) (db : Database) : Except DatabaseError Host := do
  match ← DatabaseLocation.ofName name with
  | .nowhere => return h
  | .file path access =>
    let place := (h.databasePlace? path).getD []
    if access = .read ∧ h.files.node? place ≠ some (.database (some db)) then throw .readOnly
    else return (h.putDatabase? place (some db)).getD h

end PagedReports.Host

namespace PagedReports

/-- The tables of an opened database, one of which is asked for. -/
def tablesFor (t : TableName) (content : Option Database) : Except DatabaseError Database :=
  match content with
  | some db => .ok db
  | none => .error (.noTable t.sql)

/-- The tables of an opened database, which are made if there are none. -/
def initialised (content : Option Database) : Except DatabaseError Database :=
  (content.getD Database.empty).initialise

end PagedReports
