import PagedReports.Text.Numeral

/-!
# Errors

Every way in which a request, a registration or a command can fail, by its cause, and the one
place where causes are put into words.
-/

namespace PagedReports

/-- Why a database refused something. -/
inductive DatabaseError where
  /-- A row with the same values in these columns of a table exists. -/
  | notUnique (table : String) (columns : List String)
  /-- A column of a table that must hold something would hold nothing. -/
  | missingValue (table column : String)
  /-- A row would refer to a row that does not exist. -/
  | missingReference
  /-- A number that must identify a row is no whole number. -/
  | notAnIdentifier
  /-- A table has no column of that name. -/
  | noColumn (table column : String)
  /-- The database has no table of that name. -/
  | noTable (table : String)
  /-- A sum of whole numbers leaves the 64-bit range. -/
  | sumOverflow
  /-- A column of a result holds a value of the wrong kind. -/
  | wrongKind (kind : String) (position : Nat) (column : String)
  /-- A file that should hold a database holds something else. -/
  | notADatabase
  /-- A database file cannot be opened. -/
  | cannotOpen (path : String)
  /-- A database that is only read would be changed. -/
  | readOnly
  /-- The name of a database has a zero byte. -/
  | zeroByte (position : Nat)
  /-- The name of a database is that of another machine. -/
  | unknownAuthority (name : String)
  /-- The name of a database asks for something that does not exist. -/
  | unknownMode (kind value : String)
  /-- The name of a database asks for more than it asked for before. -/
  | refusedMode (value : String)
  deriving DecidableEq, Repr

namespace DatabaseError

/-- The words for a database error. -/
def message : DatabaseError → String
  | notUnique table columns =>
    "UNIQUE constraint failed: " ++
      String.intercalate ", " (columns.map fun c => table ++ "." ++ c)
  | missingValue table column => "NOT NULL constraint failed: " ++ table ++ "." ++ column
  | missingReference => "FOREIGN KEY constraint failed"
  | notAnIdentifier => "datatype mismatch"
  | noColumn table column => "table " ++ table ++ " has no column named " ++ column
  | noTable table => "no such table: " ++ table
  | sumOverflow => "integer overflow"
  | wrongKind kind position column =>
    "Invalid column type " ++ kind ++ " at index: " ++ Nat.repr position ++ ", name: " ++ column
  | notADatabase => "file is not a database"
  | cannotOpen path => "unable to open database file: " ++ path
  | readOnly => "attempt to write a readonly database"
  | zeroByte position => "nul byte found in provided data at position: " ++ Nat.repr position
  | unknownAuthority name => "invalid uri authority: " ++ name
  | unknownMode kind value => "no such " ++ kind ++ ": " ++ value
  | refusedMode value => "access mode not allowed: " ++ value

end DatabaseError

/-- Why a report definition cannot be registered. -/
inductive DefinitionFlaw where
  /-- Nothing orders its rows. -/
  | noDefaultOrder
  /-- It shows nothing. -/
  | noColumns
  /-- Two of its columns have the same key. -/
  | duplicateColumn (key : String)
  /-- Its name holds other characters than small letters, digits and underscores. -/
  | malformedName
  /-- Its name is taken. -/
  | alreadyRegistered
  deriving DecidableEq, Repr

/-- The words for a flaw. -/
def DefinitionFlaw.message : DefinitionFlaw → String
  | noDefaultOrder => "no default order"
  | noColumns => "no columns"
  | duplicateColumn key => "duplicate column '" ++ key ++ "'"
  | malformedName => "name must match [a-z0-9_]+"
  | alreadyRegistered => "already registered"

/-- Why an answer cannot be given. -/
inductive ReportError where
  /-- The database refused. -/
  | database (cause : DatabaseError)
  /-- A file cannot be read or written. -/
  | fileAccess
  /-- A feed is not in the expected form. -/
  | malformedFeed
  /-- A feed cannot be fetched. -/
  | unreachableFeed
  /-- The actor lacks the report's capability. -/
  | permissionDenied (report : String)
  /-- Nobody has that name. -/
  | unknownUser (username : String)
  /-- A report definition has a flaw. -/
  | invalidDefinition (report : String) (flaw : DefinitionFlaw)
  /-- There is no database file yet. -/
  | noDatabase (path : String)
  /-- A command does not say who runs it. -/
  | noUser
  /-- Nothing says where partner ads come from. -/
  | noAdSource
  /-- A row offset that no store can address. -/
  | offsetOutOfRange (offset : UInt64)
  /-- Something outside failed, in its own words. -/
  | outside (words : String)
  /-- The settings hold a date pattern that cannot be read. No answer at all is given then. -/
  | badDatePattern
  deriving DecidableEq, Repr

/-- The words for an error. -/
def ReportError.message : ReportError → String
  | database cause => "Database error: " ++ cause.message
  | fileAccess => "IO error"
  | malformedFeed => "JSON error"
  | unreachableFeed => "HTTP error"
  | permissionDenied report =>
    "You do not have permission to view the report '" ++ report ++ "'"
  | unknownUser username => "Unknown user: " ++ username
  | invalidDefinition report flaw =>
    "Invalid report definition '" ++ report ++ "': " ++ flaw.message
  | noDatabase path =>
    "Settings error: No database found at " ++ path ++
      "\nRun `plugreport init` to create one."
  | noUser => "Settings error: No user given. Pass --as <username> or set default_user."
  | noAdSource =>
    "Settings error: no partner-ads source configured (set ads_source or pass --source)"
  | offsetOutOfRange offset => "row offset " ++ Text.unsignedText offset ++ " is out of range"
  | outside words => words
  | badDatePattern => "the date pattern cannot be read"

end PagedReports
