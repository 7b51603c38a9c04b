import PagedReports.Command.Basic

/-!
# Arguments

Which command a list of arguments asks for. The first argument names the command; after it stand
options in any order, most of them with a value, and for one command a word by itself. Arguments
are read one by one. A value is checked when the next option or word, or the end, is reached, so
of two mistakes the one that is reached first is reported.
-/

namespace PagedReports.Command

/-- Why arguments are no command. -/
inductive UsageError where
  /-- Help is asked for. -/
  | helpAsked
  /-- No command is named. -/
  | nothingAsked
  /-- No command has that name. -/
  | unknownCommand
  /-- The command has no such option, or no place for one more word. -/
  | unknownArgument
  /-- An option has no value, or none of those that it can have. -/
  | invalidValue
  /-- A value cannot be read as a number. -/
  | malformedValue
  /-- An option is given twice. -/
  | repeatedOption
  /-- An option that takes no value is given one. -/
  | needlessValue
  deriving DecidableEq, Repr

/-- The words for a usage error. -/
def UsageError.message : UsageError → String
  | helpAsked => "The commands are init, demo, reports, report, sync-ads and status."
  | nothingAsked => "A command is missing."
  | unknownCommand => "There is no such command."
  | unknownArgument => "The command does not take that argument."
  | invalidValue => "An option lacks its value, or cannot have that one."
  | malformedValue => "The value of an option is no number."
  | repeatedOption => "An option is given twice."
  | needlessValue => "An option is given a value that it does not take."

/-- What an option takes. -/
inductive Takes where
  /-- Nothing. -/
  | nothing
  /-- Any text. -/
  | text
  /-- A 64-bit word. -/
  | number
  /-- The name of a format. -/
  | format
  deriving DecidableEq, Repr

/-- What was given for an option. -/
inductive Given where
  /-- The option itself. -/
  | nothing
  /-- A text. -/
  | text (s : String)
  /-- A 64-bit word. -/
  | number (n : UInt64)
  /-- A format. -/
  | format (f : Format)
  deriving DecidableEq, Repr

/-- Reads the value of an option. -/
def Takes.read (takes : Takes) (value : String) : Except UsageError Given :=
  match takes with
  | .nothing => .error .needlessValue
  | .text => .ok (.text value)
  | .number =>
    match Text.readUnsigned? value with
    | some n => .ok (.number n)
    | none => .error .malformedValue
  | .format =>
    match Format.ofName? value with
    | some f => .ok (.format f)
    | none => .error .invalidValue

/-- An option. -/
structure OptionSpec where
  /-- Its name, without dashes. -/
  name : String
  /-- What it takes. -/
  takes : Takes
  deriving DecidableEq, Repr

/-- What may stand after the name of a command. -/
structure Form where
  /-- Its options. -/
  options : List OptionSpec
  /-- Whether a word may stand by itself. -/
  hasWord : Bool
  deriving DecidableEq, Repr

/-- What has been read so far. -/
structure Reading where
  /-- The options with checked values, the last one first. -/
  given : List (String × Given)
  /-- The word by itself. -/
  word : Option String
  /-- The option whose value has not been checked, and that value if it has been reached. -/
  pending : Option (OptionSpec × Option String)
  /-- Whether only words may follow. -/
  wordsOnly : Bool
  deriving DecidableEq, Repr

namespace Reading

/-- Nothing has been read. -/
def start : Reading := ⟨[], none, none, false⟩

/-- Takes in an option that has not been given before. -/
def take (r : Reading) (name : String) (value : Except UsageError Given) :
    Except UsageError Reading :=
  if r.given.any (·.1 = name) then .error .repeatedOption
  else value.map fun g => { r with given := (name, g) :: r.given }

/-- Checks the value that has not been checked. -/
def settle (r : Reading) : Except UsageError Reading :=
  match r.pending with
  | none => .ok r
  | some (_, none) => .error .invalidValue
  | some (o, some value) => { r with pending := none }.take o.name (o.takes.read value)

/-- Reads a word by itself. -/
def readWord (form : Form) (r : Reading) (word : String) : Except UsageError Reading :=
  if form.hasWord ∧ r.word = none then r.settle.map fun r => { r with word := some word }
  else .error .unknownArgument

/-- Reads an option, with the value that is attached to it if there is one. -/
def readOption (form : Form) (r : Reading) (name : String) (attached : Option String) :
    Except UsageError Reading :=
  if name = "help" then
    match attached with
    | some _ => .error .needlessValue
    | none => r.settle.bind fun _ => .error .helpAsked
  else
    match form.options.find? (·.name = name), attached with
    | none, _ => .error .unknownArgument
    | some ⟨_, .nothing⟩, some _ => .error .needlessValue
    | some ⟨_, .nothing⟩, none => r.settle.bind fun r => r.take name (.ok .nothing)
    | some o, some value => r.settle.bind fun r => r.take name (o.takes.read value)
    | some o, none => r.settle.map fun r => { r with pending := some (o, none) }

/-- Reads the next argument. A dash by itself is a word or a value. -/
def readNext (form : Form) (r : Reading) (argument : String) : Except UsageError Reading :=
  if r.wordsOnly then r.readWord form argument
  else
    match argument.toList with
    | ['-', '-'] => .ok { r with wordsOnly := true }
    | '-' :: '-' :: body =>
      r.readOption form (String.ofList (body.takeWhile (· ≠ '=')))
        (if '=' ∈ body then some (String.ofList ((body.dropWhile (· ≠ '=')).drop 1)) else none)
    | '-' :: 'h' :: _ => r.settle.bind fun _ => .error .helpAsked
    | '-' :: _ :: _ => .error .unknownArgument
    | _ =>
      match r.pending with
      | some (o, none) => .ok { r with pending := some (o, some argument) }
      | _ => r.readWord form argument

/-- Reads the arguments after the name of a command. -/
def ofArguments (form : Form) (arguments : List String) : Except UsageError Reading :=
  (arguments.foldlM (readNext form) start).bind settle

/-- The text given for an option. -/
def text? (r : Reading) (name : String) : Option String :=
  match r.given.lookup name with
  | some (.text s) => some s
  | _ => none

/-- The number given for an option. -/
def number? (r : Reading) (name : String) : Option UInt64 :=
  match r.given.lookup name with
  | some (.number n) => some n
  | _ => none

/-- The format given, or else a grid. -/
def format (r : Reading) : Format :=
  match r.given.lookup "format" with
  | some (.format f) => f
  | _ => .table

/-- Whether an option is given that takes no value. -/
def has (r : Reading) (name : String) : Bool := (r.given.lookup name).isSome

/-- The request for a page: what the query string asks for, unless an option or the word says
otherwise. -/
def request (r : Reading) : Request :=
  (((r.text? "query").map Request.ofQuery).getD Request.empty).merge
    ⟨r.word, r.number? "page", r.number? "per-page", r.text? "sort", r.text? "dir"⟩

end Reading

/-- The names of the commands. -/
def names : List String := ["init", "demo", "reports", "report", "sync-ads", "status"]

/-- The option that says how reports are written out. -/
def formatOption : OptionSpec := ⟨"format", .format⟩

/-- What may stand after the name of a command. -/
def formOf (name : String) : Form :=
  if name = "init" then ⟨[⟨"data-dir", .text⟩, ⟨"default-user", .text⟩], false⟩
  else if name = "reports" then ⟨[⟨"as", .text⟩, ⟨"quick", .nothing⟩, formatOption], false⟩
  else if name = "report" then
    ⟨[⟨"as", .text⟩, ⟨"page", .number⟩, ⟨"per-page", .number⟩, ⟨"sort", .text⟩, ⟨"dir", .text⟩,
      ⟨"query", .text⟩, formatOption], true⟩
  else if name = "sync-ads" then ⟨[⟨"source", .text⟩], false⟩
  else ⟨[], false⟩

/-- The command with a name, from what was read after it. -/
def ofReading (name : String) (r : Reading) : Command :=
  if name = "init" then .init (r.text? "data-dir") (r.text? "default-user")
  else if name = "demo" then .demo
  else if name = "reports" then .reports (r.text? "as") (r.has "quick") r.format
  else if name = "report" then .report (r.text? "as") r.request r.format
  else if name = "sync-ads" then .syncAds (r.text? "source")
  else .status

/-- Help on a command, or on help itself, is asked for by name. -/
def helpOn : List String → UsageError
  | [] => .helpAsked
  | [name] => if name = "help" ∨ name ∈ names then .helpAsked else .unknownCommand
  | _ => .unknownCommand

/-- What is wrong with arguments that start with something else than a command. -/
def misuse (argument : String) (rest : List String) : UsageError :=
  match argument.toList with
  | ['-', '-'] =>
    match rest with
    | [] => .nothingAsked
    | name :: _ => if name = "help" ∨ name ∈ names then .unknownArgument else .unknownCommand
  | '-' :: '-' :: body =>
    if body.takeWhile (· ≠ '=') ≠ "help".toList then .unknownArgument
    else if '=' ∈ body then .needlessValue
    else .helpAsked
  | '-' :: 'h' :: _ => .helpAsked
  | '-' :: _ :: _ => .unknownArgument
  | _ => .unknownCommand

/-- The command that arguments ask for. -/
def ofArguments : List String → Except UsageError Command
  | [] => .error .nothingAsked
  | name :: rest =>
    if name ∈ names then (Reading.ofArguments (formOf name) rest).map (ofReading name)
    else if name = "help" then .error (helpOn rest)
    else .error (misuse name rest)

end PagedReports.Command
