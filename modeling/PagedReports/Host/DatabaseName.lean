import PagedReports.Error
import PagedReports.Text.Form

/-!
# Names of databases

A database is named by the path of its file. A name that starts with `file:` is taken apart:
after a machine, which can only be this one, comes the path, then options after a question mark,
and a remark after a hash sign. In paths and options a percent sign and two hexadecimal digits
stand for a byte.
-/

namespace PagedReports.Host

open Text

/-- What may be done with a database file. -/
inductive Access where
  /-- It is only read. -/
  | read
  /-- It is read and written. -/
  | write
  /-- It is made if it is missing. -/
  | create
  deriving DecidableEq, Repr

/-- Where a database is. -/
inductive DatabaseLocation where
  /-- In a file. -/
  | file (path : String) (access : Access)
  /-- Nowhere: it is forgotten when it is closed. -/
  | nowhere
  deriving DecidableEq, Repr

/-- What the options of a name ask for. -/
structure NameOptions where
  /-- What may be done; nothing for a database without a file. -/
  access : Option Access
  /-- The file system that is asked for. -/
  system : String
  deriving DecidableEq, Repr

/-- The options of a name without any. -/
def NameOptions.plain : NameOptions := ⟨some .create, "unix"⟩

/-- The bytes of a part of a name. From a zero byte on, nothing counts. -/
def nameBytes (part : List UInt8) : List UInt8 := (Form.percentDecode part).takeWhile (· != 0)

/-- The text of a part of a name. -/
def nameText (part : List UInt8) : String := Utf8.decode (nameBytes part)

/-- What an access mode asks for. -/
def accessOf? : String → Option (Option Access)
  | "ro" => some (some .read)
  | "rw" => some (some .write)
  | "rwc" => some (some .create)
  | "memory" => some none
  | _ => none

/-- Whether an access mode asks for no more than what is asked for already. Without a file,
everything may be asked for, and nothing is always less. -/
def allows : Option Access → Option Access → Bool
  | none, _ | _, none => true
  | some .create, _ => true
  | some .write, some wanted => wanted != .create
  | some .read, some wanted => wanted == .read

namespace NameOptions

/-- Adds an option. Options of other names mean nothing. -/
def add (o : NameOptions) (name value : String) : Except DatabaseError NameOptions :=
  if name = "mode" then
    match accessOf? value with
    | none => .error (.unknownMode "access mode" value)
    | some wanted =>
      if allows o.access wanted then .ok { o with access := wanted }
      else .error (.refusedMode value)
  else if name = "cache" then
    if value = "shared" ∨ value = "private" then .ok o else .error (.unknownMode "cache mode" value)
  else if name = "vfs" then .ok { o with system := value }
  else .ok o

/-- Adds the option that is written between two `&`; one without a name means nothing. -/
def addWritten (o : NameOptions) (piece : List UInt8) : Except DatabaseError NameOptions :=
  let name := nameText (piece.takeWhile (· != 61))
  if name = "" then .ok o
  else o.add name (nameText ((piece.dropWhile (· != 61)).drop 1))

/-- The options that are written after a question mark. -/
def ofWritten (query : List UInt8) : Except DatabaseError NameOptions := do
  let o ← (query.splitOn 38).foldlM addWritten plain
  if ["unix", "unix-none", "unix-dotfile", "unix-excl", "memdb"].contains o.system then return o
  else throw (.unknownMode "vfs" o.system)

end NameOptions

namespace DatabaseLocation

/-- The location of a path with options. -/
def ofPath (path : String) (o : NameOptions) : DatabaseLocation :=
  match o.access with
  | some access =>
    if path = "" ∨ path = ":memory:" ∨ o.system = "memdb" then nowhere else file path access
  | none => nowhere

/-- The location that is written after `file:`, without its machine. -/
def ofWritten (rest : List UInt8) : Except DatabaseError DatabaseLocation := do
  let rest := rest.takeWhile (· != 35)
  let o ← NameOptions.ofWritten ((rest.dropWhile (· != 63)).drop 1)
  return ofPath (nameText (rest.takeWhile (· != 63))) o

/-- The location that a name stands for. -/
def ofName (name : String) : Except DatabaseError DatabaseLocation :=
  let bytes := Utf8.encode name
  if bytes.contains 0 then .error (.zeroByte (bytes.takeWhile (· != 0)).length)
  else if !"file:".toList.isPrefixOf name.toList then .ok (ofPath name .plain)
  else
    match bytes.drop 5 with
    | 47 :: 47 :: rest =>
      let machine := Utf8.decode (rest.takeWhile (· != 47))
      if machine = "" ∨ machine = "localhost" then ofWritten (rest.dropWhile (· != 47))
      else .error (.unknownAuthority machine)
    | rest => ofWritten rest

end DatabaseLocation

end PagedReports.Host
