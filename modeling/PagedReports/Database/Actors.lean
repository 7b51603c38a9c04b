import PagedReports.Actor
import PagedReports.Database.Basic
import PagedReports.Error
import PagedReports.Text.Blank

/-!
# Actors of a database

An actor is a row of `users` together with the rows of `user_capabilities` that name it. Names
are compared letter by letter.
-/

namespace PagedReports

open Sql

/-- The text in a column of a result. -/
def textAt (v : Value) (position : Nat) (column : String) : Except DatabaseError String :=
  match v with
  | .text s => .ok s
  | v => .error (.wrongKind v.kindName position column)

/-- The truth in a column of a result: any whole number but zero. -/
def truthAt (v : Value) (position : Nat) (column : String) : Except DatabaseError Bool :=
  match v with
  | .integer n => .ok (n ≠ 0)
  | v => .error (.wrongKind v.kindName position column)

namespace Database

/-- The first row of a table with a text in a column. -/
def findText? (db : Database) (t : TableName) (column text : String) : Option Row :=
  (db.rows t).find? fun r => r.value column = .text text

/-- The actor that a row of `users` stands for. -/
def actorOf (db : Database) (user : Row) : Except DatabaseError Actor := do
  let username ← textAt (user.value "username") 1 "username"
  let first ← textAt (user.value "firstname") 2 "firstname"
  let last ← textAt (user.value "lastname") 3 "lastname"
  let siteAdmin ← truthAt (user.value "siteadmin") 4 "siteadmin"
  let granted := db.userCapabilities.filter fun r => r.value "userid" = .integer user.id
  let capabilities ← granted.mapM fun r => textAt (r.value "capability") 0 "capability"
  return ⟨user.id, username, Text.fullName first last, siteAdmin, capabilities⟩

/-- The actor with a name. -/
def loadActor (db : Database) (username : String) : Except ReportError Actor :=
  match db.findText? .users "username" username with
  | none => .error (.unknownUser username)
  | some user =>
    match db.actorOf user with
    | .ok actor => .ok actor
    | .error e => .error (.database e)

end Database

end PagedReports
