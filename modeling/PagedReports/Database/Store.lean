import PagedReports.Report.Session
import PagedReports.Sql.Evaluate

/-!
# A database as a store

Answers the queries of reports from the rows of a database. The database does not change.
-/

namespace PagedReports

open Sql

/-- The rows of a listing from an offset on, at most so many. -/
def Database.selectPage (db : Database) (l : Listing) (params : List Value)
    (offset limit : UInt64) : Except ReportError (List Record) :=
  if 0x8000000000000000 ≤ offset.toNat then .error (.offsetOutOfRange offset)
  else
    match l.records db params with
    | .ok records => .ok ((records.drop offset.toNat).take (min limit.toNat 0x7FFFFFFFFFFFFFFF))
    | .error e => .error (.database e)

/-- The store that answers from a database. -/
def Database.store (db : Database) : Store Unit where
  count := fun selection params s => (.ok (UInt64.ofNat (selection.count db params)), s)
  select := fun listing params offset limit s => (db.selectPage listing params offset limit, s)

end PagedReports
