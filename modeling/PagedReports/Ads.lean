import PagedReports.Database.Insert
import PagedReports.Text.Blank

/-!
# Partner ads

The ads of partners are replaced as a whole by what a feed holds. Ads without a partner or
without a target are passed over. The replacement either happens altogether or not at all.
-/

namespace PagedReports

open Sql

/-- An ad of a feed. -/
structure Ad where
  /-- Which partner it belongs to. -/
  partnerId : String
  /-- What it is called. -/
  name : String
  /-- Where its picture is. -/
  imageUrl : Option String
  /-- Where it leads. -/
  url : String
  /-- Where it is shown; everywhere if nothing is said. -/
  country : Option String
  deriving DecidableEq, Repr

/-- What a replacement did. -/
structure SyncSummary where
  /-- How many ads were taken in. -/
  inserted : Nat
  /-- How many ads were passed over. -/
  skipped : Nat
  /-- How many rows there were before. -/
  removed : Nat
  deriving DecidableEq, Repr

namespace Ad

/-- Whether an ad is taken in. -/
def isUsable (a : Ad) : Bool := !Text.isBlank a.partnerId && !Text.isBlank a.url

/-- A text, or nothing. -/
def optionalText (s : Option String) : Value := (s.map Value.text).getD .null

/-- The row of an ad. -/
def fields (a : Ad) (now : Int64) : Fields :=
  [("partnerid", .text a.partnerId), ("name", .text a.name), ("imageurl", optionalText a.imageUrl),
    ("url", .text a.url), ("country", optionalText a.country), ("timesynced", .integer now)]

end Ad

/-- Replaces the partner ads. -/
def Database.replaceAds (db : Database) (ads : List Ad) (now : Int64) :
    Except DatabaseError (Database × SyncSummary) := do
  let usable := ads.filter Ad.isUsable
  let db' ← (db.withRows .partnerAds []).insertAll
    (usable.map fun a => (.partnerAds, a.fields now))
  return (db', ⟨usable.length, ads.length - usable.length, db.partnerAds.length⟩)

/-- Replaces the partner ads by what a feed gave, unless the feed failed. -/
def Database.syncAds (db : Database) (feed : Except ReportError (List Ad)) (now : Int64) :
    Except ReportError (Database × SyncSummary) :=
  match feed with
  | .error e => .error e
  | .ok ads =>
    match db.replaceAds ads now with
    | .error e => .error (.database e)
    | .ok done => .ok done

end PagedReports
