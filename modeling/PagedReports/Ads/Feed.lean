import PagedReports.Ads
import PagedReports.Json.Reader

/-!
# Feeds of partner ads

A feed is a JSON list of ads.
-/

namespace PagedReports.Ad

open Json

/-- The names of the fields of an ad. -/
def fieldNames : List String := ["partnerid", "name", "imageurl", "url", "country"]

/-- The ad that fields stand for. -/
def ofFields? : List (Option Tree) → Option Ad
  | [partnerId, name, imageUrl, url, country] => do
    return {
      partnerId := ← required Tree.text? partnerId
      name := ← required Tree.text? name
      imageUrl := ← withDefault Tree.optionalText? none imageUrl
      url := ← required Tree.text? url
      country := ← withDefault Tree.optionalText? none country }
  | _ => none

/-- The ad that a document is. -/
def ofTree? (t : Tree) : Option Ad := (t.fields? fieldNames).bind ofFields?

/-- The ads of a feed. -/
def readFeed? (text : String) : Option (List Ad) :=
  match Tree.read? text with
  | some (.array items) => items.mapM ofTree?
  | _ => none

/-- The ads of a feed whose text has been fetched. -/
def ofFeed (text : String) : Except ReportError (List Ad) :=
  match readFeed? text with
  | some ads => .ok ads
  | none => .error .malformedFeed

end PagedReports.Ad
