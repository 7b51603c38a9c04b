import PagedReports.Ads.Feed
import PagedReports.Host.Basic

/-!
# Where partner ads come from

A feed is on the web or in a file. This host has no network, so a feed on the web cannot be
reached.
-/

namespace PagedReports

/-- Where a feed is. -/
inductive AdSource where
  /-- On the web; it may take so many seconds to answer. -/
  | web (url : String) (timeout : UInt64)
  /-- In a file. -/
  | file (path : String)
  deriving DecidableEq, Repr

namespace AdSource

/-- The source that a location names. -/
def ofLocation (h : Host) (location : String) (timeout : UInt64) : Except ReportError AdSource :=
  match Text.nonBlank? location with
  | none => .error .noAdSource
  | some s =>
    if "http://".toList.isPrefixOf s.toList || "https://".toList.isPrefixOf s.toList then
      .ok (.web s timeout)
    else .ok (.file (h.expand s))

/-- What a source is called. -/
def describe : AdSource → String
  | web url _ => url
  | file path => path

/-- The ads that a source gives. -/
def fetch (h : Host) : AdSource → Except ReportError (List Ad)
  | web _ _ => .error .unreachableFeed
  | file path =>
    match h.readText? path with
    | some text => Ad.ofFeed text
    | none => .error .fileAccess

end AdSource

end PagedReports
