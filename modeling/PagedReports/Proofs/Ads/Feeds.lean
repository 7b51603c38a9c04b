import PagedReports.Ads.Feed
import PagedReports.Proofs.Attempts
import PagedReports.Proofs.Json.RoundTrip

/-!
# Feeds of ads read back

A feed may be spelled in many ways; each of them is read as the ads of its documents
(`Ad.readFeed?_of_spelled`). Every list of ads has a feed from which it is read, whatever texts its
ads have (`Ad.readFeed?_feedText`).
-/

namespace PagedReports.Ad

open Json

/-- The document of an ad. -/
def document (a : Ad) : Value :=
  .object [("partnerid", .string a.partnerId), ("name", .string a.name),
    ("imageurl", .optional a.imageUrl), ("url", .string a.url), ("country", .optional a.country)]

/-- A feed of ads, on lines of its own. -/
def feedText (ads : List Ad) : String := (Value.array (ads.map document)).pretty ++ "\n"

theorem optionalText?_tree_optional (s : Option String) :
    (Value.optional s).tree.optionalText? = some s := by
  cases s with
  | none => rfl
  | some s =>
    have htext := text?_tree_string s
    rw [Value.tree] at htext
    simp only [Value.optional, Option.map_some, Option.getD_some, Value.tree, Tree.optionalText?,
      htext]

theorem ofTree?_document (a : Ad) : ofTree? a.document.tree = some a := by
  have hfields : a.document.tree.fields? fieldNames =
      some [some (Value.string a.partnerId).tree, some (Value.string a.name).tree,
        some (Value.optional a.imageUrl).tree, some (Value.string a.url).tree,
        some (Value.optional a.country).tree] := by
    rw [document, fields?_tree_object]
    simp [fieldNames, Tree.single?]
  rw [ofTree?, hfields, Option.bind_some]
  simp [ofFields?, required, withDefault, text?_tree_string, optionalText?_tree_optional]

/-- Every spelling of a list of documents is read as the ads of the documents. -/
theorem readFeed?_of_spelled {items : List Tree} {text : String}
    (h : Spelled (.array items) text) : readFeed? text = items.mapM ofTree? := by
  rw [readFeed?, read?_of_spelled h]

/-- Ads are read from their feed. -/
theorem readFeed?_feedText (ads : List Ad) : readFeed? (feedText ads) = some ads := by
  have hspelled := spelled_pretty (.array (ads.map document))
  rw [Value.tree, treesOf_eq_map, List.map_map] at hspelled
  rw [feedText, readFeed?_of_spelled hspelled, List.mapM_map]
  exact (mapM_eq_some_map fun a _ => ofTree?_document a).trans (congrArg some (List.map_id ads))

end PagedReports.Ad
