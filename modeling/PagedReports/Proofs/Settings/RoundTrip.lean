import PagedReports.Proofs.Json.RoundTrip
import PagedReports.Settings.File

/-!
# Settings read back

The text of a settings file is read as the settings that it was written from, whatever texts and
numbers these are (`Settings.read?_fileText`).
-/

namespace PagedReports

open Json

namespace Settings

/-- Every field of a settings file is found under its name. -/
theorem fields?_document (s : Settings) :
    s.document.tree.fields? fieldNames =
      some [some (Value.string s.dataDir).tree, some (Value.string s.defaultUser).tree,
        some (Value.number s.perPage.toNat).tree, some (Value.string s.dateFormat).tree,
        some (Value.string s.baseUrl).tree, some (Value.string s.adsSource).tree,
        some (Value.number s.httpTimeout.toNat).tree] := by
  rw [document, fields?_tree_object]
  simp [fieldNames, Tree.single?]

/-- The text of a settings file is read as the settings that it was written from. -/
theorem read?_fileText (s : Settings) : read? s.fileText = some s := by
  rw [read?, fileText, read?_pretty, Option.bind_some, fields?_document, Option.bind_some]
  simp [ofFields?, required, withDefault, text?_tree_string, word?_tree_number]

/-- Settings that stand in their file are loaded from it. -/
theorem load_fileText (s : Settings) (defaultDir : String) :
    load defaultDir (some s.fileText) = s := by
  rw [load, Option.bind_some, read?_fileText, Option.getD_some]

/-- Settings with the same file are the same. -/
theorem fileText_inj {s s' : Settings} : s.fileText = s'.fileText ↔ s = s' := by
  refine ⟨fun heq => ?_, fun heq => heq ▸ rfl⟩
  rw [← load_fileText s "", heq, load_fileText]

end Settings

end PagedReports
