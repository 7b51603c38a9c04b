import PagedReports.Json.Basic
import PagedReports.Json.Reader
import PagedReports.Settings

/-!
# The settings file

Settings as a JSON document. A file that cannot be read as settings counts as no file at all.
-/

namespace PagedReports.Settings

open Json

/-- The names of the settings in their file. -/
def fieldNames : List String :=
  ["data_dir", "default_user", "per_page", "date_format", "base_url", "ads_source",
    "http_timeout_secs"]

/-- The settings that fields stand for. The data directory must be among them; any other field
has the value that `defaults` gives it when it is missing. -/
def ofFields? : List (Option Tree) → Option Settings
  | [dataDir, defaultUser, perPage, dateFormat, baseUrl, adsSource, httpTimeout] => do
    let dataDir ← required Tree.text? dataDir
    let d := defaults dataDir
    return {
      dataDir
      defaultUser := ← withDefault Tree.text? d.defaultUser defaultUser
      perPage := ← withDefault Tree.word? d.perPage perPage
      dateFormat := ← withDefault Tree.text? d.dateFormat dateFormat
      baseUrl := ← withDefault Tree.text? d.baseUrl baseUrl
      adsSource := ← withDefault Tree.text? d.adsSource adsSource
      httpTimeout := ← withDefault Tree.word? d.httpTimeout httpTimeout }
  | _ => none

/-- Reads the text of a settings file. -/
def read? (text : String) : Option Settings :=
  (Tree.read? text).bind fun t => (t.fields? fieldNames).bind ofFields?

/-- The settings of a site whose settings file, if there is one, has the given text. -/
def load (defaultDir : String) (file : Option String) : Settings :=
  (file.bind read?).getD (defaults defaultDir)

/-- The document of settings. -/
def document (s : Settings) : Json.Value :=
  .object [("data_dir", .string s.dataDir), ("default_user", .string s.defaultUser),
    ("per_page", .number s.perPage.toNat), ("date_format", .string s.dateFormat),
    ("base_url", .string s.baseUrl), ("ads_source", .string s.adsSource),
    ("http_timeout_secs", .number s.httpTimeout.toNat)]

/-- The text of a settings file. -/
def fileText (s : Settings) : String := s.document.pretty ++ "\n"

end PagedReports.Settings
