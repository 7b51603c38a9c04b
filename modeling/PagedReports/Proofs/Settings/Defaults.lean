import PagedReports.Host.Basic
import PagedReports.Proofs.Settings.RoundTrip

/-!
# Settings that are missing in their file

A settings file may hold some of the settings only, in any order and among other entries. If the
data directory is one of them, the others have the values of the file and of the defaults, field by
field (`Settings.load_of_written`). If it is not, nothing in the file counts: the settings are the
defaults, also where the file says otherwise. So the file is taken field by field exactly if it
names a data directory or has nothing to say (`Host.loadSettings_eq_over_iff`).
-/

namespace PagedReports

open Json

namespace Settings

/-! ### What a file says -/

/-- Values for some of the settings. -/
structure Given where
  /-- The directory of the database. -/
  dataDir : Option String
  /-- Who runs commands that name nobody. -/
  defaultUser : Option String
  /-- Rows per page. -/
  perPage : Option UInt64
  /-- The pattern of dates. -/
  dateFormat : Option String
  /-- What links to plugins start with. -/
  baseUrl : Option String
  /-- Where partner ads come from. -/
  adsSource : Option String
  /-- How many seconds a feed may take to answer. -/
  httpTimeout : Option UInt64
  deriving DecidableEq, Repr

/-- The given values, and those of other settings for the rest. -/
def Given.over (g : Given) (s : Settings) : Settings where
  dataDir := g.dataDir.getD s.dataDir
  defaultUser := g.defaultUser.getD s.defaultUser
  perPage := g.perPage.getD s.perPage
  dateFormat := g.dateFormat.getD s.dateFormat
  baseUrl := g.baseUrl.getD s.baseUrl
  adsSource := g.adsSource.getD s.adsSource
  httpTimeout := g.httpTimeout.getD s.httpTimeout

/-- Among the entries of an object there is one with a name, and it reads as the value; or there is
none, if there is no value. -/
def Says {α : Type} (read : Tree → Option α) (entries : List (String × Tree)) (name : String)
    (value : Option α) : Prop :=
  (entries.filter fun e => e.1 = name).map (fun e => read e.2) = value.toList.map some

instance {α : Type} [DecidableEq α] (read : Tree → Option α) (entries : List (String × Tree))
    (name : String) (value : Option α) : Decidable (Says read entries name value) :=
  inferInstanceAs (Decidable (_ = _))

/-- The entries of an object hold the given values, and no others, under the names of the settings.
They may stand in any order, among entries with other names. -/
structure Given.In (g : Given) (entries : List (String × Tree)) : Prop where
  dataDir : Says Tree.text? entries "data_dir" g.dataDir
  defaultUser : Says Tree.text? entries "default_user" g.defaultUser
  perPage : Says Tree.word? entries "per_page" g.perPage
  dateFormat : Says Tree.text? entries "date_format" g.dateFormat
  baseUrl : Says Tree.text? entries "base_url" g.baseUrl
  adsSource : Says Tree.text? entries "ads_source" g.adsSource
  httpTimeout : Says Tree.word? entries "http_timeout_secs" g.httpTimeout

/-- A text spells an object that holds the given values. -/
def Given.WrittenAs (g : Given) (text : String) : Prop :=
  ∃ written entries, Spelled (.object written) text ∧ Tree.named? written = some entries ∧
    g.In entries

/-! ### What is loaded -/

/-- A field is found once where the entries say something about it, and not at all elsewhere. -/
theorem exists_single? {α : Type} {read : Tree → Option α} {entries : List (String × Tree)}
    {name : String} {value : Option α} (h : Says read entries name value) :
    ∃ field, Tree.single? entries name = some field ∧ field.map read = value.map some := by
  unfold Says at h
  unfold Tree.single?
  generalize entries.filter (fun e => e.1 = name) = found at h
  cases value with
  | none =>
    obtain rfl := List.map_eq_nil_iff.1 h
    exact ⟨none, rfl, rfl⟩
  | some v =>
    obtain ⟨e, rfl, he⟩ := List.map_eq_singleton_iff.1 h
    exact ⟨some e.2, rfl, congrArg some he⟩

theorem required_eq {α : Type} {read : Tree → Option α} {field : Option Tree} {value : Option α}
    (h : field.map read = value.map some) : required read field = value := by
  cases field <;> cases value <;> simp_all [required]

theorem withDefault_eq {α : Type} {read : Tree → Option α} {field : Option Tree}
    {value : Option α} (h : field.map read = value.map some) (default : α) :
    withDefault read default field = some (value.getD default) := by
  cases field <;> cases value <;> simp_all [withDefault]

/-- A settings file is read if it names a data directory. -/
theorem read?_of_writtenAs {g : Given} {text : String} (h : g.WrittenAs text) (dir : String) :
    read? text = if g.dataDir.isSome then some (g.over (defaults dir)) else none := by
  obtain ⟨written, entries, hspelled, hnamed, hin⟩ := h
  obtain ⟨f₁, hs₁, h₁⟩ := exists_single? hin.dataDir
  obtain ⟨f₂, hs₂, h₂⟩ := exists_single? hin.defaultUser
  obtain ⟨f₃, hs₃, h₃⟩ := exists_single? hin.perPage
  obtain ⟨f₄, hs₄, h₄⟩ := exists_single? hin.dateFormat
  obtain ⟨f₅, hs₅, h₅⟩ := exists_single? hin.baseUrl
  obtain ⟨f₆, hs₆, h₆⟩ := exists_single? hin.adsSource
  obtain ⟨f₇, hs₇, h₇⟩ := exists_single? hin.httpTimeout
  have hfields : (Tree.object written).fields? fieldNames =
      some [f₁, f₂, f₃, f₄, f₅, f₆, f₇] := by
    rw [Tree.fields?, hnamed, Option.bind_some]
    simp [fieldNames, hs₁, hs₂, hs₃, hs₄, hs₅, hs₆, hs₇]
  rw [read?, read?_of_spelled hspelled, Option.bind_some, hfields, Option.bind_some, ofFields?, required_eq h₁]
  cases hdir : g.dataDir with
  | none => rfl
  | some d =>
    simp only [Option.bind_eq_bind, Option.bind_some, withDefault_eq h₂, withDefault_eq h₃,
      withDefault_eq h₄, withDefault_eq h₅, withDefault_eq h₆, withDefault_eq h₇]
    simp [Given.over, hdir, defaults]

/-- With a data directory in the file, a setting has the value of the file, or its default where the
file has none. Without one, all settings have their defaults. -/
theorem load_of_writtenAs {g : Given} {text : String} (h : g.WrittenAs text) (dir : String) :
    load dir (some text) = if g.dataDir.isSome then g.over (defaults dir) else defaults dir := by
  rw [load, Option.bind_some, read?_of_writtenAs h dir]
  split <;> rfl

/-- An object that is written from values holds these values, in their order. -/
theorem Given.writtenAs_pretty {g : Given} {entries : List (String × Value)}
    (h : g.In (entries.map fun e => (e.1, e.2.tree))) :
    g.WrittenAs ((Value.object entries).pretty ++ "\n") :=
  ⟨entryTrees entries, _, spelled_pretty (.object entries), named?_entryTrees entries, h⟩

end Settings

/-- **A settings file that holds some of the settings is taken field by field**, with the defaults
for the others, exactly if it holds the data directory, or nothing but defaults. -/
theorem Host.loadSettings_eq_over_iff {h : Host} {text : String} {g : Settings.Given}
    (hthere : h.contains h.settingsPath = true) (htext : h.readText? h.settingsPath = some text)
    (hwritten : g.WrittenAs text) :
    h.loadSettings = g.over (Settings.defaults h.defaultDataDir) ↔
      g.dataDir.isSome = true ∨
        g.over (Settings.defaults h.defaultDataDir) = Settings.defaults h.defaultDataDir := by
  rw [loadSettings, if_pos hthere, htext, Option.getD_some, Settings.load_of_writtenAs hwritten]
  by_cases hdir : g.dataDir.isSome = true
  · rw [if_pos hdir]
    exact iff_of_true rfl (.inl hdir)
  · rw [if_neg hdir, or_iff_right hdir]
    exact eq_comm

/-- A host whose settings file has a text. -/
def Host.withSettings (text : String) : Host where
  home := "/h"
  files := ⟨[(["h", ".config", "plugreport", "settings.json"], .text text),
    (["h", ".config", "plugreport"], .directory), (["h", ".config"], .directory),
    (["h"], .directory)]⟩

/-- A file with some settings in another order and among other entries. -/
theorem Host.loadSettings_of_three_settings :
    (Host.withSettings ((Value.object [("per_page", .number 7), ("theme", .array [.null]),
        ("data_dir", .string "/srv"), ("ads_source", .string "\"ads\"")]).pretty ++
        "\n")).loadSettings =
      { Settings.defaults "/srv" with perPage := 7, adsSource := "\"ads\"" } := by
  have hin : Settings.Given.In ⟨some "/srv", none, some 7, none, none, some "\"ads\"", none⟩
      ([("per_page", .number 7), ("theme", .array [.null]), ("data_dir", .string "/srv"),
        ("ads_source", .string "\"ads\"")].map fun e : String × Value => (e.1, e.2.tree)) := by
    constructor <;> decide
  exact (Host.loadSettings_eq_over_iff (by decide +kernel) (by decide +kernel)
    (Settings.Given.writtenAs_pretty hin)).2 (.inl rfl)

/-- A file that names a user but no data directory: nobody is named in the settings. -/
theorem Host.loadSettings_without_dataDir :
    Settings.Given.WrittenAs ⟨none, some "admin", none, none, none, none, none⟩
      "\x7b\n  \"default_user\": \"admin\"\n\x7d\n" ∧
    (Host.withSettings "\x7b\n  \"default_user\": \"admin\"\n\x7d\n").loadSettings.defaultUser =
      "" := by
  have htext : (Value.object [("default_user", .string "admin")]).pretty ++ "\n" =
      "\x7b\n  \"default_user\": \"admin\"\n\x7d\n" := by
    decide +kernel
  have hin : Settings.Given.In ⟨none, some "admin", none, none, none, none, none⟩
      ([("default_user", .string "admin")].map fun e : String × Value => (e.1, e.2.tree)) := by
    constructor <;> decide
  have hwritten := Settings.Given.writtenAs_pretty hin
  rw [htext] at hwritten
  exact ⟨hwritten, by decide +kernel⟩

end PagedReports
