import PagedReports.Proofs.Host.Growth
import PagedReports.Proofs.Settings.RoundTrip

/-!
# Saving and loading settings

What is written at a path is found at that path (`write?_eq_some`). So a host on which settings were
saved holds them (`holds_of_saveSettings`): loading gives the same settings (`Holds.loadSettings`),
now and after anything that lets the file tree grow (`Grows.holds`).
-/

namespace PagedReports.Host

variable {h h' : Host} {s : Settings}

/-! ### Writing files -/

/-- The place of a file is where its path leads, if that is no directory. If the path leads nowhere,
it is below the directory that all names but the last lead to. -/
theorem filePlace?_eq_some {path : String} {place : Place} (hplace : h.filePlace? path = some place) :
    (h.resolve? path = some place ∧ h.files.isDirectory place = false) ∨
      ∃ before name parent, names path = before ++ [name] ∧
        (name ≠ "" ∧ name ≠ "." ∧ name ≠ "..") ∧
        h.files.follow? (h.startOf path) before = some parent ∧
        h.files.isDirectory parent = true ∧ h.resolve? path = none ∧ place = parent ++ [name] := by
  unfold filePlace? at hplace
  cases hresolve : h.resolve? path with
  | some place' =>
    rw [hresolve] at hplace
    simp only at hplace
    split at hplace
    · cases hplace
    · rename_i hdirectory
      cases hplace
      exact .inl ⟨rfl, Bool.eq_false_iff.2 hdirectory⟩
  | none =>
    rw [hresolve] at hplace
    simp only at hplace
    cases hnames : (names path).reverse with
    | nil => rw [hnames] at hplace; cases hplace
    | cons name before =>
      rw [hnames] at hplace
      simp only at hplace
      split at hplace
      · cases hplace
      rename_i hname
      simp only [not_or] at hname
      cases hfollow : h.files.follow? (h.startOf path) before.reverse with
      | none => rw [hfollow] at hplace; cases hplace
      | some parent =>
        rw [hfollow] at hplace
        simp only at hplace
        split at hplace
        · rename_i hparent
          cases hplace
          have hall : names path = before.reverse ++ [name] := by
            rw [← List.reverse_reverse (names path), hnames, List.reverse_cons]
          exact .inr ⟨_, name, parent, hall, ⟨hname.1, hname.2.1, hname.2.2.1⟩, hfollow, hparent,
            rfl, rfl⟩
        · cases hplace

/-- A path whose last name is not empty is not empty. -/
theorem ne_empty_of_names {path name : String} {before : List String}
    (hnames : names path = before ++ [name]) (hname : name ≠ "") : path ≠ "" := by
  rintro rfl
  have hlast : ([""] : List String).getLast? = some name := by
    rw [show [""] = before ++ [name] from hnames, List.getLast?_concat]
  exact hname (Option.some.inj hlast).symm

/-- The place of a file is no directory. -/
theorem isDirectory_of_filePlace? {path : String} {place : Place}
    (hplace : h.filePlace? path = some place) : h.files.isDirectory place = false := by
  obtain ⟨-, hfile⟩ | ⟨before, name, parent, hnames, hname, hfollow, hparent, hnone, rfl⟩ :=
    filePlace?_eq_some hplace
  · exact hfile
  · have hpath := ne_empty_of_names hnames hname.1
    -- The path leads nowhere, so nothing has the last name yet.
    have hmissing : h.files.node? (parent ++ [name]) = none := by
      rw [resolve?, if_neg hpath, hnames, FileTree.follow?_append, hfollow, Option.bind_some,
        FileTree.follow?_singleton hparent hname] at hnone
      split at hnone
      · cases hnone
      · exact Option.not_isSome_iff_eq_none.1 ‹_›
    rw [FileTree.isDirectory, hmissing]
    rfl

/-- What is put at the place of a file is found at its path. -/
theorem resolve?_set {path : String} {place : Place} (hplace : h.filePlace? path = some place)
    (n : Node) : ({ h with files := h.files.set place n } : Host).resolve? path = some place ∧
      (h.files.set place n).node? place = some n := by
  have hfile := isDirectory_of_filePlace? hplace
  have hextends := FileTree.Extends.set hfile n
  have hnew := FileTree.node?_set_self hfile n
  refine ⟨?_, hnew⟩
  obtain ⟨hresolve, -⟩ | ⟨before, name, parent, hnames, hname, hfollow, hparent, hnone, rfl⟩ :=
    filePlace?_eq_some hplace
  · have hhome : ({ h with files := h.files.set place n } : Host).home = h.home := rfl
    exact resolve?_of_extends hhome hextends hresolve
  · have hpath := ne_empty_of_names hnames hname.1
    have hfollow' : ((h.files.set (parent ++ [name]) n).follow? (h.startOf path) before) =
        some parent := hextends.follow? hfollow
    calc ({ h with files := h.files.set (parent ++ [name]) n } : Host).resolve? path
      _ = (h.files.set (parent ++ [name]) n).follow? (h.startOf path) (before ++ [name]) := by
        rw [resolve?, if_neg hpath, hnames]
        rfl
      _ = some (parent ++ [name]) := by
        rw [FileTree.follow?_append, hfollow', Option.bind_some,
          FileTree.follow?_singleton (hextends.directory parent hparent) hname, hnew]
        rfl

/-- What is written at a path is found there. -/
theorem write?_eq_some {path : String} {n : Node} (hwrite : h.write? path n = some h') :
    isPath path = true ∧ h'.home = h.home ∧
      ∃ place, h'.resolve? path = some place ∧ h'.files.node? place = some n := by
  unfold write? at hwrite
  split at hwrite
  · rename_i hpath
    obtain ⟨place, hplace, rfl⟩ := Option.map_eq_some_iff.1 hwrite
    exact ⟨hpath, rfl, place, resolve?_set hplace n⟩
  · cases hwrite

/-- Whether something can be written at a path does not depend on what it is. -/
theorem isSome_write? (h : Host) (path : String) (n : Node) :
    (h.write? path n).isSome = (isPath path && (h.filePlace? path).isSome) := by
  unfold write?
  cases isPath path with
  | false => rfl
  | true => rw [if_pos rfl, Option.isSome_map, Bool.true_and]

/-! ### The settings file -/

/-- The settings file of a host is that of these settings. -/
structure Holds (h : Host) (s : Settings) : Prop where
  /-- The path of the settings file can be asked for. -/
  isPath : isPath h.settingsPath = true
  /-- The text of the settings is found there. -/
  found : ∃ place, h.resolve? h.settingsPath = some place ∧
    h.files.node? place = some (.text s.fileText)

/-- The settings file of a host has the text of the settings that it holds. -/
theorem Holds.readText? (hs : h.Holds s) : h.readText? h.settingsPath = some s.fileText := by
  obtain ⟨place, hresolve, hnode⟩ := hs.found
  rw [Host.readText?, node?, hresolve, Option.bind_some, hnode]

/-- A host gives the settings that it holds. -/
theorem Holds.loadSettings (hs : h.Holds s) : h.loadSettings = s := by
  obtain ⟨place, hresolve, -⟩ := hs.found
  have hcontains : h.contains h.settingsPath = true := by
    rw [contains, hs.isPath, hresolve]
    rfl
  rw [Host.loadSettings, if_pos hcontains, hs.readText?, Option.getD_some, Settings.load_fileText]

/-- The text of settings has more than one byte: a brace and a line end. -/
theorem one_lt_utf8ByteSize_fileText (s : Settings) : 1 < s.fileText.utf8ByteSize := by
  have hbrace : "\x7d".utf8ByteSize = 1 := by decide
  have hnewline : "\n".utf8ByteSize = 1 := by decide
  have hobject : ∀ key v entries,
      1 ≤ (Json.Value.object ((key, v) :: entries)).pretty.utf8ByteSize := by
    intro key v entries
    rw [Json.Value.pretty, Json.Value.write, String.utf8ByteSize_append, hbrace]
    omega
  rw [Settings.fileText, String.utf8ByteSize_append, hnewline]
  exact Nat.lt_succ_of_le (hobject _ _ _)

/-- Settings are still held when the files have grown. -/
theorem Grows.holds (hg : h.Grows h') (hs : h.Holds s) : h'.Holds s := by
  have hpath : h'.settingsPath = h.settingsPath := by
    rw [settingsPath, settingsPath, settingsDirectory, settingsDirectory, hg.home]
  obtain ⟨place, hresolve, hnode⟩ := hs.found
  refine ⟨by rw [hpath]; exact hs.isPath, place, ?_, ?_⟩
  · rw [hpath]
    exact resolve?_of_extends hg.home hg.files.toExtends hresolve
  · exact hg.files.text place _ (one_lt_utf8ByteSize_fileText s) hnode

/-- Whether settings can be saved does not depend on what they are. -/
theorem saveSettings_snd (h : Host) (s s' : Settings) :
    (h.saveSettings s).2 = (h.saveSettings s').2 := by
  have hverdict : ∀ s : Settings, (h.saveSettings s).2 =
      (((h.makeDirectories h.settingsDirectory).1.write? h.settingsPath (.text s.fileText)).isSome &&
        (h.makeDirectories h.settingsDirectory).2) := by
    intro s
    generalize hmade : h.makeDirectories h.settingsDirectory = made
    obtain ⟨made, done⟩ := made
    unfold saveSettings
    rw [hmade]
    dsimp only
    cases made.write? h.settingsPath (.text s.fileText) <;> cases done <;> rfl
  rw [hverdict s, hverdict s', isSome_write?, isSome_write?]

/-- A host holds the settings that were saved on it. -/
theorem holds_of_saveSettings (hsave : h.saveSettings s = (h', true)) :
    h'.home = h.home ∧ h'.Holds s := by
  have hmade := grows_makeDirectories h h.settingsDirectory
  unfold saveSettings at hsave
  simp only at hsave
  split at hsave
  · rename_i written hwrite
    obtain ⟨hpath, hhome, hfound⟩ := write?_eq_some hwrite
    split at hsave
    · cases hsave
      have hsame : h'.settingsPath = h.settingsPath := by
        rw [settingsPath, settingsPath, settingsDirectory, settingsDirectory, hhome, hmade.home]
      exact ⟨hhome.trans hmade.home, by rw [hsame]; exact hpath, by rw [hsame]; exact hfound⟩
    · rename_i hnot
      rw [hsave] at hnot
      exact absurd rfl hnot
  · cases hsave

end PagedReports.Host
