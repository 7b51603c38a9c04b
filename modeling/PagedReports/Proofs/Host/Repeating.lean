import PagedReports.Proofs.Database.Growing
import PagedReports.Proofs.Host.Paths
import PagedReports.Proofs.Host.Saving
import PagedReports.Proofs.Host.Serving

/-!
# Doing things again

A directory that was made is there when it is to be made again (`makeDirectories_again`), settings
that are saved again take the place of those that were saved (`Holds.saveSettings_again`), and a
database that was opened, set up and written back has everything that setting it up would give it
(`isSetUp_of_storeDatabase`), so that doing all of this again leaves every file as it is
(`IsSetUp.openDatabase`).
-/

namespace PagedReports.Host

theorem FileTree.Same.alike {t t' : FileTree} (h : t.Same t') : t.Alike t' := fun p => .inl (h p)

variable {h h₁ h₂ : Host} {s : Settings} {path name : String}

/-! ### Directories and settings -/

/-- A directory that was made need not be made again. -/
theorem makeDirectories_again (hmake : h.makeDirectories path = (h₁, true))
    (hhome : h₂.home = h₁.home) (hfiles : h₁.files.Extends h₂.files) :
    h₂.makeDirectories path = (h₂, true) := by
  by_cases hpath : path = ""
  · rw [makeDirectories, if_pos hpath]
  · obtain ⟨hasked, q, hq, hdirectory⟩ := makeDirectories_eq_ok hmake hpath
    exact makeDirectories_of_resolve? hasked (resolve?_of_extends hhome hfiles hq)
      (hfiles.directory q hdirectory)

/-- Saving settings makes their directory and writes their file. -/
theorem saveSettings_eq_ok (hsave : h.saveSettings s = (h₁, true)) :
    ∃ made, h.makeDirectories h.settingsDirectory = (made, true) ∧
      made.write? h.settingsPath (.text s.fileText) = some h₁ := by
  generalize hmade : h.makeDirectories h.settingsDirectory = made
  obtain ⟨made, done⟩ := made
  unfold saveSettings at hsave
  rw [hmade] at hsave
  dsimp only at hsave
  split at hsave
  · rename_i written hwrite
    split at hsave
    · rename_i hdone
      cases hsave
      exact ⟨made, Prod.ext rfl hdone, hwrite⟩
    · rename_i hnot
      cases hsave
      exact absurd rfl hnot
  · cases hsave

/-- Writing a file takes no directory away. -/
theorem extends_write? {n : Node} (hwrite : h.write? path n = some h₁) :
    h.files.Extends h₁.files := by
  unfold write? at hwrite
  split at hwrite
  · obtain ⟨place, hplace, rfl⟩ := Option.map_eq_some_iff.1 hwrite
    exact .set (isDirectory_of_filePlace? hplace) _
  · cases hwrite

/-- Where settings are held, other settings that are saved take their place. -/
theorem Holds.saveSettings_again (hs : h.Holds s)
    (hmake : h.makeDirectories h.settingsDirectory = (h, true)) (s' : Settings) :
    ∃ place, h.resolve? h.settingsPath = some place ∧
      h.files.node? place = some (.text s.fileText) ∧
      h.saveSettings s' = ({ h with files := h.files.set place (.text s'.fileText) }, true) := by
  obtain ⟨place, hresolve, hnode⟩ := hs.found
  refine ⟨place, hresolve, hnode, ?_⟩
  have hfile := FileTree.isDirectory_of_node? hnode (by simp)
  have hplace : h.filePlace? h.settingsPath = some place := by
    rw [filePlace?, hresolve]
    simp [hfile]
  have hwrite : h.write? h.settingsPath (.text s'.fileText) =
      some { h with files := h.files.set place (.text s'.fileText) } := by
    rw [write?, if_pos hs.isPath, hplace]
    rfl
  unfold saveSettings
  rw [hmake]
  dsimp only
  rw [hwrite]
  rfl

/-! ### Databases -/

/-- The file that a name stands for, if there is one, is a database that was set up: it has all
that setting it up gives it, unless nothing can be written to it. -/
def IsSetUp (h : Host) (name : String) : Prop :=
  ∀ path access place, DatabaseLocation.ofName name = .ok (.file path access) →
    h.databasePlace? path = some place →
      ∃ content, h.files.node? place = some (.database content) ∧
        (h.files.isDirectory place.dropLast = true →
          ∃ db, content = some db ∧ db.initialise = .ok db)

theorem storeDatabase_of_nowhere {db : Database}
    (hname : DatabaseLocation.ofName name = .ok .nowhere) : h.storeDatabase name db = .ok h := by
  simp only [storeDatabase, hname, bind, Except.bind]
  rfl

theorem storeDatabase_eq_ok {db : Database} {access : Access}
    (hname : DatabaseLocation.ofName name = .ok (.file path access))
    (hstore : h.storeDatabase name db = .ok h₁) :
    h₁ = (h.putDatabase? ((h.databasePlace? path).getD []) (some db)).getD h := by
  simp only [storeDatabase, hname, bind, Except.bind] at hstore
  split at hstore
  · cases hstore
  · cases hstore
    rfl

/-- Whether databases are set up depends on the files only. -/
theorem IsSetUp.of_same (hset : h.IsSetUp name) (hhome : h₁.home = h.home)
    (hfiles : h.files.Same h₁.files) : h₁.IsSetUp name := by
  intro path access place hname hplace
  have halike : h.Alike h₁ := ⟨hhome, hfiles.alike⟩
  rw [halike.databasePlace?] at hplace
  obtain ⟨content, hnode, hcomplete⟩ := hset path access place hname hplace
  refine ⟨content, by rw [hfiles, hnode], fun hdirectory => hcomplete ?_⟩
  rwa [halike.files.isDirectory] at hdirectory

/-- A database that was opened, set up and written back is set up. -/
theorem isSetUp_of_storeDatabase {content : Option Database} {db : Database} {h₃ : Host}
    (hopen : h.openDatabase name = .ok (h₂, content)) (hdb : initialised content = .ok db)
    (hstore : h₂.storeDatabase name db = .ok h₃) : h₃.IsSetUp name := by
  intro path access place hname hplace
  obtain ⟨hgrows, hplaced⟩ := openDatabase_eq_ok hopen
  obtain ⟨place', hplace', hnode⟩ := hplaced path access hname
  have hhome : h₃.home = h₂.home := (grows_storeDatabase hopen hstore).home
  have hstored := storeDatabase_eq_ok hname hstore
  cases hagain : h₂.databasePlace? path with
  | none =>
    -- Then the database is written nowhere, and its place is as unknown as it was.
    rw [hagain, Option.getD_none, putDatabase?, List.dropLast_nil, FileTree.isDirectory_root,
      if_pos rfl, Option.getD_some] at hstored
    have halike : h₂.Alike h₃ := by
      rw [hstored]
      exact ⟨rfl, (FileTree.Same.set_root _ _).alike⟩
    rw [halike.databasePlace?, hagain] at hplace
    cases hplace
  | some place'' =>
    have hsame' : place = place' :=
      (eq_of_databasePlace? (hhome.trans hgrows.home) hplace' hplace).symm
    have hsame'' : place = place'' := (eq_of_databasePlace? hhome hagain hplace).symm
    subst hsame' hsame''
    rw [hagain, Option.getD_some] at hstored
    have hfile := FileTree.isDirectory_of_node? hnode (by simp)
    by_cases hdirectory : h₂.files.isDirectory place.dropLast = true
    · rw [putDatabase?, if_pos hdirectory, Option.getD_some] at hstored
      refine ⟨some db, ?_, fun _ => ⟨db, rfl, Database.initialise_of_initialise hdb⟩⟩
      rw [hstored]
      exact FileTree.node?_set_self hfile _
    · rw [putDatabase?, if_neg hdirectory, Option.getD_none] at hstored
      rw [hstored]
      exact ⟨content, hnode, fun hdirectory' => absurd hdirectory' hdirectory⟩

/-- A database that is set up is not changed by opening it, setting it up and writing it back. -/
theorem IsSetUp.openDatabase (hset : h.IsSetUp name) :
    (∃ e, h.openDatabase name = .error e) ∨ ∃ content, h.openDatabase name = .ok (h, content) ∧
      ∀ db h₁, initialised content = .ok db → h.storeDatabase name db = .ok h₁ →
        h₁.home = h.home ∧ h.files.Same h₁.files := by
  cases hname : DatabaseLocation.ofName name with
  | error e =>
    left
    exact ⟨e, by simp only [Host.openDatabase, hname, bind, Except.bind]⟩
  | ok location =>
    cases location with
    | nowhere =>
      right
      refine ⟨none, by simp only [Host.openDatabase, hname, bind, Except.bind]; rfl, ?_⟩
      intro db h₁ _ hstore
      rw [storeDatabase_of_nowhere hname] at hstore
      cases hstore
      exact ⟨rfl, .refl _⟩
    | file path access =>
      cases hplace : h.databasePlace? path with
      | none =>
        left
        exact ⟨.cannotOpen name, by
          simp only [Host.openDatabase, hname, bind, Except.bind, hplace]; rfl⟩
      | some place =>
        right
        obtain ⟨content, hnode, hcomplete⟩ := hset path access place hname hplace
        refine ⟨content, by
          simp only [Host.openDatabase, hname, bind, Except.bind, hplace, openFile, hnode], ?_⟩
        intro db h₁ hdb hstore
        have hstored := storeDatabase_eq_ok hname hstore
        rw [hplace, Option.getD_some, putDatabase?] at hstored
        split at hstored
        · rename_i hdirectory
          obtain ⟨db', rfl, hdb'⟩ := hcomplete hdirectory
          rw [initialised, Option.getD_some, hdb'] at hdb
          cases hdb
          rw [hstored]
          exact ⟨rfl, .set hnode⟩
        · rw [hstored]
          exact ⟨rfl, .refl _⟩

end PagedReports.Host
