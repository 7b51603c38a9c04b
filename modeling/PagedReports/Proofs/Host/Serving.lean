import PagedReports.Proofs.Host.Growth

/-!
# Hosts with a database

Where a database file is found, may be written and has tables (`Host.Serves`), opening it gives its
tables. Writing other tables into it changes what this file holds only: every path leads where it
did, and the settings are as they were (`Host.Serves.store`).
-/

namespace PagedReports.Host

namespace FileTree

variable {t t' t'' : FileTree}

/-- Two trees differ in what is in their databases only. -/
def Alike (t t' : FileTree) : Prop :=
  ∀ p, t'.node? p = t.node? p ∨
    ∃ content content', t.node? p = some (.database content) ∧
      t'.node? p = some (.database content')

namespace Alike

/-- A database takes the place of another one. -/
theorem set {place : Place} {content : Option Database}
    (h : t.node? place = some (.database content)) (content' : Option Database) :
    t.Alike (t.set place (.database content')) := by
  intro p
  have hdirectory := isDirectory_of_node? h (by simp)
  by_cases hp : p = place
  · rw [hp]
    exact .inr ⟨content, content', h, node?_set_self hdirectory _⟩
  · left
    rw [node?_set, if_neg hp]
    split
    · rename_i hroot
      rw [hroot, isDirectory_eq_true_iff.1 (isDirectory_root t)]
    · rfl

theorem refl (t : FileTree) : t.Alike t := fun _ => .inl rfl

theorem trans (h : t.Alike t') (h' : t'.Alike t'') : t.Alike t'' := by
  intro p
  obtain heq | ⟨x, y, hx, hy⟩ := h p
  · rw [← heq]
    exact h' p
  · obtain heq' | ⟨-, z, -, hz⟩ := h' p
    · exact .inr ⟨x, y, hx, heq'.trans hy⟩
    · exact .inr ⟨x, z, hx, hz⟩

variable (h : t.Alike t')

include h

theorem isSome_node? (p : Place) : (t'.node? p).isSome = (t.node? p).isSome := by
  obtain heq | ⟨_, _, h₁, h₂⟩ := h p
  · rw [heq]
  · rw [h₁, h₂]
    rfl

theorem isDirectory (p : Place) : t'.isDirectory p = t.isDirectory p := by
  unfold FileTree.isDirectory
  obtain heq | ⟨_, _, h₁, h₂⟩ := h p
  · rw [heq]
  · rw [h₁, h₂]
    rfl

theorem isFile (p : Place) : t'.isFile p = t.isFile p := by
  unfold FileTree.isFile
  obtain heq | ⟨_, _, h₁, h₂⟩ := h p
  · rw [heq]
  · rw [h₁, h₂]

theorem follow? (start : Place) (xs : List String) : t'.follow? start xs = t.follow? start xs := by
  induction xs generalizing start with
  | nil => rw [FileTree.follow?, FileTree.follow?, h.isSome_node?]
  | cons x xs ih => simp only [FileTree.follow?, h.isDirectory, ih]

theorem spell? (limit : Nat) (start : Place) (xs : List String) :
    t'.spell? limit start xs = t.spell? limit start xs := by
  induction xs generalizing start with
  | nil => rfl
  | cons x xs ih => simp only [FileTree.spell?, h.isFile, ih]

end Alike

end FileTree

/-! ### Hosts that differ in their databases only -/

/-- Two hosts differ in what is in their databases only. -/
structure Alike (h h' : Host) : Prop where
  /-- The home directory is the same. -/
  home : h'.home = h.home
  /-- The files are the same, but for what is in databases. -/
  files : h.files.Alike h'.files

namespace Alike

variable {h h' h'' : Host}

theorem refl (h : Host) : h.Alike h := ⟨rfl, .refl h.files⟩

theorem trans (ha : h.Alike h') (ha' : h'.Alike h'') : h.Alike h'' :=
  ⟨ha'.home.trans ha.home, ha.files.trans ha'.files⟩

variable (ha : h.Alike h')

include ha

theorem startOf (path : String) : h'.startOf path = h.startOf path :=
  startOf_eq_of_home ha.home path

theorem resolve? (path : String) : h'.resolve? path = h.resolve? path := by
  rw [Host.resolve?, Host.resolve?, ha.startOf, ha.files.follow?]

theorem contains (path : String) : h'.contains path = h.contains path := by
  rw [Host.contains, Host.contains, ha.resolve?]

theorem databasePlace? (path : String) : h'.databasePlace? path = h.databasePlace? path := by
  rw [Host.databasePlace?, Host.databasePlace?, ha.startOf, ha.files.spell?]

theorem readText? (path : String) : h'.readText? path = h.readText? path := by
  rw [Host.readText?, Host.readText?, Host.node?, Host.node?, ha.resolve?]
  cases h.resolve? path with
  | none => rfl
  | some p =>
    rw [Option.bind_some, Option.bind_some]
    obtain heq | ⟨_, _, h₁, h₂⟩ := ha.files p
    · rw [heq]
    · rw [h₁, h₂]

theorem expand (path : String) : h'.expand path = h.expand path := by
  unfold Host.expand
  rw [ha.home, ha.resolve?]

/-- They have the same settings. -/
theorem loadSettings : h'.loadSettings = h.loadSettings := by
  have hdirectory : h'.settingsDirectory = h.settingsDirectory := by
    rw [settingsDirectory, settingsDirectory, ha.home]
  rw [Host.loadSettings, Host.loadSettings, defaultDataDir, defaultDataDir, settingsPath,
    settingsPath, hdirectory, ha.contains, ha.readText?, ha.home]

end Alike

/-! ### A host with a database -/

/-- A host has a database with tables at a name, under which it is found and may be written. -/
structure Serves (h : Host) (name : String) (db : Database) : Prop where
  /-- Something is found there. -/
  present : h.contains name = true
  /-- It is a database file in a directory. -/
  located : ∃ path access place, DatabaseLocation.ofName name = .ok (.file path access) ∧
    access ≠ .read ∧ h.databasePlace? path = some place ∧
    h.files.isDirectory place.dropLast = true ∧ h.files.node? place = some (.database (some db))

namespace Serves

variable {h : Host} {name : String} {db : Database} (hs : h.Serves name db)

include hs

theorem openDatabase : h.openDatabase name = .ok (h, some db) := by
  obtain ⟨path, access, place, hname, -, hplace, -, hnode⟩ := hs.located
  simp only [Host.openDatabase, hname, bind, Except.bind, hplace, openFile, hnode]

/-- Other tables that are written take the place of the tables that were there. -/
theorem store (db' : Database) :
    ∃ h', h.storeDatabase name db' = .ok h' ∧ h'.Serves name db' ∧ h.Alike h' := by
  obtain ⟨path, access, place, hname, haccess, hplace, hdirectory, hnode⟩ := hs.located
  have hfile := FileTree.isDirectory_of_node? hnode (by simp)
  have halike : h.Alike { h with files := h.files.set place (.database (some db')) } :=
    ⟨rfl, .set hnode _⟩
  refine ⟨_, ?_, ⟨?_, path, access, place, hname, haccess, ?_, ?_, ?_⟩, halike⟩
  · simp only [storeDatabase, hname, bind, Except.bind, haccess, false_and, if_false, hplace,
      Option.getD_some, putDatabase?, hdirectory, if_true]
    rfl
  · rw [halike.contains, hs.present]
  · rw [halike.databasePlace?, hplace]
  · exact (halike.files.isDirectory _).trans hdirectory
  · exact FileTree.node?_set_self hfile _

end Serves

end PagedReports.Host
