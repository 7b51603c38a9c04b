import PagedReports.Host.DatabaseFile

/-!
# Growing file trees

What the program does to a file tree only ever adds to it: directories stay directories, and where
something is, something stays (`FileTree.Extends`). So a path that leads to a place keeps leading to
it (`Extends.follow?`). Making directories, opening a database and writing it back also leave every
text of more than one byte as it is (`FileTree.Grows`), because only a file of one byte or none can
become a database.
-/

namespace PagedReports.Host

namespace FileTree

variable {t t' t'' : FileTree} {place p : Place} {n : Node}

theorem lookup_filter_ne {p place : Place} (h : p ≠ place) (nodes : List (Place × Node)) :
    (nodes.filter fun e => e.1 ≠ place).lookup p = nodes.lookup p := by
  induction nodes with
  | nil => rfl
  | cons e nodes ih =>
    obtain ⟨place', n⟩ := e
    by_cases he : place' = place
    · have hne : (p == place') = false := beq_eq_false_iff_ne.2 (he ▸ h)
      rw [List.filter_cons_of_neg (by simp [he]), List.lookup_cons, hne, ih]
    · rw [List.filter_cons_of_pos (by simp [he]), List.lookup_cons, List.lookup_cons, ih]

theorem node?_set (t : FileTree) (place : Place) (n : Node) (p : Place) :
    (t.set place n).node? p =
      if p = [] then some .directory else if p = place then some n else t.node? p := by
  unfold node? set
  by_cases hroot : p = []
  · rw [if_pos hroot, if_pos hroot]
  rw [if_neg hroot, if_neg hroot, if_neg hroot]
  by_cases hp : p = place
  · rw [if_pos hp, hp, List.lookup_cons_self]
  · have hne : (p == place) = false := beq_eq_false_iff_ne.2 hp
    rw [if_neg hp, List.lookup_cons, hne, lookup_filter_ne hp]

/-- Elsewhere everything stays as it is. -/
theorem node?_set_of_ne {place p : Place} (h : p ≠ place) (t : FileTree) (n : Node) :
    (t.set place n).node? p = t.node? p := by
  rw [node?_set, if_neg h]
  split
  · rename_i hroot
    rw [hroot, node?, if_pos rfl]
  · rfl

theorem isDirectory_eq_true_iff : t.isDirectory p = true ↔ t.node? p = some .directory := by
  rw [isDirectory, decide_eq_true_iff]

/-- Where a file is, there is no directory. -/
theorem isDirectory_of_node? (h : t.node? p = some n) (hn : n ≠ .directory) :
    t.isDirectory p = false := by
  rw [isDirectory, h]
  simpa using hn

/-- The root is a directory. -/
theorem isDirectory_root (t : FileTree) : t.isDirectory [] = true := by
  rw [isDirectory_eq_true_iff, node?, if_pos rfl]

/-- What is put where there is no directory is found there. -/
theorem node?_set_self (hplace : t.isDirectory place = false) (n : Node) :
    (t.set place n).node? place = some n := by
  have hroot : place ≠ [] := by
    rintro rfl
    rw [isDirectory_root] at hplace
    cases hplace
  rw [node?_set, if_neg hroot, if_pos rfl]

/-! ### Trees with the same files -/

/-- Two trees have the same at every place. -/
def Same (t t' : FileTree) : Prop := ∀ p, t'.node? p = t.node? p

namespace Same

theorem refl (t : FileTree) : t.Same t := fun _ => rfl

theorem trans (h : t.Same t') (h' : t'.Same t'') : t.Same t'' := fun p => (h' p).trans (h p)

/-- Putting something where it is changes nothing. -/
theorem set (h : t.node? place = some n) : t.Same (t.set place n) := by
  intro p
  by_cases hp : p = place
  · rw [node?_set, hp, if_pos rfl, h]
    split
    · rename_i hroot
      rw [hroot, node?, if_pos rfl] at h
      exact h
    · rfl
  · exact node?_set_of_ne hp t n

/-- What is put at the root does not count. -/
theorem set_root (t : FileTree) (n : Node) : t.Same (t.set [] n) := by
  intro p
  by_cases hp : p = []
  · rw [hp, node?, node?, if_pos rfl, if_pos rfl]
  · exact node?_set_of_ne hp t n

end Same

/-! ### Growth -/

/-- A tree has another one in it, but for what is in its files. -/
structure Extends (t t' : FileTree) : Prop where
  /-- A directory stays one. -/
  directory : ∀ p, t.isDirectory p = true → t'.isDirectory p = true
  /-- Where something is, something stays. -/
  present : ∀ p, (t.node? p).isSome = true → (t'.node? p).isSome = true

/-- A tree has another one in it, with all texts of more than one byte. -/
structure Grows (t t' : FileTree) : Prop extends t.Extends t' where
  /-- A text of more than one byte stays. -/
  text : ∀ p s, 1 < s.utf8ByteSize → t.node? p = some (.text s) → t'.node? p = some (.text s)

theorem Extends.trans (h : t.Extends t') (h' : t'.Extends t'') : t.Extends t'' :=
  ⟨fun p hp => h'.directory p (h.directory p hp), fun p hp => h'.present p (h.present p hp)⟩

theorem Extends.set (h : t.isDirectory place = false) (n : Node) : t.Extends (t.set place n) := by
  constructor
  · intro p hp
    rw [isDirectory_eq_true_iff, node?_set]
    have hne : p ≠ place := by
      rintro rfl
      rw [h] at hp
      cases hp
    rw [if_neg hne, isDirectory_eq_true_iff.1 hp, ite_self]
  · intro p hp
    rw [node?_set]
    split
    · rfl
    split
    · rfl
    · exact hp

namespace Grows

theorem refl (t : FileTree) : t.Grows t := ⟨⟨fun _ h => h, fun _ h => h⟩, fun _ _ _ h => h⟩

theorem trans (h : t.Grows t') (h' : t'.Grows t'') : t.Grows t'' :=
  ⟨h.toExtends.trans h'.toExtends, fun p s hs hp => h'.text p s hs (h.text p s hs hp)⟩

/-- Something may be put where there is neither a directory nor a longer text. -/
theorem set (hdirectory : t.isDirectory place = false)
    (htext : ∀ s, t.node? place = some (.text s) → s.utf8ByteSize ≤ 1) (n : Node) :
    t.Grows (t.set place n) := by
  refine ⟨Extends.set hdirectory n, fun p s hs hp => ?_⟩
  have hroot : p ≠ [] := by
    rintro rfl
    rw [isDirectory_eq_true_iff.1 (isDirectory_root t)] at hp
    cases hp
  have hne : p ≠ place := by
    rintro rfl
    have := htext s hp
    omega
  rw [node?_set, if_neg hroot, if_neg hne, hp]

/-- What is put at the root does not count. -/
theorem set_root (t : FileTree) (n : Node) : t.Grows (t.set [] n) := by
  have hsame := Same.set_root t n
  refine ⟨⟨fun p hp => ?_, fun p hp => ?_⟩, fun p s _ hp => ?_⟩
  · rwa [isDirectory_eq_true_iff, hsame, ← isDirectory_eq_true_iff]
  · rwa [hsame]
  · rwa [hsame]

end Grows

/-! ### Following paths -/

theorem follow?_append (t : FileTree) (start : Place) (xs ys : List String) :
    t.follow? start (xs ++ ys) = (t.follow? start xs).bind (t.follow? · ys) := by
  induction xs generalizing start with
  | nil =>
    rw [List.nil_append, follow?]
    split
    · rfl
    · rename_i hnone
      have hdirectory : t.isDirectory start = false := by
        rw [isDirectory, Option.not_isSome_iff_eq_none.1 hnone]
        rfl
      cases ys with
      | nil => rw [follow?, if_neg hnone]; rfl
      | cons y ys => rw [follow?, hdirectory]; rfl
  | cons x xs ih =>
    rw [List.cons_append, follow?, follow?]
    split
    · rfl
    split
    · exact ih start
    split
    · exact ih _
    · exact ih _

/-- In a directory, a proper name leads to what has that name. -/
theorem follow?_singleton {parent : Place} {name : String}
    (hparent : t.isDirectory parent = true) (hname : name ≠ "" ∧ name ≠ "." ∧ name ≠ "..") :
    t.follow? parent [name] =
      if (t.node? (parent ++ [name])).isSome then some (parent ++ [name]) else none := by
  obtain ⟨hempty, hdot, hup⟩ := hname
  simp [follow?, hparent, hempty, hdot, hup]

/-- Where something is found, it is found in every larger tree. -/
theorem Extends.follow? (h : t.Extends t') {start q : Place} {xs : List String}
    (hq : t.follow? start xs = some q) : t'.follow? start xs = some q := by
  induction xs generalizing start with
  | nil =>
    rw [FileTree.follow?] at hq ⊢
    split at hq
    · rename_i hp
      rw [if_pos (h.present _ hp), hq]
    · cases hq
  | cons x xs ih =>
    rw [FileTree.follow?] at hq ⊢
    cases hdirectory : t.isDirectory start with
    | false => rw [hdirectory] at hq; cases hq
    | true =>
      rw [hdirectory] at hq
      rw [h.directory start hdirectory]
      simp only [Bool.not_true, Bool.false_eq_true, if_false] at hq ⊢
      split
      · rename_i hx
        rw [if_pos hx] at hq
        exact ih hq
      rename_i hx
      rw [if_neg hx] at hq
      split
      · rename_i hup
        rw [if_pos hup] at hq
        exact ih hq
      · rename_i hup
        rw [if_neg hup] at hq
        exact ih hq

/-- Making directories adds directories where nothing was. -/
theorem grows_makeDirectories (way : List String) (t : FileTree) (place : Place) :
    t.Grows (t.makeDirectories place way).1 := by
  induction way generalizing t place with
  | nil => exact .refl t
  | cons name way ih =>
    rw [makeDirectories]
    split
    · exact .refl t
    split
    · exact ih t place
    split
    · exact ih t _
    split
    · exact ih t _
    rename_i hnone
    split
    · have hset : t.Grows (t.set (place ++ [name]) .directory) := by
        refine .set ?_ (fun s hs => ?_) _
        · rw [isDirectory, hnone]
          rfl
        · rw [hnone] at hs
          cases hs
      exact hset.trans (ih _ _)
    · exact .refl t

/-- Which place names write down does not depend on the tree. -/
theorem eq_of_spell? {limit : Nat} {start q q' : Place} {xs : List String}
    (h : t.spell? limit start xs = some q) (h' : t'.spell? limit start xs = some q') : q = q' := by
  induction xs generalizing start with
  | nil =>
    rw [spell?] at h h'
    rw [← Option.some.inj h, ← Option.some.inj h']
  | cons x xs ih =>
    rw [spell?] at h h'
    split at h
    · rename_i hx
      rw [if_pos hx] at h'
      exact ih h h'
    rename_i hx
    rw [if_neg hx] at h'
    split at h
    · rename_i hup
      rw [if_pos hup] at h'
      exact ih h h'
    rename_i hup
    rw [if_neg hup] at h'
    split at h
    · split at h'
      · exact ih h h'
      · cases h'
    · cases h

end FileTree

/-! ### Growing hosts -/

/-- A host has the same home directory as another one, and a file tree that has grown. -/
structure Grows (h h' : Host) : Prop where
  /-- The home directory is the same. -/
  home : h'.home = h.home
  /-- The file tree has grown. -/
  files : h.files.Grows h'.files

variable {h h' h'' : Host}

theorem Grows.refl (h : Host) : h.Grows h := ⟨rfl, .refl h.files⟩

theorem Grows.trans (hg : h.Grows h') (hg' : h'.Grows h'') : h.Grows h'' :=
  ⟨hg'.home.trans hg.home, hg.files.trans hg'.files⟩

theorem grows_makeDirectories (h : Host) (path : String) : h.Grows (h.makeDirectories path).1 := by
  unfold makeDirectories
  split
  · exact .refl h
  split
  · exact .refl h
  · exact ⟨rfl, FileTree.grows_makeDirectories _ _ _⟩

/-- Where a path starts depends on the home directory only. -/
theorem startOf_eq_of_home (hhome : h'.home = h.home) (path : String) :
    h'.startOf path = h.startOf path := by
  rw [startOf, startOf, homePlace, homePlace, hhome]

/-- A path leads where it did, if the files that were there are still there. -/
theorem resolve?_of_extends (hhome : h'.home = h.home) (hfiles : h.files.Extends h'.files)
    {path : String} {place : Place} (hp : h.resolve? path = some place) :
    h'.resolve? path = some place := by
  unfold resolve? at hp ⊢
  split at hp
  · cases hp
  · rename_i hpath
    rw [if_neg hpath, startOf_eq_of_home hhome]
    exact hfiles.follow? hp

/-! ### Databases -/

theorem putDatabase?_eq_some {place : Place} {content : Option Database}
    (hput : h.putDatabase? place content = some h') :
    h' = { h with files := h.files.set place (.database content) } := by
  unfold putDatabase? at hput
  split at hput
  · exact (Option.some.inj hput).symm
  · cases hput

/-- Opening a file leaves a database there. -/
theorem openFile_eq_ok {place : Place} {access : Access} {name : String}
    {content : Option Database} (hopen : h.openFile place access name = .ok (h', content)) :
    h.Grows h' ∧ h'.files.node? place = some (.database content) := by
  have make : ∀ {content}, h.files.isDirectory place = false →
      (∀ s, h.files.node? place = some (.text s) → s.utf8ByteSize ≤ 1) →
      openFile.makeDatabase h place name = .ok (h', content) →
      h.Grows h' ∧ h'.files.node? place = some (.database content) := by
    intro content hdirectory htext hmake
    unfold openFile.makeDatabase at hmake
    split at hmake
    · rename_i hput
      cases hmake
      rw [putDatabase?_eq_some hput]
      exact ⟨⟨rfl, .set hdirectory htext _⟩, FileTree.node?_set_self hdirectory _⟩
    · cases hmake
  unfold openFile at hopen
  cases hnode : h.files.node? place with
  | none =>
    rw [hnode] at hopen
    simp only at hopen
    split at hopen
    · refine make (by rw [FileTree.isDirectory, hnode]; rfl) (fun s hs => ?_) hopen
      rw [hnode] at hs
      cases hs
    · cases hopen
  | some node =>
    rw [hnode] at hopen
    cases node with
    | directory => cases hopen
    | database content' =>
      cases hopen
      exact ⟨.refl h, hnode⟩
    | text s =>
      simp only at hopen
      split at hopen
      · cases hopen
      split at hopen
      · cases hopen
      · rename_i hshort _
        refine make (FileTree.isDirectory_of_node? hnode (by simp)) (fun s' hs' => ?_) hopen
        rw [hnode] at hs'
        cases hs'
        omega

/-- Opening a database leaves it at its place, if it has one. -/
theorem openDatabase_eq_ok {name : String} {content : Option Database}
    (hopen : h.openDatabase name = .ok (h', content)) :
    h.Grows h' ∧ ∀ path access, DatabaseLocation.ofName name = .ok (.file path access) →
      ∃ place, h.databasePlace? path = some place ∧
        h'.files.node? place = some (.database content) := by
  unfold openDatabase at hopen
  cases hname : DatabaseLocation.ofName name with
  | error e => rw [hname] at hopen; cases hopen
  | ok location =>
    rw [hname] at hopen
    cases location with
    | nowhere =>
      cases hopen
      exact ⟨.refl h, nofun⟩
    | file path access =>
      cases hplace : h.databasePlace? path with
      | none => simp only [bind, Except.bind, hplace] at hopen; cases hopen
      | some place =>
        simp only [bind, Except.bind, hplace] at hopen
        obtain ⟨hgrows, hnode⟩ := openFile_eq_ok hopen
        refine ⟨hgrows, fun path' access' heq => ?_⟩
        cases heq
        exact ⟨place, hplace, hnode⟩

theorem spell?_of_databasePlace? {path : String} {place : Place}
    (hplace : h.databasePlace? path = some place) :
    h.files.spell? databasePathLimit (h.startOf path) (names path) = some place := by
  unfold databasePlace? at hplace
  split at hplace
  · rename_i place' hspell
    split at hplace
    · cases hplace
      exact hspell
    · cases hplace
  · cases hplace

/-- The place of a database does not depend on the files. -/
theorem eq_of_databasePlace? (hhome : h'.home = h.home) {path : String} {place place' : Place}
    (hplace : h.databasePlace? path = some place) (hplace' : h'.databasePlace? path = some place') :
    place = place' := by
  have hspell := spell?_of_databasePlace? hplace'
  rw [startOf_eq_of_home hhome] at hspell
  exact FileTree.eq_of_spell? (spell?_of_databasePlace? hplace) hspell

/-- Writing back the database that was opened changes no other file. -/
theorem grows_storeDatabase {name : String} {content : Option Database} {db : Database}
    (hopen : h.openDatabase name = .ok (h', content)) (hstore : h'.storeDatabase name db = .ok h'') :
    h'.Grows h'' := by
  obtain ⟨hgrows, hplaced⟩ := openDatabase_eq_ok hopen
  have hput : ∀ place, h'.Grows { h' with files := h'.files.set place (.database (some db)) } →
      h'.Grows ((h'.putDatabase? place (some db)).getD h') := by
    intro place hset
    cases hresult : h'.putDatabase? place (some db) with
    | none => exact .refl h'
    | some h₃ => rwa [Option.getD_some, putDatabase?_eq_some hresult]
  unfold storeDatabase at hstore
  cases hname : DatabaseLocation.ofName name with
  | error e => rw [hname] at hstore; cases hstore
  | ok location =>
    rw [hname] at hstore
    cases location with
    | nowhere =>
      cases hstore
      exact .refl h'
    | file path access =>
      obtain ⟨place, hplace, hnode⟩ := hplaced path access hname
      simp only [bind, Except.bind] at hstore
      split at hstore
      · cases hstore
      cases hstore
      refine hput _ ⟨rfl, ?_⟩
      cases hagain : h'.databasePlace? path with
      | none => exact FileTree.Grows.set_root _ _
      | some place' =>
        -- The place is spelled out as it was, so it is the place of the database.
        have hsame := eq_of_databasePlace? hgrows.home hplace hagain
        rw [Option.getD_some, ← hsame]
        refine .set ?_ (fun s hs => ?_) _
        · exact FileTree.isDirectory_of_node? hnode (by simp)
        · rw [hnode] at hs
          cases hs

end PagedReports.Host
