import PagedReports.Proofs.Host.Repeating

/-!
# The database in its directory

The path of a data directory and the path of its place name the same database. When one was set up
below the path that was given, it is in the directory (`exists_database_of_isSetUp`), and it is set
up below the path of the place as well (`IsDataDirectory.isSetUp`).
-/

namespace PagedReports.Host

/-! ### Spelling out paths that lead somewhere -/

/-- Below a directory that names lead to, they spell out the place of a name, and they still do
when files have come. -/
theorem FileTree.spell?_of_follow? {t t' : FileTree} {limit : Nat} {start q place : Place}
    {before : List String} {name : String} (hname : IsName name)
    (hq : t.follow? start before = some q) (hdirectory : t.isDirectory q = true)
    (hfiles : t.Extends t') (hspell : t.spell? limit start (before ++ [name]) = some place) :
    place = q ++ [name] ∧ t'.spell? limit start (before ++ [name]) = some (q ++ [name]) := by
  have hfile : ∀ {p}, t.isDirectory p = true → t'.isFile p = false := by
    intro p hp
    rw [isFile, isDirectory_eq_true_iff.1 (hfiles.directory p hp)]
  induction before generalizing start with
  | nil =>
    obtain ⟨rfl, -⟩ := follow?_nil_eq_some hq
    simp only [List.nil_append, spell?, hname.ne_empty, hname.ne_dot, hname.ne_up, or_self,
      if_false] at hspell ⊢
    split at hspell
    · rename_i hroom
      cases hspell
      exact ⟨rfl, if_pos ⟨hroom.1, by rw [hfile hdirectory]; rfl, hroom.2.2⟩⟩
    · cases hspell
  | cons x before ih =>
    rw [List.cons_append, spell?] at hspell ⊢
    obtain ⟨hstart, ⟨hx, hq⟩ | ⟨hx, hq⟩ | ⟨⟨hempty, hdot, hup⟩, hq⟩⟩ := follow?_cons_eq_some hq
    · rw [if_pos hx] at hspell ⊢
      exact ih hq hspell
    · have hstays : ¬(x = "" ∨ x = ".") := by
        rw [hx]
        decide
      rw [if_neg hstays, if_pos hx] at hspell ⊢
      exact ih hq hspell
    · rw [if_neg (not_or.2 ⟨hempty, hdot⟩), if_neg hup] at hspell ⊢
      split at hspell
      · rename_i hroom
        rw [if_pos ⟨hroom.1, by rw [hfile hstart]; rfl, hroom.2.2⟩]
        exact ih hq hspell
      · cases hspell

/-! ### Paths that are no URIs -/

variable {h h₁ h₂ : Host} {dir name : String} {q : Place}

/-- Below a path that is no URI there is none. -/
theorem isPrefixOf_join (hdir : dir ≠ "") (hplain : "file:".toList.isPrefixOf dir.toList = false)
    (hname : '/' ∉ name.toList) : "file:".toList.isPrefixOf (join dir name).toList = false := by
  rw [Bool.eq_false_iff, Ne, List.isPrefixOf_iff_prefix] at hplain ⊢
  rw [join_of_not_mem hdir hname]
  -- What is longer than the path has a slash in it.
  have hslash : ∀ before rest : List Char, "file:".toList <+: before ++ '/' :: rest →
      "file:".toList <+: before := by
    intro before rest hprefix
    obtain hshort | ⟨chars, hchars⟩ :=
      List.prefix_or_prefix_of_prefix hprefix (List.prefix_append before _)
    · exact hshort
    · rw [← hchars, List.prefix_append_right_inj] at hprefix
      cases chars with
      | nil => exact ⟨[], (List.append_nil _).trans (hchars.symm.trans (List.append_nil before))⟩
      | cons c chars =>
        obtain ⟨rfl, -⟩ := List.cons_prefix_cons.1 hprefix
        have hmem : '/' ∈ "file:".toList := by
          rw [← hchars]
          exact List.mem_append_right _ List.mem_cons_self
        exact absurd hmem (by decide)
  split
  · rename_i hlast
    obtain ⟨chars, hchars⟩ := List.getLast?_eq_some_iff.1 hlast
    intro hprefix
    rw [String.toList_append, hchars, List.append_assoc] at hprefix
    rw [hchars] at hplain
    exact hplain ((hslash _ _ hprefix).trans (List.prefix_append _ _))
  · intro hprefix
    rw [String.toList_append, String.toList_append, List.append_assoc] at hprefix
    exact hplain (hslash _ _ hprefix)

/-- A path below a directory that is no URI names the database in the file of that path. -/
theorem eq_of_ofName_join {location : DatabaseLocation} (hdir : dir ≠ "")
    (hplain : "file:".toList.isPrefixOf dir.toList = false) (hname : IsName name)
    (hmemory : name ≠ ":memory:")
    (hlocation : DatabaseLocation.ofName (join dir name) = .ok location) :
    location = .file (join dir name) .create := by
  obtain ⟨before, hnames, -⟩ := exists_names_join hdir hname.slash
  have hother : ∀ path : String, names path = [path] → path ≠ name → join dir name ≠ path := by
    rintro path hpath hne rfl
    rw [hpath] at hnames
    have hlast : some (join dir name) = some name := by
      simpa using congrArg List.getLast? hnames
    exact hne (Option.some.inj hlast)
  have hempty := hother "" rfl hname.ne_empty.symm
  have hnowhere := hother ":memory:" (by decide) hmemory.symm
  unfold DatabaseLocation.ofName at hlocation
  simp only [isPrefixOf_join hdir hplain hname.slash, Bool.not_false, if_true] at hlocation
  split at hlocation
  · cases hlocation
  · cases hlocation
    simp [DatabaseLocation.ofPath, NameOptions.plain, hempty, hnowhere]

/-! ### The database below two paths -/

/-- On the way that a path below another one gives, the last name comes after the place that the
other path leads to. -/
theorem exists_follow?_join (hname : IsName name) (hq : h.resolve? dir = some q) :
    ∃ before, names (join dir name) = before ++ [name] ∧
      h.files.follow? (h.startOf (join dir name)) before = some q := by
  obtain ⟨hdir, hfollow⟩ := resolve?_eq_some hq
  obtain ⟨before, hnames, hbefore⟩ := exists_names_join hdir hname.slash
  refine ⟨before, hnames, ?_⟩
  rw [startOf_join h hdir hname.slash]
  obtain rfl | hslash := hbefore
  · exact hfollow
  · rw [hslash, FileTree.follow?_append] at hfollow
    obtain ⟨p, hp, hstay⟩ := Option.bind_eq_some_iff.1 hfollow
    obtain ⟨-, ⟨-, hstay⟩ | ⟨hup, -⟩ | ⟨⟨hempty, -⟩, -⟩⟩ := FileTree.follow?_cons_eq_some hstay
    · rw [hp, (FileTree.follow?_nil_eq_some hstay).1]
    · exact absurd hup (by decide)
    · exact absurd rfl hempty

/-- What is spelled out below a path that leads to a directory lies in that directory, and is still
spelled out so when files have come. -/
theorem databasePlace?_join {place : Place} (hname : IsName name) (hq : h.resolve? dir = some q)
    (hdirectory : h.files.isDirectory q = true) (hhome : h₁.home = h.home)
    (hfiles : h.files.Extends h₁.files)
    (hplace : h.databasePlace? (join dir name) = some place) :
    place = q ++ [name] ∧ h₁.databasePlace? (join dir name) = some (q ++ [name]) := by
  obtain ⟨before, hnames, hway⟩ := exists_follow?_join hname hq
  have hspell := spell?_of_databasePlace? hplace
  rw [hnames] at hspell
  obtain ⟨rfl, hspell'⟩ := FileTree.spell?_of_follow? hname hway hdirectory hfiles hspell
  refine ⟨rfl, ?_⟩
  unfold databasePlace? at hplace ⊢
  rw [startOf_eq_of_home hhome, hnames, hspell']
  rw [hnames, hspell] at hplace
  exact hplace

/-- A database that was opened below a path that is no URI, and that is set up, has tables and
lies in the directory that the path leads to. -/
theorem exists_database_of_isSetUp {content : Option Database}
    (hplain : "file:".toList.isPrefixOf dir.toList = false) (hname : IsName name)
    (hmemory : name ≠ ":memory:") (hq : h.resolve? dir = some q)
    (hdirectory : h.files.isDirectory q = true)
    (hopen : h.openDatabase (join dir name) = .ok (h₁, content)) (hhome : h₂.home = h.home)
    (hfiles : h.files.Extends h₂.files) (hset : h₂.IsSetUp (join dir name)) :
    ∃ db, h₂.files.node? (q ++ [name]) = some (.database (some db)) ∧ db.initialise = .ok db := by
  obtain ⟨hdir, -⟩ := resolve?_eq_some hq
  cases hlocation : DatabaseLocation.ofName (join dir name) with
  | error e => simp only [openDatabase, hlocation, bind, Except.bind] at hopen; cases hopen
  | ok location =>
    rw [eq_of_ofName_join hdir hplain hname hmemory hlocation] at hlocation
    obtain ⟨place, hplace, -⟩ := (openDatabase_eq_ok hopen).2 _ _ hlocation
    obtain ⟨-, hplace'⟩ := databasePlace?_join hname hq hdirectory hhome hfiles hplace
    obtain ⟨content', hnode, hcomplete⟩ := hset _ _ _ hlocation hplace'
    rw [List.dropLast_concat] at hcomplete
    obtain ⟨db, rfl, hdb⟩ := hcomplete (hfiles.directory q hdirectory)
    exact ⟨db, hnode, hdb⟩

/-- Where a path leads to a directory, what has a name in it is found below the path. -/
theorem resolve?_join (hname : IsName name) (hq : h.resolve? dir = some q)
    (hdirectory : h.files.isDirectory q = true)
    (hthere : (h.files.node? (q ++ [name])).isSome = true) :
    h.resolve? (join dir name) = some (q ++ [name]) := by
  obtain ⟨before, hnames, hway⟩ := exists_follow?_join hname hq
  rw [resolve?, if_neg (ne_empty_of_names hnames hname.ne_empty), hnames, FileTree.follow?_append,
    hway, Option.bind_some, FileTree.follow?_singleton hdirectory
      ⟨hname.ne_empty, hname.ne_dot, hname.ne_up⟩, if_pos hthere]

/-! ### Data directories -/

/-- The name of the database file counts in paths. -/
theorem isName_database : IsName "plugreport.db" := by
  constructor <;> decide

/-- A directory that is found under the path of its place has the database file with everything
that setting it up gives. -/
structure IsDataDirectory (h : Host) (q : Place) : Prop where
  /-- The names of the directory count in paths. -/
  names : ∀ name ∈ q, IsName name
  /-- It is found from the root on. -/
  found : h.files.follow? [] q = some q
  /-- It is a directory. -/
  directory : h.files.isDirectory q = true
  /-- The database is in it. -/
  database : ∃ db, h.files.node? (q ++ ["plugreport.db"]) = some (.database (some db)) ∧
    db.initialise = .ok db

namespace IsDataDirectory

variable (hq : h.IsDataDirectory q)

include hq

theorem resolve?_pathOf : h.resolve? (pathOf q) = some q :=
  Host.resolve?_pathOf (fun n hn => (hq.names n hn).slash) hq.found

/-- The database is found below every path of the directory. -/
theorem resolve?_database (hdir : h.resolve? dir = some q) :
    h.resolve? (join dir "plugreport.db") = some (q ++ ["plugreport.db"]) := by
  obtain ⟨db, hnode, -⟩ := hq.database
  exact resolve?_join isName_database hdir hq.directory (by rw [hnode]; rfl)

/-- Below the path of its place the database is set up. -/
theorem isSetUp : h.IsSetUp (join (pathOf q) "plugreport.db") := by
  intro path access place hlocation hspell
  obtain ⟨db, hnode, hdb⟩ := hq.database
  have hplain : "file:".toList.isPrefixOf (pathOf q).toList = false := by
    obtain ⟨rest, hrest⟩ := List.head?_eq_some_iff.1 (head?_pathOf q)
    rw [hrest]
    rfl
  cases eq_of_ofName_join (pathOf_ne_empty q) hplain isName_database (by decide) hlocation
  obtain ⟨rfl, -⟩ := databasePlace?_join isName_database hq.resolve?_pathOf hq.directory rfl
    (FileTree.Grows.refl _).toExtends hspell
  exact ⟨some db, hnode, fun _ => ⟨db, rfl, hdb⟩⟩

/-- A text file that is written leaves the directory as it is. -/
theorem set_text {place : Place} {s : String} (hnode : h.files.node? place = some (.text s))
    (s' : String) :
    ({ h with files := h.files.set place (.text s') } : Host).IsDataDirectory q := by
  obtain ⟨db, hdatabase, hdb⟩ := hq.database
  have hgrown := FileTree.Extends.set (FileTree.isDirectory_of_node? hnode (by simp)) (.text s')
  have hapart : q ++ ["plugreport.db"] ≠ place := by
    rintro rfl
    rw [hdatabase] at hnode
    cases hnode
  refine ⟨hq.names, hgrown.follow? hq.found, hgrown.directory q hq.directory, db, ?_, hdb⟩
  exact (FileTree.node?_set_of_ne hapart _ _).trans hdatabase

end IsDataDirectory

end PagedReports.Host
