import Mathlib.Data.List.Induction
import PagedReports.Proofs.Host.Growth
import PagedReports.Proofs.Text.Form

/-!
# Paths and places

The path of a place can be taken apart into the names of the place again (`names_pathOf`), and where
a place is found from the root on, it is found under its own path (`resolve?_pathOf`). A path that
leads to a directory leads there without its dots and double slashes too, and making that directory
changes nothing (`makeDirectories_of_resolve?`). So the path of a directory that was made is
expanded to the path of its place, which is the path itself in few cases only (`expand_eq_iff`).
-/

namespace PagedReports.Host

/-! ### Names in paths -/

/-- A name that something in a directory can have, and that counts in a path. -/
structure IsName (name : String) : Prop where
  /-- It is not empty. -/
  ne_empty : name ≠ ""
  /-- It does not stay where it is. -/
  ne_dot : name ≠ "."
  /-- It does not go up. -/
  ne_up : name ≠ ".."
  /-- It is one name. -/
  slash : '/' ∉ name.toList

theorem splitOn_append_cons {α : Type} [DecidableEq α] (a : α) (xs ys : List α) :
    (xs ++ a :: ys).splitOn a = xs.splitOn a ++ ys.splitOn a := by
  induction xs with
  | nil => simp [List.splitOn_cons_eq_if_modifyHead]
  | cons x xs ih =>
    rw [List.cons_append, List.splitOn_cons_eq_if_modifyHead, List.splitOn_cons_eq_if_modifyHead, ih]
    split
    · rfl
    · cases hparts : xs.splitOn a with
      | nil => exact absurd hparts (List.splitOn_ne_nil a xs)
      | cons part parts => rfl

/-- A slash stands between names. -/
theorem names_append_slash (path path' : String) :
    names (path ++ "/" ++ path') = names path ++ names path' := by
  rw [names, String.toList_append, String.toList_append, List.append_assoc]
  change ((path.toList ++ '/' :: path'.toList).splitOn '/').map String.ofList = _
  rw [splitOn_append_cons, List.map_append]
  rfl

theorem names_of_not_mem {name : String} (h : '/' ∉ name.toList) : names name = [name] := by
  have hsplit : (['/'].intercalate [name.toList]).splitOn '/' = [name.toList] :=
    List.splitOn_intercalate '/' (by simpa using h) (by simp)
  rw [List.intercalate_singleton] at hsplit
  rw [names, hsplit, List.map_singleton, String.ofList_toList]

theorem not_mem_of_mem_names {path name : String} (h : name ∈ names path) : '/' ∉ name.toList := by
  obtain ⟨part, hpart, rfl⟩ := List.mem_map.1 h
  rw [String.toList_ofList]
  exact Text.Form.not_mem_of_mem_splitOn part hpart

theorem pathOf_singleton (name : String) : pathOf [name] = "" ++ "/" ++ name := by
  simp [pathOf, String.join]

theorem pathOf_concat {place : Place} (h : place ≠ []) (name : String) :
    pathOf (place ++ [name]) = pathOf place ++ "/" ++ name := by
  simp [pathOf, h, String.join, String.append_assoc]

/-- The names of a place are those in its path. -/
theorem names_pathOf {place : Place} (hne : place ≠ []) (h : ∀ name ∈ place, '/' ∉ name.toList) :
    names (pathOf place) = "" :: place := by
  induction place using List.reverseRecOn with
  | nil => exact absurd rfl hne
  | append_singleton place name ih =>
    have hname := names_of_not_mem (h name (List.mem_append_right _ List.mem_cons_self))
    by_cases hplace : place = []
    · subst hplace
      rw [List.nil_append, pathOf_singleton, names_append_slash, hname]
      rfl
    · rw [pathOf_concat hplace, names_append_slash, hname,
        ih hplace fun name hmem => h name (List.mem_append_left _ hmem)]
      rfl

/-! ### Following names -/

namespace FileTree

variable {t t' : FileTree} {start q : Place} {xs : List String}

/-- One step on the way to a place. -/
theorem follow?_cons_eq_some {x : String} (h : t.follow? start (x :: xs) = some q) :
    t.isDirectory start = true ∧
      ((x = "" ∨ x = ".") ∧ t.follow? start xs = some q ∨
        x = ".." ∧ t.follow? start.dropLast xs = some q ∨
        (x ≠ "" ∧ x ≠ "." ∧ x ≠ "..") ∧ t.follow? (start ++ [x]) xs = some q) := by
  rw [follow?] at h
  split at h
  · cases h
  rename_i hdirectory
  have hstart : t.isDirectory start = true := by simpa using hdirectory
  split at h
  · exact ⟨hstart, .inl ⟨‹_›, h⟩⟩
  rename_i hstays
  obtain ⟨hempty, hdot⟩ := not_or.1 hstays
  split at h
  · exact ⟨hstart, .inr (.inl ⟨‹_›, h⟩)⟩
  · exact ⟨hstart, .inr (.inr ⟨⟨hempty, hdot, ‹_›⟩, h⟩)⟩

theorem follow?_nil_eq_some (h : t.follow? start [] = some q) :
    start = q ∧ (t.node? q).isSome = true := by
  rw [follow?] at h
  split at h
  · cases h
    exact ⟨rfl, ‹_›⟩
  · cases h

/-- What leads to a directory starts from one. -/
theorem isDirectory_of_follow? (h : t.follow? start xs = some q) (hq : t.isDirectory q = true) :
    t.isDirectory start = true := by
  cases xs with
  | nil => rwa [(follow?_nil_eq_some h).1]
  | cons x xs => exact (follow?_cons_eq_some h).1

/-- Empty names and dots may be left out on the way to a directory. -/
theorem follow?_filter_iff (hq : t.isDirectory q = true) :
    t.follow? start (xs.filter fun name => name ≠ "" ∧ name ≠ ".") = some q ↔
      t.follow? start xs = some q := by
  induction xs generalizing start with
  | nil => rfl
  | cons x xs ih =>
    by_cases hx : x = "" ∨ x = "."
    · rw [List.filter_cons_of_neg (by simpa [or_iff_not_imp_left] using hx), ih, follow?]
      cases hstart : t.isDirectory start with
      | true => simp [hx]
      | false =>
        have hnone : t.follow? start xs ≠ some q := by
          intro h
          rw [isDirectory_of_follow? h hq] at hstart
          cases hstart
        simpa using hnone
    · rw [List.filter_cons_of_pos (by simpa [not_or] using hx), follow?, follow?, if_neg hx, if_neg hx]
      split
      · rfl
      split
      · exact ih
      · exact ih

/-- The names of a place that is found come from where the way started, or count on the way. -/
theorem mem_of_follow? (h : t.follow? start xs = some q) :
    ∀ name ∈ q, name ∈ start ∨ name ∈ xs ∧ name ≠ "" ∧ name ≠ "." ∧ name ≠ ".." := by
  induction xs generalizing start with
  | nil =>
    intro name hname
    rw [(follow?_nil_eq_some h).1]
    exact .inl hname
  | cons x xs ih =>
    intro name hname
    obtain ⟨-, ⟨-, h⟩ | ⟨-, h⟩ | ⟨hx, h⟩⟩ := follow?_cons_eq_some h
    · exact (ih h name hname).imp_right fun ⟨hmem, hcounts⟩ => ⟨.tail x hmem, hcounts⟩
    · exact (ih h name hname).imp (fun hmem => List.dropLast_subset start hmem)
        fun ⟨hmem, hcounts⟩ => ⟨.tail x hmem, hcounts⟩
    · obtain hstart | ⟨hmem, hcounts⟩ := ih h name hname
      · obtain hstart | hlast := List.mem_append.1 hstart
        · exact .inl hstart
        · rw [List.mem_singleton] at hlast
          subst hlast
          exact .inr ⟨List.mem_cons_self, hx⟩
      · exact .inr ⟨.tail x hmem, hcounts⟩

/-- Names that all count lead below where the way started. -/
theorem eq_append_of_follow? (hxs : ∀ name ∈ xs, name ≠ "" ∧ name ≠ "." ∧ name ≠ "..")
    (h : t.follow? start xs = some q) : q = start ++ xs := by
  induction xs generalizing start with
  | nil => rw [List.append_nil, (follow?_nil_eq_some h).1]
  | cons x xs ih =>
    obtain ⟨hempty, hdot, hup⟩ := hxs x List.mem_cons_self
    obtain ⟨-, ⟨hx, -⟩ | ⟨hx, -⟩ | ⟨-, h⟩⟩ := follow?_cons_eq_some h
    · exact absurd hx (not_or.2 ⟨hempty, hdot⟩)
    · exact absurd hx hup
    · rw [ih (fun name hname => hxs name (.tail x hname)) h, List.append_assoc]
      rfl

theorem length_le_of_follow? (h : t.follow? start xs = some q) :
    q.length ≤ start.length + xs.length := by
  induction xs generalizing start with
  | nil => rw [(follow?_nil_eq_some h).1]; exact Nat.le_add_right _ _
  | cons x xs ih =>
    rw [List.length_cons]
    obtain ⟨-, ⟨-, h⟩ | ⟨-, h⟩ | ⟨-, h⟩⟩ := follow?_cons_eq_some h
    · have := ih h
      omega
    · have := ih h
      rw [List.length_dropLast] at this
      omega
    · have := ih h
      rw [List.length_append, List.length_singleton] at this
      omega

/-- A place that is found from the root on has directories above it. -/
theorem follow?_dropLast_self {place : Place} (h : t.follow? [] place = some place) :
    t.follow? [] place.dropLast = some place.dropLast := by
  induction place using List.reverseRecOn with
  | nil => exact h
  | append_singleton place name _ =>
    rw [List.dropLast_concat]
    rw [follow?_append] at h
    obtain ⟨parent, hparent, hlast⟩ := Option.bind_eq_some_iff.1 h
    have hlength := length_le_of_follow? hparent
    rw [List.length_nil, Nat.zero_add] at hlength
    have hshort : parent ≠ place ++ [name] := by
      rintro rfl
      rw [List.length_append, List.length_singleton] at hlength
      omega
    obtain ⟨-, ⟨-, hlast⟩ | ⟨-, hlast⟩ | ⟨-, hlast⟩⟩ := follow?_cons_eq_some hlast
    · exact absurd (follow?_nil_eq_some hlast).1 hshort
    · have hup := congrArg List.length (follow?_nil_eq_some hlast).1
      rw [List.length_dropLast, List.length_append, List.length_singleton] at hup
      omega
    · rw [hparent, (List.append_inj' (follow?_nil_eq_some hlast).1 rfl).1]

/-- A place that is found on a way from a place that is found from the root on is found so too. -/
theorem follow?_self (hstart : t.follow? [] start = some start) (h : t.follow? start xs = some q) :
    t.follow? [] q = some q := by
  induction xs generalizing start with
  | nil =>
    rw [(follow?_nil_eq_some h).1] at hstart
    exact hstart
  | cons x xs ih =>
    obtain ⟨hdirectory, ⟨-, h⟩ | ⟨-, h⟩ | ⟨hx, h⟩⟩ := follow?_cons_eq_some h
    · exact ih hstart h
    · exact ih (follow?_dropLast_self hstart) h
    · refine ih ?_ h
      have hthere : (t.node? (start ++ [x])).isSome = true := by
        cases xs with
        | nil =>
          obtain ⟨rfl, hsome⟩ := follow?_nil_eq_some h
          exact hsome
        | cons y ys =>
          rw [isDirectory_eq_true_iff.1 (follow?_cons_eq_some h).1]
          rfl
      rw [follow?_append, hstart, Option.bind_some, follow?_singleton hdirectory hx, if_pos hthere]

/-- Where all directories of a way are there, none is made. -/
theorem makeDirectories_of_follow? (h : t.follow? start xs = some q)
    (hq : t.isDirectory q = true) : t.makeDirectories start xs = (t, true) := by
  induction xs generalizing start with
  | nil => rw [makeDirectories, (follow?_nil_eq_some h).1, hq]
  | cons x xs ih =>
    obtain ⟨hdirectory, ⟨hx, hrest⟩ | ⟨hx, hrest⟩ | ⟨⟨hempty, hdot, hup⟩, hrest⟩⟩ :=
      follow?_cons_eq_some h
    · rw [makeDirectories, hdirectory, if_pos hx]
      exact ih hrest
    · subst hx
      rw [makeDirectories, hdirectory]
      exact ih hrest
    · have hthere : t.node? (start ++ [x]) = some .directory :=
        isDirectory_eq_true_iff.1 (isDirectory_of_follow? hrest hq)
      simp only [makeDirectories, hdirectory, hempty, hdot, hup, hthere, ih hrest]
      rfl

end FileTree

/-! ### Paths that lead to directories -/

variable {h h' : Host} {path : String} {q : Place}

theorem resolve?_eq_some (hq : h.resolve? path = some q) :
    path ≠ "" ∧ h.files.follow? (h.startOf path) (names path) = some q := by
  unfold resolve? at hq
  split at hq
  · cases hq
  · exact ⟨‹_›, hq⟩

/-- A path leads to the directory that was made for it. -/
theorem makeDirectories_eq_ok (hmake : h.makeDirectories path = (h', true)) (hpath : path ≠ "") :
    isPath path = true ∧ ∃ q, h'.resolve? path = some q ∧ h'.files.isDirectory q = true := by
  unfold makeDirectories at hmake
  rw [if_neg hpath] at hmake
  split at hmake
  · cases hmake
  rename_i hasked
  simp only [Prod.mk.injEq, Bool.and_eq_true, Option.any_eq_true] at hmake
  obtain ⟨rfl, -, q, hq, hdirectory⟩ := hmake
  refine ⟨by simpa using hasked, q, ?_, hdirectory⟩
  rw [resolve?, if_neg hpath]
  exact (FileTree.follow?_filter_iff hdirectory).1 hq

/-- Making a directory that is there changes nothing. -/
theorem makeDirectories_of_resolve? (hpath : isPath path = true) (hq : h.resolve? path = some q)
    (hdirectory : h.files.isDirectory q = true) : h.makeDirectories path = (h, true) := by
  obtain ⟨hne, hfollow⟩ := resolve?_eq_some hq
  have hway := (FileTree.follow?_filter_iff hdirectory).2 hfollow
  have hmade : h.files.makeDirectories (h.startOf path)
      (if endsInDot path then ((names path).filter fun name => name ≠ "" ∧ name ≠ ".").dropLast
        else (names path).filter fun name => name ≠ "" ∧ name ≠ ".") = (h.files, true) := by
    split
    · -- Without its last name the way leads to the directory that this name is looked up in.
      rcases List.eq_nil_or_concat ((names path).filter fun name => name ≠ "" ∧ name ≠ ".") with
        hnone | ⟨before, last, hlast⟩
      · rw [hnone] at hway ⊢
        exact FileTree.makeDirectories_of_follow? hway hdirectory
      · rw [hlast, List.concat_eq_append] at hway ⊢
        rw [List.dropLast_concat]
        rw [FileTree.follow?_append] at hway
        obtain ⟨parent, hparent, hname⟩ := Option.bind_eq_some_iff.1 hway
        exact FileTree.makeDirectories_of_follow? hparent
          (FileTree.follow?_cons_eq_some hname).1
    · exact FileTree.makeDirectories_of_follow? hway hdirectory
  have hthere : (h.files.follow? (h.startOf path)
      ((names path).filter fun name => name ≠ "" ∧ name ≠ ".")).any h.files.isDirectory = true := by
    rw [hway]
    exact hdirectory
  simp only [makeDirectories, if_neg hne, hpath, hmade, hthere]
  rfl

/-- Making a directory where a path leads to one changes nothing, even if the path cannot be asked
for. -/
theorem fst_makeDirectories_of_resolve? (hq : h.resolve? path = some q)
    (hdirectory : h.files.isDirectory q = true) : (h.makeDirectories path).1 = h := by
  by_cases hpath : isPath path = true
  · rw [makeDirectories_of_resolve? hpath hq hdirectory]
  · rw [makeDirectories, if_neg (resolve?_eq_some hq).1, if_pos (by simpa using hpath)]

/-- A place that a path leads to, and that is found from the root on, has names that count. -/
theorem isName_of_resolve? (hq : h.resolve? path = some q)
    (hself : h.files.follow? [] q = some q) : ∀ name ∈ q, IsName name := by
  intro name hname
  obtain hroot | ⟨-, hempty, hdot, hup⟩ := FileTree.mem_of_follow? hself name hname
  · cases hroot
  refine ⟨hempty, hdot, hup, ?_⟩
  obtain hstart | ⟨hmem, -⟩ := FileTree.mem_of_follow? (resolve?_eq_some hq).2 name hname
  · rw [startOf] at hstart
    split at hstart
    · cases hstart
    · exact not_mem_of_mem_names (List.mem_filter.1 hstart).1
  · exact not_mem_of_mem_names hmem

/-! ### The path of a place -/

/-- The path of a place starts at the root. -/
theorem head?_pathOf (place : Place) : (pathOf place).toList.head? = some '/' := by
  cases place with
  | nil => rfl
  | cons name place => simp [pathOf]

theorem pathOf_ne_empty (place : Place) : pathOf place ≠ "" := by
  intro hempty
  have hhead := head?_pathOf place
  rw [hempty] at hhead
  cases hhead

theorem startOf_pathOf (h : Host) (place : Place) : h.startOf (pathOf place) = [] :=
  if_pos (head?_pathOf place)

/-- From the root on, the path of a place lists the names of the place. -/
theorem follow?_names_pathOf {t : FileTree} {place : Place}
    (hslash : ∀ name ∈ place, '/' ∉ name.toList) :
    t.follow? [] (names (pathOf place)) = t.follow? [] place := by
  have hroot := t.isDirectory_root
  by_cases hplace : place = []
  · subst hplace
    change t.follow? [] ["", ""] = t.follow? [] []
    simp [FileTree.follow?, hroot]
  · rw [names_pathOf hplace hslash, FileTree.follow?, hroot]
    rfl

/-- What is found from the root on is found under its own path. -/
theorem resolve?_pathOf (hslash : ∀ name ∈ q, '/' ∉ name.toList)
    (hself : h.files.follow? [] q = some q) : h.resolve? (pathOf q) = some q := by
  rw [resolve?, if_neg (pathOf_ne_empty q), startOf_pathOf, follow?_names_pathOf hslash, hself]

/-! ### Paths below a directory -/

/-- A path with a slash at its end has an empty name there. -/
theorem exists_eq_append_slash (h : path.toList.getLast? = some '/') :
    ∃ before, path = before ++ "/" ∧ names path = names before ++ [""] := by
  obtain ⟨chars, hchars⟩ := List.getLast?_eq_some_iff.1 h
  have hpath : path = String.ofList chars ++ "/" ++ "" := by
    rw [← String.toList_inj]
    simp [hchars]
  refine ⟨String.ofList chars, by rw [hpath, String.append_empty], ?_⟩
  rw [hpath, names_append_slash]
  rfl

/-- A name stands below a directory after a slash. -/
theorem join_of_not_mem {dir name : String} (hdir : dir ≠ "") (hname : '/' ∉ name.toList) :
    join dir name =
      if dir.toList.getLast? = some '/' then dir ++ name else dir ++ "/" ++ name := by
  have hhead : name.toList.head? ≠ some '/' := fun h => hname (List.mem_of_mem_head? h)
  rw [join, if_neg (not_or.2 ⟨hdir, hhead⟩)]

/-- Below a directory, a name is the last one of the path. -/
theorem exists_names_join {dir name : String} (hdir : dir ≠ "") (hname : '/' ∉ name.toList) :
    ∃ before, names (join dir name) = before ++ [name] ∧
      (names dir = before ∨ names dir = before ++ [""]) := by
  rw [join_of_not_mem hdir hname]
  split
  · rename_i hlast
    obtain ⟨before, hbefore, hnames⟩ := exists_eq_append_slash hlast
    refine ⟨names before, ?_, .inr hnames⟩
    rw [hbefore, names_append_slash, names_of_not_mem hname]
  · exact ⟨names dir, by rw [names_append_slash, names_of_not_mem hname], .inl rfl⟩

/-- A path below a directory starts where the path of the directory does. -/
theorem startOf_join {dir name : String} (h : Host) (hdir : dir ≠ "") (hname : '/' ∉ name.toList) :
    h.startOf (join dir name) = h.startOf dir := by
  have hchars : dir.toList ≠ [] := by simpa using hdir
  have hsame : (join dir name).toList.head? = dir.toList.head? := by
    rw [join_of_not_mem hdir hname]
    split
    · rw [String.toList_append, List.head?_append_of_ne_nil _ hchars]
    · rw [String.toList_append, String.toList_append, List.append_assoc,
        List.head?_append_of_ne_nil _ hchars]
  rw [startOf, startOf, hsame]

/-! ### Expanding paths -/

/-- A path keeps its spelling when a directory is made for it: it has a tilde, which stands for the
home directory, or it leads somewhere already, or it is empty, or it is the path of a place. -/
def KeepsSpelling (h : Host) (path : String) : Prop :=
  path.toList.head? = some '~' ∨ (h.resolve? path).isSome = true ∨ path = "" ∨
    ∃ place, (∀ name ∈ place, IsName name) ∧ path = pathOf place

theorem expand_of_head?_ne (h : Host) (htilde : path.toList.head? ≠ some '~') :
    h.expand path = ((h.resolve? path).map pathOf).getD path := by
  unfold expand
  split
  · rename_i hpath
    rw [hpath] at htilde
    exact absurd rfl htilde
  · rfl

/-- A path that leads nowhere is left as it is. -/
theorem expand_of_eq_none (htilde : path.toList.head? ≠ some '~') (hnone : h.resolve? path = none) :
    h.expand path = path := by
  rw [expand_of_head?_ne h htilde, hnone]
  rfl

/-- A path that leads to a place is replaced by the path of the place. -/
theorem expand_of_eq_some (htilde : path.toList.head? ≠ some '~') (hq : h.resolve? path = some q) :
    h.expand path = pathOf q := by
  rw [expand_of_head?_ne h htilde, hq]
  rfl

/-- A path that leads to a place is the path of that place if it is the path of any place. -/
theorem pathOf_eq_iff (hq : h.resolve? path = some q) :
    pathOf q = path ↔ ∃ place, (∀ name ∈ place, IsName name) ∧ path = pathOf place := by
  obtain ⟨-, hfollow⟩ := resolve?_eq_some hq
  constructor
  · rintro rfl
    rw [startOf_pathOf] at hfollow
    refine ⟨q, fun name hname => ?_, rfl⟩
    obtain hroot | ⟨hmem, hempty, hdot, hup⟩ := FileTree.mem_of_follow? hfollow name hname
    · cases hroot
    · exact ⟨hempty, hdot, hup, not_mem_of_mem_names hmem⟩
  · rintro ⟨place, hplace, rfl⟩
    rw [startOf_pathOf, follow?_names_pathOf fun name hname => (hplace name hname).slash] at hfollow
    have hcounts : ∀ name ∈ place, name ≠ "" ∧ name ≠ "." ∧ name ≠ ".." := fun name hname =>
      ⟨(hplace name hname).ne_empty, (hplace name hname).ne_dot, (hplace name hname).ne_up⟩
    rw [FileTree.eq_append_of_follow? hcounts hfollow, List.nil_append]

/-- When a host has grown so that a path leads somewhere, the path is expanded as before exactly if
it keeps its spelling. -/
theorem expand_eq_iff (hhome : h'.home = h.home) (hfiles : h.files.Extends h'.files)
    (hthere : path.toList.head? ≠ some '~' → path ≠ "" → h.resolve? path = none →
      (h'.resolve? path).isSome = true) :
    h'.expand path = h.expand path ↔ h.KeepsSpelling path := by
  by_cases htilde : path.toList.head? = some '~'
  · refine ⟨fun _ => .inl htilde, fun _ => ?_⟩
    unfold expand
    split
    · rw [hhome]
    · rename_i hother
      obtain ⟨rest, hrest⟩ := List.head?_eq_some_iff.1 htilde
      exact absurd hrest (hother rest)
  cases hbefore : h.resolve? path with
  | some p =>
    refine ⟨fun _ => .inr (.inl (by rw [hbefore]; rfl)), fun _ => ?_⟩
    rw [expand_of_eq_some htilde hbefore,
      expand_of_eq_some htilde (resolve?_of_extends hhome hfiles hbefore)]
  | none =>
    rw [expand_of_eq_none htilde hbefore]
    by_cases hempty : path = ""
    · refine ⟨fun _ => .inr (.inr (.inl hempty)), fun _ => ?_⟩
      subst hempty
      exact expand_of_eq_none htilde rfl
    · obtain ⟨q, hq⟩ := Option.isSome_iff_exists.1 (hthere htilde hempty hbefore)
      rw [expand_of_eq_some htilde hq]
      refine (pathOf_eq_iff hq).trans ⟨fun hplace => .inr (.inr (.inr hplace)), ?_⟩
      rintro (htilde' | hsome | hempty' | hplace)
      · exact absurd htilde' htilde
      · rw [hbefore] at hsome
        cases hsome
      · exact absurd hempty' hempty
      · exact hplace

end PagedReports.Host
