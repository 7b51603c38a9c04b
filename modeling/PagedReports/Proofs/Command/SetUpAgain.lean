import PagedReports.Proofs.Command.SetUp
import PagedReports.Proofs.Host.DataDirectory

/-!
# Setting up a site again

A set-up that is repeated finds everything in place. It saves settings that name the same data
directory, or the same under another path: a path that led nowhere when it was first expanded leads
to the directory that was then made for it (`setUp_again`).

Both runs are on a host without symbolic links whose current directory is the home directory, as
every `Host` is: that a path is spelled anew by the second run does not come from a link, nor from
a change of the current directory between the runs.
-/

namespace PagedReports

open Host

/-! ### Runs that may fail -/

namespace Run

variable {α β : Type} {c c₁ : Console} {x : Run α} {f : α → Run β}

/-- The host that a run leaves, whether it ends or fails. -/
def hostAfter (x : Run α) (c : Console) : Host :=
  match x c with
  | .ok _ c' | .error _ c' => c'.host

theorem hostAfter_bind_of_ok {a : α} (h : x c = .ok a c₁) :
    hostAfter (x >>= f) c = hostAfter (f a) c₁ := by
  rw [hostAfter, bind_of_ok h, hostAfter]

theorem hostAfter_bind_of_error {e : ReportError} (h : x c = .error e c₁) :
    hostAfter (x >>= f) c = c₁.host := by
  rw [hostAfter, bind_of_error h]

/-- A host that was changed as a whole is gone on with. -/
theorem hostAfter_change_of_true {result : Host × Bool} {f : Unit → Run β} (h : result.2 = true) :
    hostAfter (change result >>= f) c = hostAfter (f ()) { c with host := result.1 } := by
  have hrun : change result c = .ok () { c with host := result.1 } := by
    rw [change, bind_of_ok (setHost_eq result.1 c), h]
    rfl
  exact hostAfter_bind_of_ok hrun

/-- A host that was changed in part is left. -/
theorem hostAfter_change_of_false {result : Host × Bool} {f : Unit → Run β} (h : result.2 = false) :
    hostAfter (change result >>= f) c = result.1 := by
  have hrun : change result c = .error .fileAccess { c with host := result.1 } := by
    rw [change, bind_of_ok (setHost_eq result.1 c), h]
    rfl
  exact hostAfter_bind_of_error hrun

theorem openAt_of_ok {path : String} {h : Host} {content : Option Database}
    (hopen : c.host.openDatabase path = .ok (h, content)) :
    openAt path c = .ok content { c with host := h } := by
  rw [openAt, bind_of_ok (host_eq c), hopen]
  rfl

theorem openAt_of_error {path : String} {e : DatabaseError}
    (hopen : c.host.openDatabase path = .error e) : openAt path c = .error (.database e) c := by
  rw [openAt, bind_of_ok (host_eq c), hopen]
  rfl

theorem store_of_ok {settings : Settings} {db : Database} {h : Host}
    (hstore : c.host.storeDatabase settings.databasePath db = .ok h) :
    store settings db c = .ok () { c with host := h } := by
  rw [store, bind_of_ok (host_eq c), hstore]
  rfl

theorem store_of_error {settings : Settings} {db : Database} {e : DatabaseError}
    (hstore : c.host.storeDatabase settings.databasePath db = .error e) :
    store settings db c = .error (.database e) c := by
  rw [store, bind_of_ok (host_eq c), hstore]
  rfl

end Run

namespace Command

open Run

variable {dataDir defaultUser : Option String} {c c' : Console}

/-- What holds wherever a set-up can end after its settings were saved holds after it. -/
theorem hostAfter_runInit_induction {P : Host → Prop} {s : Settings} {h₁ : Host}
    (hs : newSettings c.host dataDir defaultUser = s)
    (hsave : c.host.saveSettings s = (h₁, true)) (hmade : P (h₁.makeDirectories s.dataDir).1)
    (hopened : ∀ h₂ content,
      (h₁.makeDirectories s.dataDir).1.openDatabase s.databasePath = .ok (h₂, content) → P h₂)
    (hstored : ∀ h₂ content db h₃,
      (h₁.makeDirectories s.dataDir).1.openDatabase s.databasePath = .ok (h₂, content) →
        initialised content = .ok db → h₂.storeDatabase s.databasePath db = .ok h₃ → P h₃) :
    P (hostAfter (runInit dataDir defaultUser) c) := by
  generalize hmake : h₁.makeDirectories s.dataDir = made at hmade hopened hstored
  obtain ⟨made, done⟩ := made
  unfold runInit
  rw [hostAfter_bind_of_ok (host_eq c), hs, hostAfter_bind_of_ok (host_eq c), hsave,
    hostAfter_change_of_true rfl, hostAfter_bind_of_ok (host_eq _), hmake]
  cases done with
  | false =>
    rw [hostAfter_change_of_false rfl]
    exact hmade
  | true =>
    rw [hostAfter_change_of_true rfl]
    cases hopen : made.openDatabase s.databasePath with
    | error e =>
      rw [hostAfter_bind_of_error (openAt_of_error hopen)]
      exact hmade
    | ok opened =>
      obtain ⟨h₂, content⟩ := opened
      have hleft := hopened h₂ content hopen
      rw [hostAfter_bind_of_ok (openAt_of_ok hopen)]
      cases hdb : initialised content with
      | error e => exact hleft
      | ok db =>
        rw [hostAfter_bind_of_ok (ask_ok db _)]
        cases hstore : h₂.storeDatabase s.databasePath db with
        | error e =>
          rw [hostAfter_bind_of_error (store_of_error hstore)]
          exact hleft
        | ok h₃ =>
          rw [hostAfter_bind_of_ok (store_of_ok hstore)]
          exact hstored h₂ content db h₃ hopen hdb hstore

/-- Where settings were saved, and nothing is left to do for their directory and database, a set-up
leaves the files as they are. -/
theorem same_hostAfter_runInit {s : Settings} {h₁ : Host}
    (hs : newSettings c.host dataDir defaultUser = s)
    (hsave : c.host.saveSettings s = (h₁, true)) (hmake : (h₁.makeDirectories s.dataDir).1 = h₁)
    (hset : h₁.IsSetUp s.databasePath) :
    (hostAfter (runInit dataDir defaultUser) c).home = h₁.home ∧
      h₁.files.Same (hostAfter (runInit dataDir defaultUser) c).files := by
  have hopened : ∀ h₂ content, h₁.openDatabase s.databasePath = .ok (h₂, content) → h₂ = h₁ ∧
      ∀ db h₃, initialised content = .ok db → h₂.storeDatabase s.databasePath db = .ok h₃ →
        h₃.home = h₁.home ∧ h₁.files.Same h₃.files := by
    intro h₂ content hopen
    obtain ⟨e, herror⟩ | ⟨content', hopen', hstored⟩ := hset.openDatabase
    · rw [herror] at hopen
      cases hopen
    · rw [hopen'] at hopen
      cases hopen
      exact ⟨rfl, hstored⟩
  refine hostAfter_runInit_induction (P := fun h => h.home = h₁.home ∧ h₁.files.Same h.files)
    hs hsave ?_ ?_ ?_ <;> rw [hmake]
  · exact ⟨rfl, .refl _⟩
  · intro h₂ content hopen
    rw [(hopened h₂ content hopen).1]
    exact ⟨rfl, .refl _⟩
  · intro h₂ content db h₃ hopen hdb hstore
    exact (hopened h₂ content hopen).2 db h₃ hdb hstore

/-- After its settings were saved, a set-up lets the file tree grow. -/
theorem grows_hostAfter_runInit {s : Settings} {h₁ : Host}
    (hs : newSettings c.host dataDir defaultUser = s)
    (hsave : c.host.saveSettings s = (h₁, true)) :
    h₁.Grows (hostAfter (runInit dataDir defaultUser) c) := by
  have hmade := grows_makeDirectories h₁ s.dataDir
  exact hostAfter_runInit_induction (P := h₁.Grows) hs hsave hmade
    (fun _ _ hopen => hmade.trans (openDatabase_eq_ok hopen).1)
    fun _ _ _ _ hopen _ hstore =>
      hmade.trans ((openDatabase_eq_ok hopen).1.trans (grows_storeDatabase hopen hstore))

/-! ### What a set-up leaves -/

/-- A site with the given settings was set up on a host. -/
structure Installed (h : Host) (s : Settings) : Prop where
  /-- The settings are those of the site. -/
  holds : h.Holds s
  /-- Their directory is there. -/
  settingsDirectory : h.makeDirectories h.settingsDirectory = (h, true)
  /-- The data directory is there. -/
  dataDirectory : h.makeDirectories s.dataDir = (h, true)
  /-- The database is set up. -/
  database : h.IsSetUp s.databasePath
  /-- Below a path that is no URI, the database is in the data directory. -/
  located : s.dataDir ≠ "" → "file:".toList.isPrefixOf s.dataDir.toList = false →
    ∃ q db, h.resolve? s.dataDir = some q ∧ h.files.isDirectory q = true ∧
      h.files.node? (q ++ ["plugreport.db"]) = some (.database (some db)) ∧ db.initialise = .ok db

/-- A set-up that succeeds leaves its site, and takes no directory away. -/
theorem installed_of_runInit (hrun : runInit dataDir defaultUser c = .ok () c') :
    Installed c'.host (newSettings c.host dataDir defaultUser) ∧ c'.host.home = c.host.home ∧
      c.host.files.Extends c'.host.files := by
  obtain ⟨h₁, h₂, h₃, content, db, hsave, hmake, hopen, hdb, hstore⟩ := runInit_eq_ok hrun
  obtain ⟨made, hmakeSettings, hwrite⟩ := saveSettings_eq_ok hsave
  have hstart := grows_makeDirectories c.host c.host.settingsDirectory
  rw [hmakeSettings] at hstart
  have hmade := grows_makeDirectories h₁ (newSettings c.host dataDir defaultUser).dataDir
  rw [hmake] at hmade
  have hgrown : h₂.Grows c'.host :=
    (openDatabase_eq_ok hopen).1.trans (grows_storeDatabase hopen hstore)
  have hhome : c'.host.home = c.host.home :=
    (hmade.trans hgrown).home.trans (holds_of_saveSettings hsave).1
  have hwritten : made.files.Extends c'.host.files :=
    (extends_write? hwrite).trans (hmade.trans hgrown).files.toExtends
  have hsettings : c'.host.settingsDirectory = c.host.settingsDirectory := by
    rw [settingsDirectory, settingsDirectory, hhome]
  have hset := isSetUp_of_storeDatabase hopen hdb hstore
  refine ⟨⟨holds_of_runInit hrun, ?_, ?_, hset, fun hdir hplain => ?_⟩, hhome,
    hstart.files.toExtends.trans hwritten⟩
  · rw [hsettings]
    exact makeDirectories_again hmakeSettings (hhome.trans hstart.home.symm) hwritten
  · exact makeDirectories_again hmake hgrown.home hgrown.files.toExtends
  · obtain ⟨-, q, hq, hdirectory⟩ := makeDirectories_eq_ok hmake hdir
    obtain ⟨db', hnode, hdb'⟩ := exists_database_of_isSetUp hplain isName_database (by decide) hq
      hdirectory hopen hgrown.home hgrown.files.toExtends hset
    exact ⟨q, db', resolve?_of_extends hgrown.home hgrown.files.toExtends hq,
      hgrown.files.directory q hdirectory, hnode, hdb'⟩

/-! ### The second set-up -/

/-- A set-up that is repeated has the settings of the first one but for the path of the data
directory, which is expanded again. -/
theorem newSettings_again
    (hload : c'.host.loadSettings = newSettings c.host dataDir defaultUser) :
    newSettings c'.host dataDir defaultUser =
      { newSettings c.host dataDir defaultUser with
        dataDir := (dataDir.map c'.host.expand).getD
          (newSettings c.host dataDir defaultUser).dataDir } := by
  rw [newSettings, hload]
  cases defaultUser <;> rfl

theorem with_dataDir_eq_iff {s : Settings} {dir : String} :
    { s with dataDir := dir } = s ↔ dir = s.dataDir :=
  ⟨fun heq => (congrArg Settings.dataDir heq :), fun heq => heq ▸ rfl⟩

/-- A set-up that is repeated has the same settings exactly if the data directory that it is given
keeps its spelling. -/
theorem newSettings_again_eq_iff (hrun : runInit dataDir defaultUser c = .ok () c') :
    newSettings c'.host dataDir defaultUser = newSettings c.host dataDir defaultUser ↔
      ∀ dir ∈ dataDir, c.host.KeepsSpelling dir := by
  obtain ⟨hinstalled, hhome, hextends⟩ := installed_of_runInit hrun
  rw [newSettings_again hinstalled.holds.loadSettings, with_dataDir_eq_iff]
  cases dataDir with
  | none => simp
  | some dir =>
    have hexpand : c'.host.expand dir = c.host.expand dir ↔ c.host.KeepsSpelling dir := by
      refine expand_eq_iff hhome hextends fun htilde hempty hnone => ?_
      have hdir : (newSettings c.host (some dir) defaultUser).dataDir = dir :=
        expand_of_eq_none htilde hnone
      have hmake := hinstalled.dataDirectory
      rw [hdir] at hmake
      obtain ⟨-, q, hq, -⟩ := makeDirectories_eq_ok hmake hempty
      rw [hq]
      rfl
    calc c'.host.expand dir = c.host.expand dir
      _ ↔ c.host.KeepsSpelling dir := hexpand
      _ ↔ ∀ dir' ∈ some dir, c.host.KeepsSpelling dir' := by simp

/-- A set-up that is repeated saves its settings, whatever comes of the rest. -/
theorem holds_again (hrun : runInit dataDir defaultUser c = .ok () c') :
    (hostAfter (runInit dataDir defaultUser) c').Holds (newSettings c'.host dataDir defaultUser) := by
  obtain ⟨hinstalled, -, -⟩ := installed_of_runInit hrun
  obtain ⟨_, -, -, hsave⟩ := hinstalled.holds.saveSettings_again
    hinstalled.settingsDirectory (newSettings c'.host dataDir defaultUser)
  exact (grows_hostAfter_runInit rfl hsave).holds (holds_of_saveSettings hsave).2

/-- When the settings stay as they are, so does every file. -/
theorem same_again (hrun : runInit dataDir defaultUser c = .ok () c')
    (hsettings : newSettings c'.host dataDir defaultUser = newSettings c.host dataDir defaultUser) :
    (hostAfter (runInit dataDir defaultUser) c').home = c'.host.home ∧
      c'.host.files.Same (hostAfter (runInit dataDir defaultUser) c').files := by
  obtain ⟨hinstalled, -, -⟩ := installed_of_runInit hrun
  obtain ⟨place, -, hnode, hsave⟩ := hinstalled.holds.saveSettings_again
    hinstalled.settingsDirectory (newSettings c.host dataDir defaultUser)
  have hfile := FileTree.isDirectory_of_node? hnode (by simp)
  have hsame := FileTree.Same.set hnode
  have hgrown := FileTree.Extends.set hfile
    (.text (newSettings c.host dataDir defaultUser).fileText)
  generalize c'.host.files.set place (.text (newSettings c.host dataDir defaultUser).fileText) =
    saved at hsave hsame hgrown
  have hmake : ({ c'.host with files := saved } : Host).makeDirectories
      (newSettings c.host dataDir defaultUser).dataDir = ({ c'.host with files := saved }, true) :=
    makeDirectories_again hinstalled.dataDirectory rfl hgrown
  obtain ⟨hhome, hfiles⟩ := same_hostAfter_runInit hsettings hsave (by rw [hmake])
    (hinstalled.database.of_same rfl hsame)
  exact ⟨hhome, hsame.trans hfiles⟩

/-- When the data directory gets another spelling, this is the path of its place, where the database
is. -/
theorem exists_isDataDirectory {dir : String}
    (hrun : runInit (some dir) defaultUser c = .ok () c')
    (hrespelled : ¬c.host.KeepsSpelling dir)
    (hplain : "file:".toList.isPrefixOf dir.toList = false)
    (hstart : c.host.files.follow? [] (c.host.startOf dir) = some (c.host.startOf dir)) :
    ∃ q, (newSettings c.host (some dir) defaultUser).dataDir = dir ∧
      (newSettings c'.host (some dir) defaultUser).dataDir = pathOf q ∧
      c'.host.resolve? dir = some q ∧ c'.host.IsDataDirectory q := by
  obtain ⟨hinstalled, hhome, hextends⟩ := installed_of_runInit hrun
  have htilde : dir.toList.head? ≠ some '~' := fun h => hrespelled (.inl h)
  have hempty : dir ≠ "" := fun h => hrespelled (.inr (.inr (.inl h)))
  have hnone : c.host.resolve? dir = none := by
    rw [← Option.not_isSome_iff_eq_none]
    exact fun h => hrespelled (.inr (.inl h))
  have hdir : (newSettings c.host (some dir) defaultUser).dataDir = dir :=
    expand_of_eq_none htilde hnone
  obtain ⟨q, db, hq, hdirectory, hdatabase, hdb⟩ :=
    hinstalled.located (by rw [hdir]; exact hempty) (by rw [hdir]; exact hplain)
  rw [hdir] at hq
  have hself : c'.host.files.follow? [] q = some q := by
    refine FileTree.follow?_self ?_ (resolve?_eq_some hq).2
    rw [startOf_eq_of_home hhome]
    exact hextends.follow? hstart
  exact ⟨q, hdir, expand_of_eq_some htilde hq, hq, isName_of_resolve? hq hself, hself, hdirectory,
    db, hdatabase, hdb⟩

/-- When the data directory gets another spelling, the settings name the same database, and no file
but theirs is changed. -/
theorem again_of_respelled {dir : String} (hrun : runInit (some dir) defaultUser c = .ok () c')
    (hrespelled : ¬c.host.KeepsSpelling dir)
    (hplain : "file:".toList.isPrefixOf dir.toList = false)
    (hstart : c.host.files.follow? [] (c.host.startOf dir) = some (c.host.startOf dir)) :
    (hostAfter (runInit (some dir) defaultUser) c').resolve?
        (newSettings c'.host (some dir) defaultUser).databasePath =
      c'.host.resolve? (newSettings c.host (some dir) defaultUser).databasePath ∧
      ∀ p, c'.host.resolve? c'.host.settingsPath ≠ some p →
        (hostAfter (runInit (some dir) defaultUser) c').files.node? p = c'.host.files.node? p := by
  obtain ⟨hinstalled, -, -⟩ := installed_of_runInit hrun
  obtain ⟨q, hdir, hdir', hq, hdata⟩ := exists_isDataDirectory hrun hrespelled hplain hstart
  obtain ⟨place, hplace, hnode, hsave⟩ := hinstalled.holds.saveSettings_again
    hinstalled.settingsDirectory (newSettings c'.host (some dir) defaultUser)
  have hsaved := hdata.set_text hnode (newSettings c'.host (some dir) defaultUser).fileText
  have hkept : ∀ p, p ≠ place → (c'.host.files.set place
      (.text (newSettings c'.host (some dir) defaultUser).fileText)).node? p =
        c'.host.files.node? p := fun p hp => FileTree.node?_set_of_ne hp _ _
  generalize c'.host.files.set place
    (.text (newSettings c'.host (some dir) defaultUser).fileText) = saved at hsave hsaved hkept
  obtain ⟨hhome, hsame⟩ := same_hostAfter_runInit rfl hsave
    (by rw [hdir', fst_makeDirectories_of_resolve? hsaved.resolve?_pathOf hsaved.directory])
    (by rw [Settings.databasePath, hdir']; exact hsaved.isSetUp)
  have halike : ({ c'.host with files := saved } : Host).Alike
      (hostAfter (runInit (some dir) defaultUser) c') := ⟨hhome, hsame.alike⟩
  refine ⟨?_, fun p hp => ?_⟩
  · rw [halike.resolve?, Settings.databasePath, Settings.databasePath, hdir, hdir',
      hsaved.resolve?_database hsaved.resolve?_pathOf, hdata.resolve?_database hq]
  · have hother : p ≠ place := by
      rintro rfl
      exact hp hplace
    rw [hsame, hkept p hother]

/-- **A set-up that is repeated changes the settings file at most.** When a set-up has succeeded and
is run again with the same arguments, the settings file keeps its text exactly if the data directory
that was given, if there was one, keeps its spelling; then every file and every database stays as
it is, whether the second run succeeds or not. When the directory does not keep its spelling, the
settings name the path of its place instead. Unless it was given as a URI, and if its path starts at
a place that is found from the root on, this leads to the same database, and every file but the
settings file stays as it is.

Nothing is said of hosts with symbolic links, or of a second run from another current directory:
the current directory of a `Host` is its home directory in both runs. -/
theorem setUp_again {now : Int64} (hrun : run now (.init dataDir defaultUser) c = .ok () c')
    (now' : Int64) :
    let again := hostAfter (run now' (.init dataDir defaultUser)) c'
    (again.readText? again.settingsPath = c'.host.readText? c'.host.settingsPath ↔
        ∀ dir ∈ dataDir, c.host.KeepsSpelling dir) ∧
      ((∀ dir ∈ dataDir, c.host.KeepsSpelling dir) → c'.host.files.Same again.files) ∧
      ∀ dir ∈ dataDir, "file:".toList.isPrefixOf dir.toList = false →
        c.host.files.follow? [] (c.host.startOf dir) = some (c.host.startOf dir) →
          again.resolve? again.loadSettings.databasePath =
              c'.host.resolve? c'.host.loadSettings.databasePath ∧
            ∀ p, c'.host.resolve? c'.host.settingsPath ≠ some p →
              again.files.node? p = c'.host.files.node? p := by
  intro again
  have hheld := holds_of_runInit hrun
  have hheld' : again.Holds (newSettings c'.host dataDir defaultUser) := holds_again hrun
  have hsame : (∀ dir ∈ dataDir, c.host.KeepsSpelling dir) →
      again.home = c'.host.home ∧ c'.host.files.Same again.files := fun hkeeps =>
    same_again hrun ((newSettings_again_eq_iff hrun).2 hkeeps)
  refine ⟨?_, fun hkeeps => (hsame hkeeps).2, fun dir hdir hplain hstart => ?_⟩
  · rw [hheld'.readText?, hheld.readText?, Option.some.injEq, Settings.fileText_inj,
      newSettings_again_eq_iff hrun]
  · obtain rfl : dataDir = some dir := hdir
    rw [hheld'.loadSettings, hheld.loadSettings]
    by_cases hkeeps : c.host.KeepsSpelling dir
    · have hall : ∀ dir' ∈ some dir, c.host.KeepsSpelling dir' := by
        rintro dir' ⟨⟩
        exact hkeeps
      obtain ⟨hhome, hfiles⟩ := hsame hall
      have halike : c'.host.Alike again := ⟨hhome, hfiles.alike⟩
      refine ⟨?_, fun p _ => hfiles p⟩
      rw [halike.resolve?, (newSettings_again_eq_iff hrun).2 hall]
    · exact again_of_respelled hrun hkeeps hplain hstart

/-- Below a directory of which the full path was given, nothing is changed; below one of which a
path from the home directory was given, only the settings file is. -/
theorem setUp_again_brokenConsole :
    (∃ c', run 0 (.init (some "/h/d") none) brokenConsole = .ok () c' ∧
      let again := hostAfter (run 1 (.init (some "/h/d") none)) c'
      again.readText? again.settingsPath = c'.host.readText? c'.host.settingsPath ∧
        c'.host.files.Same again.files) ∧
      ∃ c', run 0 (.init (some "d") none) brokenConsole = .ok () c' ∧
        let again := hostAfter (run 1 (.init (some "d") none)) c'
        again.resolve? again.loadSettings.databasePath =
            c'.host.resolve? c'.host.loadSettings.databasePath ∧
          ∀ p, c'.host.resolve? c'.host.settingsPath ≠ some p →
            again.files.node? p = c'.host.files.node? p := by
  constructor
  · obtain ⟨c', hrun⟩ := exists_eq_ok (x := run 0 (.init (some "/h/d") none))
      (c := brokenConsole) (a := ()) (by decide +kernel)
    have hkeeps : ∀ dir ∈ some "/h/d", brokenConsole.host.KeepsSpelling dir := by
      rintro dir ⟨⟩
      refine .inr (.inr (.inr ⟨["h", "d"], fun name hname => ?_, by decide⟩))
      obtain rfl | rfl : name = "h" ∨ name = "d" := by simpa using hname
      all_goals constructor <;> decide
    obtain ⟨htext, hfiles, -⟩ := setUp_again hrun 1
    exact ⟨c', hrun, htext.2 hkeeps, hfiles hkeeps⟩
  · obtain ⟨c', hrun⟩ := exists_eq_ok (x := run 0 (.init (some "d") none))
      (c := brokenConsole) (a := ()) (by decide +kernel)
    obtain ⟨-, -, hrespelled⟩ := setUp_again hrun 1
    exact ⟨c', hrun, hrespelled "d" rfl (by decide) (by decide +kernel)⟩

/-- A console on a host with an empty home directory. -/
def freshConsole : Console where
  host := { home := "/h", files := ⟨[(["h"], .directory)]⟩ }
  printed := ""

/-- A new directory that is given by its name is named in full when the set-up is repeated. -/
theorem settings_respelled :
    ∃ c', run 0 (.init (some "data") none) freshConsole = .ok () c' ∧
      let again := hostAfter (run 0 (.init (some "data") none)) c'
      c'.host.readText? c'.host.settingsPath = some (Settings.defaults "data").fileText ∧
        again.readText? again.settingsPath = some (Settings.defaults "/h/data").fileText ∧
        again.readText? again.settingsPath ≠ c'.host.readText? c'.host.settingsPath := by
  obtain ⟨c', hrun⟩ := exists_eq_ok (x := run 0 (.init (some "data") none))
    (c := freshConsole) (a := ()) (by decide +kernel)
  have hexpand : (hostAfter (run 0 (.init (some "data") none)) freshConsole).expand "data" =
      "/h/data" := by decide +kernel
  rw [hostAfter, hrun] at hexpand
  have hsettings : newSettings freshConsole.host (some "data") none = Settings.defaults "data" := by
    decide +kernel
  have hheld := holds_of_runInit hrun
  have hheld' := holds_again hrun
  rw [newSettings_again hheld.loadSettings, Option.map_some, Option.getD_some, hexpand] at hheld'
  rw [hsettings] at hheld hheld'
  have hread := hheld.readText?
  have hread' := hheld'.readText?
  refine ⟨c', hrun, hread, hread', fun heq => ?_⟩
  have hfiles := Option.some.inj (hread'.symm.trans (heq.trans hread))
  have hdirs : "/h/data" = "data" := congrArg Settings.dataDir (Settings.fileText_inj.1 hfiles)
  exact absurd hdirs (by decide)

end Command

end PagedReports
