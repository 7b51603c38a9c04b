import PagedReports.Command.Run
import PagedReports.Proofs.Host.Saving

/-!
# Setting up a site

A set-up saves settings and then makes a directory and a database. None of the later steps touches
the settings file, so settings survive being saved (`settings_survive`): whatever they are, they are
loaded as they were saved, and after a set-up those are loaded that were there before, but for what
the set-up was told to change.
-/

namespace PagedReports

/-! ### Steps of a command -/

namespace Run

variable {α β : Type} {c c' : Console}

theorem bind_of_ok {x : Run α} {f : α → Run β} {a : α} (h : x c = .ok a c') :
    (x >>= f) c = f a c' := by
  simp only [bind, EStateM.bind, h]

theorem bind_of_error {x : Run α} {f : α → Run β} {e : ReportError} (h : x c = .error e c') :
    (x >>= f) c = .error e c' := by
  simp only [bind, EStateM.bind, h]

/-- A command goes on where its first part has ended. -/
theorem bind_eq_ok {x : Run α} {f : α → Run β} {b : β} (h : (x >>= f) c = .ok b c') :
    ∃ a c₁, x c = .ok a c₁ ∧ f a c₁ = .ok b c' := by
  simp only [bind, EStateM.bind] at h
  cases hx : x c with
  | ok a c₁ => rw [hx] at h; exact ⟨a, c₁, rfl, h⟩
  | error e c₁ => rw [hx] at h; cases h

/-- A command that leaves a value has ended. -/
theorem exists_eq_ok {x : Run α} {a : α} (h : x.run' c = some a) : ∃ c', x c = .ok a c' := by
  delta EStateM.run' EStateM.run at h
  cases hx : x c with
  | ok a' c' =>
    rw [hx] at h
    cases h
    exact ⟨c', rfl⟩
  | error e c' => rw [hx] at h; cases h

theorem host_eq (c : Console) : host c = .ok c.host c := rfl

theorem setHost_eq (h : Host) (c : Console) : setHost h c = .ok () { c with host := h } := rfl

theorem need_ok (a : α) (c : Console) : need (.ok a) c = .ok a c := rfl

theorem need_error (e : ReportError) (c : Console) : need (.error e : Except _ α) c = .error e c :=
  rfl

theorem ask_ok (a : α) (c : Console) : ask (.ok a) c = .ok a c := rfl

theorem ask_error (e : DatabaseError) (c : Console) :
    ask (.error e : Except _ α) c = .error (.database e) c := rfl

theorem host_eq_ok {h : Host} (hrun : host c = .ok h c') : h = c.host ∧ c' = c := by
  cases hrun
  exact ⟨rfl, rfl⟩

theorem change_eq_ok {result : Host × Bool} (hrun : change result c = .ok () c') :
    result.2 = true ∧ c' = { c with host := result.1 } := by
  unfold change at hrun
  obtain ⟨_, c₁, hset, hrest⟩ := bind_eq_ok hrun
  cases hset
  split at hrest
  · cases hrest
  · rename_i hdone
    cases hrest
    exact ⟨by simpa using hdone, rfl⟩

theorem ask_eq_ok {result : Except DatabaseError α} {a : α} (hrun : ask result c = .ok a c') :
    result = .ok a ∧ c' = c := by
  cases result with
  | ok a' => cases hrun; exact ⟨rfl, rfl⟩
  | error e => cases hrun

theorem openAt_eq_ok {path : String} {content : Option Database}
    (hrun : openAt path c = .ok content c') :
    ∃ h, c.host.openDatabase path = .ok (h, content) ∧ c' = { c with host := h } := by
  unfold openAt at hrun
  obtain ⟨_, _, hhost, hrest⟩ := bind_eq_ok hrun
  obtain ⟨rfl, rfl⟩ := host_eq_ok hhost
  obtain ⟨⟨h, content'⟩, _, hask, hset⟩ := bind_eq_ok hrest
  obtain ⟨hopen, rfl⟩ := ask_eq_ok hask
  cases hset
  exact ⟨h, hopen, rfl⟩

theorem store_eq_ok {settings : Settings} {db : Database} (hrun : store settings db c = .ok () c') :
    ∃ h, c.host.storeDatabase settings.databasePath db = .ok h ∧ c' = { c with host := h } := by
  unfold store at hrun
  obtain ⟨_, _, hhost, hrest⟩ := bind_eq_ok hrun
  obtain ⟨rfl, rfl⟩ := host_eq_ok hhost
  obtain ⟨h, _, hask, hset⟩ := bind_eq_ok hrest
  obtain ⟨hstore, rfl⟩ := ask_eq_ok hask
  cases hset
  exact ⟨h, hstore, rfl⟩

end Run

namespace Command

open Run

/-- A set-up that succeeds has saved its settings, made a directory, and opened and written back a
database. -/
theorem runInit_eq_ok {dataDir defaultUser : Option String} {c c' : Console}
    (hrun : runInit dataDir defaultUser c = .ok () c') :
    ∃ h₁ h₂ h₃ content db, let settings := newSettings c.host dataDir defaultUser
      c.host.saveSettings settings = (h₁, true) ∧
        h₁.makeDirectories settings.dataDir = (h₂, true) ∧
        h₂.openDatabase settings.databasePath = .ok (h₃, content) ∧
        initialised content = .ok db ∧
        h₃.storeDatabase settings.databasePath db = .ok c'.host := by
  unfold runInit at hrun
  obtain ⟨_, _, hhost, hrun₁⟩ := bind_eq_ok hrun
  obtain ⟨rfl, rfl⟩ := host_eq_ok hhost
  obtain ⟨_, _, hhost, hrun₂⟩ := bind_eq_ok hrun₁
  obtain ⟨rfl, rfl⟩ := host_eq_ok hhost
  obtain ⟨_, _, hsave, hrun₃⟩ := bind_eq_ok hrun₂
  obtain ⟨hsaved, rfl⟩ := change_eq_ok hsave
  obtain ⟨_, _, hhost, hrun₄⟩ := bind_eq_ok hrun₃
  obtain ⟨rfl, rfl⟩ := host_eq_ok hhost
  obtain ⟨_, _, hmake, hrun₅⟩ := bind_eq_ok hrun₄
  obtain ⟨hmade, rfl⟩ := change_eq_ok hmake
  obtain ⟨content, _, hopen, hrun₆⟩ := bind_eq_ok hrun₅
  obtain ⟨h₃, hopened, rfl⟩ := openAt_eq_ok hopen
  obtain ⟨db, _, hask, hrun₇⟩ := bind_eq_ok hrun₆
  obtain ⟨hdb, rfl⟩ := ask_eq_ok hask
  obtain ⟨_, _, hstore, hsay⟩ := bind_eq_ok hrun₇
  obtain ⟨h₄, hstored, rfl⟩ := store_eq_ok hstore
  cases hsay
  exact ⟨_, _, h₃, content, db, Prod.ext rfl hsaved, Prod.ext rfl hmade, hopened, hdb, hstored⟩

/-- A set-up leaves a host that holds its settings. -/
theorem holds_of_runInit {dataDir defaultUser : Option String} {c c' : Console}
    (hrun : runInit dataDir defaultUser c = .ok () c') :
    c'.host.Holds (newSettings c.host dataDir defaultUser) := by
  obtain ⟨h₁, h₂, h₃, content, db, hsave, hmake, hopen, -, hstore⟩ := runInit_eq_ok hrun
  have hheld := (Host.holds_of_saveSettings hsave).2
  have hmade : h₁.Grows h₂ := by
    have hgrows := Host.grows_makeDirectories h₁ (newSettings c.host dataDir defaultUser).dataDir
    rwa [hmake] at hgrows
  have hopened := (Host.openDatabase_eq_ok hopen).1
  have hstored := Host.grows_storeDatabase hopen hstore
  exact (hmade.trans (hopened.trans hstored)).holds hheld

/-- **Settings survive being saved.** Settings of any texts and numbers are loaded as they were
saved, and whether they can be saved does not depend on what they are. So after a set-up that
succeeds, from whatever settings file there was, those settings are loaded that were loaded before,
with the expanded data directory and the default user in their place if they were given. -/
theorem settings_survive :
    (∀ (s : Settings) (defaultDir : String), Settings.load defaultDir (some s.fileText) = s) ∧
      (∀ (h : Host) (s s' : Settings), (h.saveSettings s).2 = (h.saveSettings s').2) ∧
      (∀ (h h' : Host) (s : Settings), h.saveSettings s = (h', true) → h'.loadSettings = s) ∧
      ∀ (dataDir defaultUser : Option String) (now : Int64) (c c' : Console),
        run now (.init dataDir defaultUser) c = .ok () c' →
        c'.host.loadSettings = { c.host.loadSettings with
          dataDir := (dataDir.map c.host.expand).getD c.host.loadSettings.dataDir
          defaultUser := defaultUser.getD c.host.loadSettings.defaultUser } :=
  ⟨Settings.load_fileText, Host.saveSettings_snd,
    fun _ _ _ hsave => (Host.holds_of_saveSettings hsave).2.loadSettings,
    fun _ _ _ _ _ hrun => (holds_of_runInit hrun).loadSettings⟩

/-- A default user whose name has quotes, a backslash, a line end, a control character, and
characters outside the basic plane. -/
def hostileUser : String := "a\"b\\c\nd\x01é😀"

/-- A console on a host whose home directory holds settings that cannot be read. -/
def brokenConsole : Console where
  host := {
    home := "/h"
    files := ⟨[(["h", ".config", "plugreport", "settings.json"], .text "\x7b"),
      (["h", ".config", "plugreport"], .directory), (["h", ".config"], .directory),
      (["h"], .directory)]⟩ }
  printed := ""

/-- Setting up with a hostile user, in a directory below the home directory, leaves settings that
name both, although the settings file that was there could not be read. -/
theorem settings_survive_hostileUser :
    (brokenConsole.host.saveSettings (Settings.defaults hostileUser)).2 = true ∧
      (brokenConsole.host.saveSettings (Settings.defaults hostileUser)).1.loadSettings =
        Settings.defaults hostileUser ∧
      ∃ c', run 0 (.init (some "~/d") (some hostileUser)) brokenConsole = .ok () c' ∧
        c'.host.loadSettings =
          { Settings.defaults "/h/d" with defaultUser := hostileUser } := by
  have hsaved : (brokenConsole.host.saveSettings (Settings.defaults hostileUser)).2 = true := by
    decide +kernel
  obtain ⟨-, -, hload, hinit⟩ := settings_survive
  have hsave : brokenConsole.host.saveSettings (Settings.defaults hostileUser) =
      ((brokenConsole.host.saveSettings (Settings.defaults hostileUser)).1, true) :=
    Prod.ext rfl hsaved
  refine ⟨hsaved, hload _ _ _ hsave, ?_⟩
  obtain ⟨c', hrun⟩ := exists_eq_ok (x := run 0 (.init (some "~/d") (some hostileUser)))
    (c := brokenConsole) (a := ()) (by decide +kernel)
  refine ⟨c', hrun, ?_⟩
  rw [hinit _ _ _ _ _ hrun]
  decide +kernel

end Command

end PagedReports
