import PagedReports.Proofs.Command.SetUp
import PagedReports.Proofs.Database.Loading
import PagedReports.Proofs.Host.Serving

/-!
# Sample data on a site

On a site with a reachable database, the command that loads the sample set finds it there, or adds
all of it, or fails and leaves every table as it was (`demo_all_or_nothing`). What it writes before
it knows which of these it is, is the database that it has read.
-/

namespace PagedReports

/-- The database of the site of a console. -/
def Console.Serves (c : Console) (db : Database) : Prop :=
  c.host.Serves c.host.loadSettings.databasePath db

/-! ### Steps of a command -/

namespace Run

variable {c : Console} {settings : Settings} {db : Database}

theorem openExisting_of_serves (h : c.host.Serves settings.databasePath db) :
    openExisting settings c = .ok (some db) c := by
  unfold openExisting
  rw [bind_of_ok (host_eq c), if_pos h.present, openAt, bind_of_ok (host_eq c), h.openDatabase]
  rfl

theorem store_of_serves (h : c.host.Serves settings.databasePath db) (db' : Database) :
    ∃ c', store settings db' c = .ok () c' ∧ c'.host.Serves settings.databasePath db' ∧
      c.host.Alike c'.host ∧ c'.printed = c.printed := by
  obtain ⟨h', hstore, hserves, halike⟩ := h.store db'
  refine ⟨⟨h', c.printed⟩, ?_, hserves, halike, rfl⟩
  unfold store
  rw [bind_of_ok (host_eq c), hstore]
  rfl

end Run

namespace Command

open Run

/-- What the command does is what loading the sample set comes to. -/
theorem runDemo_of_serves {db : Database} (hdb : db.Reached) {c : Console} (hc : c.Serves db)
    (now : Int64) :
    Settles (db.loadSample now)
      (fun db' => ∃ c', runDemo now c = .ok () c' ∧ c'.Serves db' ∧
        c'.printed = c.printed ++ (if db.hasSample then samplePresent else sampleReport) ++ "\n")
      fun e => ∃ c', runDemo now c = .error (.database e) c' ∧ c'.Serves db ∧
        c'.printed = c.printed := by
  have hinit : ask (initialised (some db)) c = .ok db c := by
    rw [initialised, Option.getD_some, hdb.initialise]
    rfl
  obtain ⟨c₁, hstore, hserves, halike, hprinted⟩ := store_of_serves hc db
  unfold runDemo
  simp only [bind_of_ok (host_eq c), bind_of_ok (openExisting_of_serves hc), bind_of_ok hinit,
    bind_of_ok hstore]
  cases hload : db.loadSample now with
  | error e =>
    refine ⟨c₁, bind_of_error (ask_error e c₁), ?_, hprinted⟩
    rw [Console.Serves, halike.loadSettings]
    exact hserves
  | ok db' =>
    obtain ⟨c₂, hstore', hserves', halike', hprinted'⟩ := store_of_serves hserves db'
    rw [bind_of_ok (ask_ok db' c₁), bind_of_ok hstore']
    refine ⟨_, rfl, ?_, ?_⟩
    · show Host.Serves c₂.host c₂.host.loadSettings.databasePath db'
      rw [halike'.loadSettings, halike.loadSettings]
      exact hserves'
    · rw [← hprinted, ← hprinted']

/-- Where the sample set is, loading it again succeeds and changes nothing, however often. -/
theorem forM_demo_of_serves {db : Database} (hdb : db.Reached) (hsample : db.HasSample)
    (times : List Int64) {c : Console} (hc : c.Serves db) :
    ∃ c', (times.forM fun t => run t .demo) c = .ok () c' ∧ c'.Serves db := by
  induction times generalizing c with
  | nil => exact ⟨c, rfl, hc⟩
  | cons t times ih =>
    have hrun := runDemo_of_serves hdb hc t
    rw [hsample.loadSample] at hrun
    obtain ⟨c₁, hfirst, hserves, -⟩ := hrun
    obtain ⟨c₂, hrest, hserves'⟩ := ih hserves
    exact ⟨c₂, (bind_of_ok hfirst).trans hrest, hserves'⟩

/-- **The sample set is loaded as a whole or not at all.** On a site with a reachable database, the
command succeeds, because the first sample plugin is there and then it changes no row, or because
it adds the complete set to the rows that were there; after that it succeeds however often it is
run and changes nothing. Or it fails, because a sample user name or component name is taken, or
numbers for rows have run out, and every table is as it was. -/
theorem demo_all_or_nothing {db : Database} (hdb : db.Reached) {c : Console} (hc : c.Serves db)
    {now : Int64} (hnow : 0 ≤ now.toInt) (hlater : now.toInt ≤ 0x4000000000000000) :
    (∃ db' c', run now .demo c = .ok () c' ∧ c'.Serves db' ∧
      ((db.HasSample ∧ db' = db ∧ c'.printed = c.printed ++ samplePresent ++ "\n") ∨
        (¬db.HasSample ∧ c'.printed = c.printed ++ sampleReport ++ "\n" ∧
          ∃ added, db.Gains added db' ∧ Sample.Rows db.categories now.toInt added)) ∧
      ∀ times : List Int64, ∃ c'', (times.forM fun t => run t .demo) c' = .ok () c'' ∧
        c''.Serves db') ∨
    (¬db.HasSample ∧ ∃ e c', run now .demo c = .error (.database e) c' ∧ c'.Serves db ∧
      c'.printed = c.printed ∧ Sample.Refused db e) := by
  have hrun := runDemo_of_serves hdb hc now
  by_cases hsample : db.HasSample
  · rw [hsample.loadSample, Database.hasSample_eq_true_iff.2 hsample] at hrun
    obtain ⟨c', hdemo, hserves, hprinted⟩ := hrun
    exact .inl ⟨db, c', hdemo, hserves, .inl ⟨hsample, rfl, hprinted⟩, fun times =>
      forM_demo_of_serves hdb hsample times hserves⟩
  · have habsent : db.hasSample = false := by
      rw [← Bool.not_eq_true, Database.hasSample_eq_true_iff]
      exact hsample
    have hset := hdb.settles_addSample hnow hlater
    rw [Database.loadSample, habsent, if_neg Bool.false_ne_true] at hrun
    cases hadd : db.addSample now with
    | ok db' =>
      rw [hadd] at hrun hset
      obtain ⟨c', hdemo, hserves, hprinted⟩ := hrun
      obtain ⟨added, hgains, hrows⟩ := hset
      exact .inl ⟨db', c', hdemo, hserves, .inr ⟨hsample, hprinted, added, hgains, hrows⟩,
        fun times => forM_demo_of_serves (hgains.grows.reached hdb) (hrows.hasSample hgains) times
          hserves⟩
    | error e =>
      rw [hadd] at hrun hset
      obtain ⟨c', hdemo, hserves, hprinted⟩ := hrun
      exact .inr ⟨hsample, e, c', hdemo, hserves, hprinted, hset⟩

/-- A directory with a user and a plugin that the sample set does not have. -/
def workshop : Database :=
  .founded
    [(.users, [("username", .text "ada")]),
      (.plugins, [("frankenstyle", .text "mod_a"), ("name", .text "A")])]

theorem reached_workshop : workshop.Reached := Database.reached_founded rfl

/-- A console on a host without settings, whose database is that of the workshop. -/
def workshopConsole : Console where
  host := {
    home := "/h"
    files := ⟨[(["h", ".local", "share", "plugreport", "plugreport.db"], .database (some workshop)),
      (["h", ".local", "share", "plugreport"], .directory), (["h", ".local", "share"], .directory),
      (["h", ".local"], .directory), (["h"], .directory)]⟩ }
  printed := ""

theorem serves_workshopConsole : workshopConsole.Serves workshop where
  present := by decide +kernel
  located := by
    refine ⟨"/h/.local/share/plugreport/plugreport.db", .create,
      ["h", ".local", "share", "plugreport", "plugreport.db"], ?_, ?_, ?_, ?_, ?_⟩ <;>
      decide +kernel

/-- In the workshop the sample set is loaded as a whole. -/
theorem demo_all_or_nothing_workshop :
    ∃ db' c', run 1700000000 .demo workshopConsole = .ok () c' ∧ c'.Serves db' ∧
      (∃ added, workshop.Gains added db' ∧
        Sample.Rows workshop.categories (1700000000 : Int64).toInt added) ∧
      ∀ times : List Int64, ∃ c'', (times.forM fun t => run t .demo) c' = .ok () c'' ∧
        c''.Serves db' := by
  have habsent : ¬workshop.HasSample := by
    unfold Database.HasSample
    decide +kernel
  have husers : ∀ u ∈ Sample.users, ∀ r ∈ workshop.users,
      r.value "username" ≠ .text u.username := by decide +kernel
  have hplugins : ∀ p ∈ Sample.plugins, ∀ r ∈ workshop.plugins,
      r.value "frankenstyle" ≠ .text p.component := by decide +kernel
  have hsmall : ∀ t ∈ TableName.all, (workshop.rows t).length ≤ 8 := by decide +kernel
  obtain ⟨db', c', hdemo, hserves, hhow, hagain⟩ | ⟨-, e, c', -, -, -, hrefused⟩ :=
    demo_all_or_nothing reached_workshop serves_workshopConsole
      (show 0 ≤ (1700000000 : Int64).toInt by decide) (by decide)
  · obtain ⟨hsample, -⟩ | ⟨-, -, hadded⟩ := hhow
    · exact absurd hsample habsent
    · exact ⟨db', c', hdemo, hserves, hadded, hagain⟩
  · cases hrefused with
    | username hu hr hvalue => exact absurd hvalue (husers _ hu _ hr)
    | component hp hr hvalue => exact absurd hvalue (hplugins _ hp _ hr)
    | @full t _ hfull =>
      have hlength := hsmall t t.mem_all
      omega

end Command

end PagedReports
