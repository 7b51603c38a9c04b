import PagedReports.Proofs.Ads.Sync
import PagedReports.Proofs.Command.Demo

/-!
# Partner ads on a site

On a site with a reachable database, the command that replaces partner ads does what an attempt
with its source does to the tables (`runSync_of_serves`): it writes them back and says what was
replaced, or it fails as the attempt does and leaves the host as it was. It changes no text file, so
a later command finds the feeds of an earlier one, and however often and with whatever success the
command is run, the site has the tables that these attempts leave one after another
(`forM_sync_of_serves`).
-/

namespace PagedReports

/-! ### Sources on hosts that differ in their databases only -/

namespace Host.Alike

variable {h h' : Host} (ha : h.Alike h')

include ha

theorem ofLocation (location : String) (timeout : UInt64) :
    AdSource.ofLocation h' location timeout = AdSource.ofLocation h location timeout := by
  simp only [AdSource.ofLocation, ha.expand]

theorem fetch (source : AdSource) : source.fetch h' = source.fetch h := by
  cases source with
  | web url timeout => rfl
  | file path => rw [AdSource.fetch, AdSource.fetch, ha.readText?]

end Host.Alike

/-! ### Going on after a failure -/

namespace Run

variable {α : Type} {x : Run α} {handle : ReportError → Run α} {c c' : Console}

theorem tryCatch_of_ok {a : α} (h : x c = .ok a c') : tryCatch x handle c = .ok a c' := by
  simp only [tryCatch, tryCatchThe, MonadExceptOf.tryCatch, EStateM.tryCatch, h]

/-- What was done before a failure stays. -/
theorem tryCatch_of_error {e : ReportError} (h : x c = .error e c') :
    tryCatch x handle c = handle e c' := by
  simp only [tryCatch, tryCatchThe, MonadExceptOf.tryCatch, EStateM.tryCatch, h]
  rfl

end Run

namespace Command

open Run

/-! ### The attempt of a command -/

/-- The source that the command takes: the one it is told, or the one of the settings. -/
def syncSource (h : Host) (location : Option String) : Except ReportError AdSource :=
  AdSource.ofLocation h (location.getD h.loadSettings.adsSource) h.loadSettings.httpTimeout

/-- The attempt that the command makes on a host. -/
def syncAttempt (h : Host) (location : Option String) (now : Int64) : SyncAttempt where
  feed :=
    match syncSource h location with
    | .ok source => .fetched h source
    | .error e => .failing e
  now := now

variable {db : Database} {c : Console} {location : Option String} {now : Int64}

theorem result_syncAttempt_of_error {e : ReportError} {h : Host}
    (hsource : syncSource h location = .error e) :
    (syncAttempt h location now).result db = .error e := by
  simp only [SyncAttempt.result, syncAttempt, hsource, AdFeed.ads, Database.syncAds]

theorem result_syncAttempt_of_ok {source : AdSource} {h : Host}
    (hsource : syncSource h location = .ok source) :
    (syncAttempt h location now).result db = db.syncAds (source.fetch h) now := by
  simp only [SyncAttempt.result, syncAttempt, hsource, AdFeed.ads]

/-- What is in the databases of a host does not matter to an attempt. -/
theorem result_syncAttempt_of_alike {h h' : Host} (ha : h.Alike h') :
    (syncAttempt h' location now).result db = (syncAttempt h location now).result db := by
  have hsame : syncSource h' location = syncSource h location := by
    unfold syncSource
    rw [ha.loadSettings, ha.ofLocation]
  cases hsource : syncSource h location with
  | error e =>
    rw [result_syncAttempt_of_error hsource, result_syncAttempt_of_error (hsame.trans hsource)]
  | ok source =>
    rw [result_syncAttempt_of_ok hsource, result_syncAttempt_of_ok (hsame.trans hsource), ha.fetch]

/-! ### One command -/

/-- **What the command does is what its attempt comes to.** It succeeds with the attempt; then the
site has the tables of the attempt, the host differs in nothing else, and the summary is printed.
It fails with the attempt; then nothing has changed and nothing is printed. -/
theorem runSync_of_serves (hc : c.Serves db) (location : Option String) (now : Int64) :
    Settles ((syncAttempt c.host location now).result db)
      (fun done => ∃ source c', syncSource c.host location = .ok source ∧
        runSync location now c = .ok () c' ∧ c'.Serves done.1 ∧ c.host.Alike c'.host ∧
        c'.printed = c.printed ++ syncReport source done.2 ++ "\n")
      fun e => runSync location now c = .error e c := by
  unfold runSync
  simp only [bind_of_ok (host_eq c), bind_of_ok (openExisting_of_serves hc)]
  cases hsource : syncSource c.host location with
  | error e =>
    rw [syncSource] at hsource
    rw [result_syncAttempt_of_error hsource, hsource]
    exact bind_of_error (need_error e c)
  | ok source =>
    rw [result_syncAttempt_of_ok hsource]
    rw [syncSource] at hsource
    rw [hsource, bind_of_ok (need_ok source c), bind_of_ok (host_eq c)]
    cases hfetch : source.fetch c.host with
    | error e => exact bind_of_error (need_error e c)
    | ok ads =>
      rw [bind_of_ok (need_ok ads c), tablesFor, bind_of_ok (ask_ok db c)]
      cases hsync : db.syncAds (.ok ads) now with
      | error e => exact bind_of_error (need_error e c)
      | ok done =>
        obtain ⟨c₁, hstore, hserves, halike, hprinted⟩ := store_of_serves hc done.1
        refine ⟨source, { c₁ with printed := c₁.printed ++ syncReport source done.2 ++ "\n" }, rfl,
          ?_, ?_, halike, ?_⟩
        · rw [bind_of_ok (need_ok done c), bind_of_ok hstore]
          rfl
        · show c₁.host.Serves c₁.host.loadSettings.databasePath done.1
          rw [halike.loadSettings]
          exact hserves
        · rw [hprinted]

/-! ### Commands one after another -/

/-- One command, whatever comes of it. -/
theorem try_sync_of_serves (hc : c.Serves db) (location : Option String) (now : Int64) :
    ∃ c', tryCatch (run now (.syncAds location)) (fun _ => pure ()) c = .ok () c' ∧
      c'.Serves ((syncAttempt c.host location now).after db) ∧ c.host.Alike c'.host := by
  have hrun := runSync_of_serves hc location now
  unfold SyncAttempt.after
  cases hresult : (syncAttempt c.host location now).result db with
  | error e =>
    rw [hresult] at hrun
    exact ⟨c, tryCatch_of_error hrun, hc, .refl c.host⟩
  | ok done =>
    rw [hresult] at hrun
    obtain ⟨_, c', -, hok, hserves, halike, -⟩ := hrun
    exact ⟨c', tryCatch_of_ok hok, hserves, halike⟩

/-- **Commands do what their attempts do one after another.** Whatever comes of each of them, the
site has in the end the tables that their attempts on the first host leave. -/
theorem forM_sync_of_serves {h : Host} (ha : h.Alike c.host) (hc : c.Serves db)
    (commands : List (Option String × Int64)) :
    ∃ c', (commands.forM fun a => tryCatch (run a.2 (.syncAds a.1)) fun _ => pure ()) c =
        .ok () c' ∧
      c'.Serves (db.afterSyncs (commands.map fun a => syncAttempt h a.1 a.2)) := by
  induction commands generalizing c db with
  | nil => exact ⟨c, rfl, hc⟩
  | cons a commands ih =>
    obtain ⟨c₁, hfirst, hserves, halike⟩ := try_sync_of_serves hc a.1 a.2
    have hafter : (syncAttempt c.host a.1 a.2).after db = (syncAttempt h a.1 a.2).after db := by
      rw [SyncAttempt.after, SyncAttempt.after, result_syncAttempt_of_alike ha]
    rw [hafter] at hserves
    obtain ⟨c₂, hrest, hserves'⟩ := ih (ha.trans halike) hserves
    exact ⟨c₂, (bind_of_ok hfirst).trans hrest, hserves'⟩

end Command

end PagedReports
