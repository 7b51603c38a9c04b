import PagedReports.Database.Store
import PagedReports.Proofs.Database.SignIn
import PagedReports.Proofs.Report.Access

/-!
# Verdicts on users

Whether a user may view one of the directory's reports is written in the user's own rows: a rank
in the row of `users`, or a row of `user_capabilities` with the report's capability. Nothing else
in the database matters to the verdict, and further grants only add to what the user may view
(`verdicts_of_database`).
-/

namespace PagedReports

open Sql

/-! ### Refusals -/

/-- A request of an actor is refused because the actor lacks a capability. -/
def Database.Denies (db : Database) (actor : Actor) (settings : Settings) (now : Int64)
    (request : Request) (s : Session Unit) : Prop :=
  ∃ report s', dispatch .builtin actor settings now db.store request s =
    .error (.permissionDenied report) s'

theorem Formatter.date_eq_error {f : Formatter} {seconds : Int64} {e : ReportError}
    (h : f.date seconds = .error e) : e = .badDatePattern := by
  unfold Formatter.date at h
  split at h
  · cases h
  · cases h
    rfl

/-- What the directory's reports show of a record fails for nothing but the pattern of dates. -/
theorem Catalogue.transform_eq_error {d : Definition} (hd : d ∈ all) {record : Record}
    {f : Formatter} {e : ReportError} (h : d.transform record f = .error e) :
    e = .badDatePattern := by
  have dates : ∀ {seconds : Int64} {cells : Cell → Cells},
      (f.date seconds >>= fun cell => Except.ok (cells cell)) = .error e → e = .badDatePattern := by
    intro seconds cells h
    cases hdate : f.date seconds with
    | error e' => rw [hdate] at h; cases h; exact Formatter.date_eq_error hdate
    | ok cell => rw [hdate] at h; cases h
  simp only [all, List.mem_cons, List.not_mem_nil, or_false] at hd
  rcases hd with rfl | rfl | rfl | rfl | rfl | rfl
  · exact dates h
  · exact dates h
  · exact dates h
  · exact dates h
  · cases h
  · exact dates h

/-- A database refuses nothing for lack of a capability. -/
theorem Database.not_refused_permissionDenied {db : Database} {report : String}
    {s : Session Unit} : ¬db.store.Refused (.permissionDenied report) s := by
  rintro (⟨-, hcount⟩ | ⟨-, hselect⟩)
  · cases congrArg Prod.fst hcount
  · have hpage := congrArg Prod.fst hselect
    simp only [store, selectPage] at hpage
    split at hpage
    · cases hpage
    · split at hpage <;> cases hpage

/-- A request is refused exactly if it names a report whose capability the actor does not hold.
The database has no say in it. -/
theorem Database.denies_iff {db : Database} {actor : Actor} {settings : Settings} {now : Int64}
    {request : Request} {s : Session Unit} : db.Denies actor settings now request s ↔
      ∃ d ∈ Catalogue.all, request.reportName? = some d.name ∧ d.canView actor = false := by
  constructor
  · rintro ⟨report, s', hdenied⟩
    cases hrequested : Registry.builtin.requested? request with
    | none =>
      rw [dispatch_of_requested?_eq_none hrequested] at hdenied
      cases hdenied
    | some d =>
      obtain ⟨hd, hname⟩ := Registry.wellNamed_builtin.requested?_eq_some_iff.1 hrequested
      cases hview : d.canView actor with
      | false => exact ⟨d, hd, hname, hview⟩
      | true =>
        let r : Report Unit := ⟨d, d.filter.resolve actor now, .ofSettings settings, db.store⟩
        have hopen : Report.openFor d actor settings now db.store = .ok r := if_pos hview
        have hfails : Ensures (dispatch .builtin actor settings now db.store request) s
            (fun _ _ => True) r.FailsWith :=
          ensures_dispatch hrequested hopen
            ((r.ensures_page_shape _ s).imp (fun _ _ _ => trivial) fun _ _ he => he)
        have hfailed := hfails.outcome
        rw [hdenied] at hfailed
        rcases hfailed with hrefused | ⟨record, htransform⟩
        · exact absurd hrefused not_refused_permissionDenied
        · cases Catalogue.transform_eq_error hd htransform
  · rintro ⟨d, hd, hname, hview⟩
    have hrequested := Registry.wellNamed_builtin.requested?_eq_some_iff.2 ⟨hd, hname⟩
    exact ⟨d.name, s, dispatch_of_not_canView hrequested hview db.store s⟩

/-! ### Lists of reports -/

/-- Whoever holds more is offered more, in the same order. -/
theorem Registry.sublist_viewable (registry : Registry) {actor actor' : Actor}
    (h : ∀ capability, actor.holds capability = true → actor'.holds capability = true) :
    (registry.viewable actor).Sublist (registry.viewable actor') := by
  have hcanView : ∀ d : Definition, d.canView actor = true → d.canView actor' = true :=
    fun d => h d.capability
  have hdescriptor : ∀ d ∈ registry.entries.filter (·.canView actor),
      d.descriptor actor = d.descriptor actor' := by
    intro d hd
    have hview := (List.mem_filter.1 hd).2
    rw [Definition.descriptor, Definition.descriptor, hview, hcanView d hview]
  calc registry.viewable actor
    _ = (registry.entries.filter (·.canView actor)).map (·.descriptor actor) :=
        registry.viewable_eq actor
    _ = (registry.entries.filter (·.canView actor)).map (·.descriptor actor') :=
        List.map_congr_left hdescriptor
    List.Sublist _ ((registry.entries.filter (·.canView actor')).map (·.descriptor actor')) :=
        (List.monotone_filter_right _ hcanView).map _
    _ = registry.viewable actor' := (registry.viewable_eq actor').symm

/-! ### The verdicts -/

/-- How a database decides on a user of a rank. -/
structure Database.Verdicts (db : Database) (user : Row) (rank : Int64) : Prop where
  /-- The user can sign in exactly with names. -/
  signsIn : (∃ actor, db.SignsIn user actor) ↔ user.HasNames
  /-- A request for a report of the directory is refused unless the user has a rank, or is granted
  the capability of the report. -/
  verdict : ∀ actor, db.SignsIn user actor → ∀ d ∈ Catalogue.all, ∀ settings now request s,
    request.reportName? = some d.name →
      (¬db.Denies actor settings now request s ↔ rank ≠ 0 ∨ db.Grants user d.capability)
  /-- Any row of another table, and any that grants something to somebody else, leaves the user the
  same actor, whose requests are refused as before. -/
  frame : ∀ t fields id db', db.insert t fields = .ok (db', id) →
    (t = .userCapabilities → ∀ r ∈ db'.userCapabilities, r.id = id →
      r.value "userid" ≠ .integer user.id) →
    ∀ actor, (db'.SignsIn user actor ↔ db.SignsIn user actor) ∧ ∀ settings now request s,
      (db'.Denies actor settings now request s ↔ db.Denies actor settings now request s)
  /-- Whatever rows come later, as long as grants are texts, no report is lost from the list of a
  registry, and none is moved. -/
  grows : ∀ db', db.GrowsTo db' → db'.GrantsAreText → ∀ actor, db.SignsIn user actor →
    ∃ actor', db'.SignsIn user actor' ∧
      ∀ registry : Registry, (registry.viewable actor).Sublist (registry.viewable actor')

/-- **Who may view a report is decided by the user's own rows.** On every reachable database in
which grants are texts, a user whose rank is a number is refused a report exactly for lack of rank
and grant. Rows of anybody else do not change that, and later grants only add reports. -/
theorem verdicts_of_database {db : Database} (hdb : db.Reached) (htext : db.GrantsAreText)
    {user : Row} (huser : user ∈ db.users) {rank : Int64}
    (hrank : user.value "siteadmin" = .integer rank) : db.Verdicts user rank := by
  refine ⟨?_, fun actor hactor d hd settings now request s hname => ?_,
    fun t fields id db' hinsert hother actor => ⟨?_, fun settings now request s => ?_⟩,
    fun db' hgrows htext' actor hactor => ?_⟩
  · simp only [Database.signsIn_iff hdb.sound huser]
    exact Database.exists_actorOf_iff htext hrank
  · rw [Database.signsIn_iff hdb.sound huser] at hactor
    rw [← Database.holds_of_actorOf hactor hrank, Database.denies_iff]
    constructor
    · intro hnot
      by_contra hview
      exact hnot ⟨d, hd, hname, Bool.not_eq_true _ ▸ hview⟩
    · rintro hview ⟨e, he, hname', hnot⟩
      have heq : e.name = d.name := Option.some.inj (hname'.symm.trans hname)
      obtain rfl := List.inj_on_of_nodup_map Registry.wellNamed_builtin.nodup he hd heq
      exact absurd hview (Bool.eq_false_iff.1 hnot)
  · have hreached : db'.Reached := .insert hdb hinsert
    have huser' : user ∈ db'.users := (Database.sublist_of_insert hinsert .users).subset huser
    rw [Database.signsIn_iff hreached.sound huser', Database.signsIn_iff hdb.sound huser]
    exact Database.actorOf_congr (Database.grantsOf_of_insert hinsert hother)
  · rw [Database.denies_iff, Database.denies_iff]
  · have hreached : db'.Reached := hgrows.reached hdb
    have huser' : user ∈ db'.users := (hgrows.sublist .users).subset huser
    have hnames := (Database.exists_actorOf_iff htext hrank).1
      ⟨actor, (Database.signsIn_iff hdb.sound huser).1 hactor⟩
    obtain ⟨actor', hactor'⟩ := (Database.exists_actorOf_iff htext' hrank).2 hnames
    rw [Database.signsIn_iff hdb.sound huser] at hactor
    exact ⟨actor', (Database.signsIn_iff hreached.sound huser').2 hactor', fun registry =>
      registry.sublist_viewable fun _ => hgrows.holds hactor hactor'⟩

/-- A directory with an administrator and a guest, in which only the guest is granted something. -/
def office : Database := .founded
  [(.users, [("username", .text "ada"), ("siteadmin", .integer 2)]),
    (.users, [("username", .text "bo")]),
    (.userCapabilities, [("userid", .integer 2), ("capability", .text approvePlugin)])]

/-- The guest of the office. -/
def guest : Row :=
  ⟨2, [("username", .text "bo"), ("firstname", .text ""), ("lastname", .text ""),
    ("siteadmin", .integer 0)]⟩

/-- The guest of the office is decided on by the one grant. -/
theorem verdicts_of_office :
    office.Reached ∧ office.GrantsAreText ∧ guest ∈ office.users ∧
      guest.value "siteadmin" = .integer 0 ∧ office.Verdicts guest 0 := by
  have hreached : office.Reached := Database.reached_founded rfl
  have htext : office.GrantsAreText := by
    have hall : office.userCapabilities.all fun g =>
        g.value "capability" = .text approvePlugin := by decide +kernel
    intro g hg
    exact ⟨approvePlugin, of_decide_eq_true (List.all_eq_true.1 hall g hg)⟩
  have huser : guest ∈ office.users := by decide +kernel
  have hrank : guest.value "siteadmin" = .integer 0 := rfl
  exact ⟨hreached, htext, huser, hrank, verdicts_of_database hreached htext huser hrank⟩

end PagedReports
