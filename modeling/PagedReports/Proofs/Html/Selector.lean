import PagedReports.Proofs.Html.Following

/-!
# The list of reports

The written list of reports has one link for each report that the actor may view
(`allLinks_renderSelector`). The query of such a link is put together without encoding anything,
which is safe because the name of a registered report has plain characters only
(`render_reportName`). Following a link of the list shows the report that it names, as long as the
store answers what that report asks (`Report.Served`), and no report that can be shown is left out
or listed twice (`offersExactly_registerAll`).
-/

namespace PagedReports

open Text Sql

/-! ### The links of the list -/

namespace Html

/-- The link to a report in the list. -/
def selectorLink (d : Descriptor) : Link := queryLink ("report=" ++ d.name) (escape d.title)

/-- The names in the list of reports. -/
def selectorNames : List String :=
  ["ul", "class", "li", "a", "href", "span", "br", "small", "p"]

theorem usesOnly_selectorEntry (d : Descriptor) :
    allUseOnly selectorNames (selectorEntry d) = true := by
  unfold selectorEntry
  cases d.quickAccess <;> rfl

theorem usesOnly_selectorNodes (reports : List Descriptor) :
    allUseOnly selectorNames (selectorNodes reports) = true := by
  unfold selectorNodes
  split
  · rfl
  · have hentries : allUseOnly selectorNames (reports.flatMap selectorEntry) = true := by
      refine allUseOnly_iff.2 fun n hn => ?_
      obtain ⟨d, -, hn⟩ := List.mem_flatMap.1 hn
      exact allUseOnly_iff.1 (usesOnly_selectorEntry d) n hn
    have hlist : allUseOnly selectorNames (newline :: reports.flatMap selectorEntry) = true :=
      allUseOnly_cons.2 ⟨rfl, hentries⟩
    exact allUseOnly_cons.2 ⟨Node.usesOnly_element.2 ⟨by decide, by decide, hlist⟩, rfl⟩

theorem hasLinks_selectorEntry (d : Descriptor) : HasLinks (selectorEntry d) [selectorLink d] := by
  have hnewline : HasLinks [newline] [] := HasLinks.of_not_mem [] (by decide) rfl
  have htitle : writeAll [.text d.title] = escape d.title := by simp [writeAll, Node.write]
  have hlink := HasLinks.link [.text d.title] rfl ("report=" ++ d.name)
  rw [htitle] at hlink
  have hrest : HasLinks ((if d.quickAccess then
      [.text " ", .element "span" [("class", "quick")] [.entity "#9733"]] else []) ++
        [.bare "br" [], el "small" [.text d.description]]) [] := by
    refine HasLinks.of_not_mem ["span", "class", "br", "small"] (by decide) ?_
    cases d.quickAccess <;> rfl
  exact (HasLinks.element "li" [] (by simp) (hlink.cons hrest)).cons hnewline

/-- The links of the written list are those to its reports, in their order. -/
theorem allLinks_renderSelector (reports : List Descriptor) :
    allLinks (renderSelector reports) = reports.map selectorLink := by
  have hlinks : HasLinks (selectorNodes reports) (reports.map selectorLink) := by
    have hnewline : HasLinks [newline] [] := HasLinks.of_not_mem [] (by decide) rfl
    unfold selectorNodes
    split
    · rename_i hempty
      rw [List.isEmpty_iff.1 hempty]
      exact HasLinks.of_not_mem ["p"] (by decide) rfl
    · have hentries := HasLinks.flatMap fun d (_ : d ∈ reports) => hasLinks_selectorEntry d
      have hlist := HasLinks.element "ul" [("class", "reports")] (by simp) (hnewline.cons hentries)
      rw [List.map_eq_flatMap, ← List.append_nil (reports.flatMap fun d => [selectorLink d])]
      exact hlist.cons hnewline
  have hread : read (renderSelector reports) = piecesAll (selectorNodes reports) :=
    read_writeAll (by decide) (usesOnly_selectorNodes reports)
  rw [allLinks, hread, ← List.append_nil (piecesAll _), hlinks]
  exact List.append_nil _

end Html

/-! ### Names in queries -/

theorem isPlain_of_isReportName {name : String} (h : isReportName name = true) :
    ∀ c ∈ name.toList, c.toNat < 128 ∧ Form.isPlain (UInt8.ofNat c.toNat) = true := by
  intro c hc
  have hrange := toNat_of_isReportName h c hc
  have hascii : c.toNat < 128 := by omega
  have hvalue : (UInt8.ofNat c.toNat).toNat = c.toNat :=
    UInt8.toNat_ofNat_of_lt' (Nat.lt_trans hascii (by decide))
  simp only [Form.isPlain, hvalue, Bool.or_eq_true, Bool.and_eq_true, decide_eq_true_eq,
    beq_iff_eq]
  omega

/-- The name of a report stands in a query as it is. -/
theorem render_reportName {name : String} (h : isReportName name = true) :
    Form.render [("report", name)] = "report=" ++ name := by
  have hkey : Form.encodeChars "report" = "report".toList := by decide
  rw [← String.toList_inj, Form.render, String.toList_ofList, List.map_singleton,
    List.intercalate_singleton, Form.pairChars, hkey,
    Form.encodeChars_eq_self (isPlain_of_isReportName h), String.toList_append]
  rfl

/-- A link of the list asks for its report, and for nothing else. -/
theorem request?_selectorLink {d : Descriptor} (h : isReportName d.name = true) :
    (Html.selectorLink d).request? = some { Request.empty with report := some d.name } := by
  rw [Html.selectorLink, request?_queryLink, ← render_reportName h, Request.ofQuery_render]
  simp [Request.withPair, nonBlank?_of_isReportName h]

/-! ### Stores that answer -/

variable {σ : Type}

namespace Report

variable {r : Report σ}

/-- The store answers whatever a report asks: the number of its rows, and the rows of any page in
any of its orders. -/
structure Served (r : Report σ) : Prop where
  /-- It counts the rows. -/
  count : ∀ state, ∃ n state',
    r.store.count r.selection r.filter.params state = (.ok n, state')
  /-- It gives rows from any offset that fits a signed word. -/
  select : ∀ (p : Paging) (offset limit : UInt64) (state : σ),
    offset.toNat < 0x8000000000000000 → ∃ records state',
      r.store.select (r.listing p) r.filter.params offset limit state = (.ok records, state')

theorem Served.ensures_rowCount (h : r.Served) (s : Session σ) :
    Ensures r.rowCount s (fun _ _ => True) fun _ _ => False := by
  refine Report.ensures_rowCount (fun _ _ => trivial) fun _ =>
    ensures_askCount (fun _ _ _ => trivial) fun e state he => ?_
  obtain ⟨n, state', hn⟩ := h.count s.store
  rw [hn] at he
  cases he

theorem Served.ensures_fetchPage (h : r.Served) (hd : r.definition.Presents)
    (hf : r.formatter.WritesDates) (asked : Paging) (s : Session σ) :
    Ensures (r.fetchPage asked) s (fun _ _ => True) fun _ _ => False := by
  refine Report.ensures_fetchPage (fun _ => trivial) fun offset hoffset =>
    ensures_askSelect (fun records state _ => ⟨fun _ _ => trivial, fun e he => ?_⟩)
      fun e state he => ?_
  · rw [present_eq_map hd hf] at he
    cases he
  · obtain ⟨-, hlt⟩ := Paging.offset?_eq_some_iff.1 hoffset
    obtain ⟨records, state', hrecords⟩ :=
      h.select (r.sanitize asked) offset (r.sanitize asked).perPage s.store hlt
    rw [hrecords] at he
    cases he

/-- A report whose questions are answered can show every page. -/
theorem Served.ensures_page (h : r.Served) (hd : r.definition.Presents)
    (hf : r.formatter.WritesDates) (asked : Paging) (s : Session σ) :
    Ensures (r.page asked) s (fun _ _ => True) fun _ _ => False := by
  refine Report.ensures_page ((h.ensures_fetchPage hd hf _ s).imp (fun rows s₁ _ => ?_)
    fun _ _ he => he)
  simp only
  split
  · refine (h.ensures_rowCount s₁).imp (fun n s₂ _ => ?_) fun _ _ he => he
    split
    · exact (h.ensures_fetchPage hd hf _ s₂).imp (fun _ s₃ _ => h.ensures_rowCount s₃)
        fun _ _ he => he
    · exact h.ensures_rowCount s₂
  · exact h.ensures_rowCount s₁

end Report

/-- A request for a report that the actor may view is answered with a page of it, if the store
answers what the report asks. -/
theorem exists_view_of_served {registry : Registry} {actor : Actor} {settings : Settings}
    {now : Int64} {store : Store σ} {request : Request} {d : Definition}
    (hrequested : registry.requested? request = some d) (hview : d.canView actor = true)
    (hd : d.Presents) (hdates : (Formatter.ofSettings settings).WritesDates)
    (hstore : ∀ r, Report.openFor d actor settings now store = .ok r → r.Served)
    (s : Session σ) :
    ∃ v s', dispatch registry actor settings now store request s = .ok (.view v) s' ∧
      v.Answers d actor := by
  have hopen : Report.openFor d actor settings now store =
      .ok ⟨d, d.filter.resolve actor now, Formatter.ofSettings settings, store⟩ := if_pos hview
  have hanswers : Ensures (dispatch registry actor settings now store request) s
      (fun answer _ => ∃ v : View, answer = .view v ∧ v.Answers d actor) store.Refused :=
    dispatch_of_canView hrequested hview hd hdates store s
  have hsucceeds : Ensures (dispatch registry actor settings now store request) s
      (fun _ _ => True) fun _ _ => False :=
    ensures_dispatch hrequested hopen ((hstore _ hopen).ensures_page hd hdates _ s)
  obtain ⟨answer, s', hdispatch, ⟨v, rfl, hv⟩, -⟩ :=
    (hanswers.and hsucceeds).exists_eq_ok fun _ _ he => he.2
  exact ⟨v, s', hdispatch, hv⟩

/-! ### What the list offers -/

/-- The report that a link asks for. -/
def Html.Link.reportName? (l : Html.Link) : Option String := l.request?.bind Request.reportName?

/-- The written list of reports offers an actor exactly what the actor can open. -/
structure Registry.OffersExactly (registry : Registry) (actor : Actor) (settings : Settings)
    (now : Int64) (store : Store σ) : Prop where
  /-- Each link has the title of a report and, when it is followed, shows a page of that report,
  whatever was asked before. -/
  opens : ∀ link ∈ Html.allLinks (Html.renderSelector (registry.viewable actor)),
    ∃ d ∈ registry.entries, ∃ request, link.label = Html.escape d.title ∧
      link.request? = some request ∧ request.reportName? = some d.name ∧
      ∀ s, ∃ v s', dispatch registry actor settings now store request s = .ok (.view v) s' ∧
        v.Answers d actor
  /-- Each report with a name to which some request is ever answered with a page is asked for by
  exactly one link. -/
  linked : ∀ d ∈ registry.entries, ∀ request s v s', request.reportName? = some d.name →
    dispatch registry actor settings now store request s = .ok (.view v) s' →
    ((Html.allLinks (Html.renderSelector (registry.viewable actor))).map
      Html.Link.reportName?).count (some d.name) = 1

/-- Each link asks for the report that it is made for. -/
theorem map_reportName?_allLinks {registry : Registry} (hregistry : registry.WellNamed)
    (actor : Actor) :
    (Html.allLinks (Html.renderSelector (registry.viewable actor))).map Html.Link.reportName? =
      ((registry.entries.filter (·.canView actor)).map Definition.name).map some := by
  rw [Html.allLinks_renderSelector, Registry.viewable_eq, List.map_map, List.map_map, List.map_map]
  refine List.map_congr_left fun d hd => ?_
  have hname := hregistry.named d (List.mem_of_mem_filter hd)
  have hrequest := request?_selectorLink (d := d.descriptor actor) hname
  simp only [Function.comp_apply, Html.Link.reportName?, hrequest, Option.bind_some,
    Request.reportName?]
  exact nonBlank?_of_isReportName hname

theorem Registry.WellNamed.offersExactly {registry : Registry} (hregistry : registry.WellNamed)
    (hpresents : ∀ d ∈ registry.entries, d.Presents) {actor : Actor} {settings : Settings}
    (hdates : (Formatter.ofSettings settings).WritesDates) {now : Int64} {store : Store σ}
    (hstore : ∀ d ∈ registry.entries, ∀ r,
      Report.openFor d actor settings now store = .ok r → r.Served) :
    registry.OffersExactly actor settings now store := by
  constructor
  · intro link hlink
    rw [Html.allLinks_renderSelector, Registry.viewable_eq, List.map_map] at hlink
    obtain ⟨d, hd, rfl⟩ := List.mem_map.1 hlink
    obtain ⟨hentry, hview⟩ := List.mem_filter.1 hd
    have hname := hregistry.named d hentry
    have hasked : ({ Request.empty with report := some d.name } : Request).reportName? =
        some d.name := nonBlank?_of_isReportName hname
    exact ⟨d, hentry, _, rfl, request?_selectorLink hname, hasked, exists_view_of_served
      (hregistry.requested?_eq_some_iff.2 ⟨hentry, hasked⟩) hview (hpresents d hentry) hdates
      (hstore d hentry)⟩
  · intro d hd request s v s' hname hdispatch
    obtain ⟨d', r, hrequested, hopen, -⟩ := dispatch_eq_view hdispatch
    rw [hregistry.requested?_eq_some_iff.2 ⟨hd, hname⟩] at hrequested
    cases hrequested
    have hview : d.canView actor = true := by
      by_contra hdenied
      rw [Report.openFor, if_neg hdenied] at hopen
      cases hopen
    -- Among names that are all different, one that occurs occurs once.
    have hnodup : ((registry.entries.filter (·.canView actor)).map Definition.name).Nodup :=
      hregistry.nodup.sublist (List.filter_sublist.map _)
    have hmem : d.name ∈ (registry.entries.filter (·.canView actor)).map Definition.name :=
      List.mem_map_of_mem (List.mem_filter.2 ⟨hd, hview⟩)
    rw [map_reportName?_allLinks hregistry]
    exact List.count_eq_one_of_mem (hnodup.map fun _ _ => Option.some.inj)
      (List.mem_map_of_mem hmem)

/-- **The list of reports offers exactly what can be opened.** Take any registry that comes of
registrations and any actor, with dates that can be written and a store that answers what the
reports ask. Following any link of the written list shows a page of the report that it names, and
never the list again or a refusal; and each report that some request of the actor opens has exactly
one link. -/
theorem offersExactly_registerAll {base : Registry} (hbase : base = .empty ∨ base = .builtin)
    {ds : List Definition} (hds : ∀ d ∈ ds, d.Presents) {actor : Actor} {settings : Settings}
    (hdates : (Formatter.ofSettings settings).WritesDates) {now : Int64} {store : Store σ}
    (hstore : ∀ d ∈ (base.registerAll ds).entries, ∀ r,
      Report.openFor d actor settings now store = .ok r → r.Served) :
    (base.registerAll ds).OffersExactly actor settings now store := by
  have hbasePresents : ∀ d ∈ base.entries, d.Presents := by
    rcases hbase with rfl | rfl
    · exact fun d hd => by cases hd
    · exact fun d hd => Catalogue.presents hd
  exact (Registry.wellNamed_registerAll hbase ds).offersExactly
    (Registry.forall_entries_registerAll hbasePresents hds) hdates hstore

/-- The downloads under a name and a title that need care. -/
def Catalogue.oddTitle : Definition :=
  { downloads with name := "0_", title := "</a><a href=\"?report=downloads\">" }

theorem served_steadyStore {r : Report Unit} (h : r.store = steadyStore) : r.Served := by
  refine ⟨fun _ => ?_, fun _ _ _ _ _ => ?_⟩
  · rw [h]
    exact ⟨_, _, rfl⟩
  · rw [h]
    exact ⟨_, _, rfl⟩

/-- A title that pretends to be a link, under a name that is registered twice. -/
def oddlyTitled : List Definition := [Catalogue.oddTitle, Catalogue.reviews, Catalogue.oddTitle]

/-- A viewer is offered the reports for viewers, the odd one among them. -/
theorem offersExactly_oddlyTitled :
    (Registry.builtin = .empty ∨ Registry.builtin = .builtin) ∧
      (∀ d ∈ oddlyTitled, d.Presents) ∧
      (Formatter.ofSettings (Settings.defaults "")).WritesDates ∧
      (∀ d ∈ (Registry.builtin.registerAll oddlyTitled).entries, ∀ r,
        Report.openFor d oddViewer (Settings.defaults "") 0 steadyStore = .ok r → r.Served) ∧
      ((Registry.builtin.registerAll oddlyTitled).viewable oddViewer).map Descriptor.name =
        ["reviews", "recentreleases", "downloads", "0_"] ∧
      (Registry.builtin.registerAll oddlyTitled).OffersExactly oddViewer (Settings.defaults "") 0
        steadyStore := by
  have hbase : Registry.builtin = .empty ∨ Registry.builtin = .builtin := .inr rfl
  have hds : ∀ d ∈ oddlyTitled, d.Presents := by
    intro d hd
    simp only [oddlyTitled, List.mem_cons, List.not_mem_nil, or_false] at hd
    rcases hd with rfl | rfl | rfl
    · exact fun _ _ _ => ⟨_, rfl⟩
    · exact Catalogue.presents (by simp [Catalogue.all])
    · exact fun _ _ _ => ⟨_, rfl⟩
  have hdates := writesDates_defaults ""
  have hstore : ∀ d ∈ (Registry.builtin.registerAll oddlyTitled).entries, ∀ r,
      Report.openFor d oddViewer (Settings.defaults "") 0 steadyStore = .ok r → r.Served :=
    fun d _ r hopen => served_steadyStore (by rw [Report.eq_of_openFor hopen])
  exact ⟨hbase, hds, hdates, hstore, by decide +kernel,
    offersExactly_registerAll hbase hds hdates hstore⟩

end PagedReports
