import PagedReports.Ads.Source
import PagedReports.Proofs.Ads.Feeds
import PagedReports.Proofs.Text.Trimming

/-!
# Replacing partner ads

The table of partner ads is only ever replaced as a whole. An attempt whose source gives no ads
(`AdFeed.given?`), because it fails or because its file cannot be read as a feed, changes nothing;
any other writes the usable ads of its feed in their order, numbered from one
(`Database.replaceAds_eq_ok`), and touches no other table. After any sequence of attempts the table
is therefore the one that the last successful attempt wrote (`syncs_of_database`).

The numbers of rows are signed words, and a list in memory has fewer members than there are
positive ones; this is the only limit on the feeds.
-/

namespace PagedReports

open Sql

/-! ### The rows of a feed -/

/-- The row of an ad under a number: the ad as it came, and the time of the attempt. -/
def Ad.row (now : Int64) (id : Int64) (a : Ad) : Row where
  id := id
  cells := [("partnerid", .text a.partnerId), ("name", .text a.name),
    ("imageurl", optionalText a.imageUrl), ("url", .text a.url),
    ("country", optionalText a.country), ("timesynced", .integer now)]

/-- Ads as rows in their order, numbered from one. -/
def adRows (now : Int64) (ads : List Ad) : List Row :=
  ads.mapIdx fun i a => a.row now (Int64.ofNat (i + 1))

/-- The ads that name a partner and a target. -/
def usableAds (ads : List Ad) : List Ad :=
  ads.filter fun a => Text.trim a.partnerId ≠ "" ∧ Text.trim a.url ≠ ""

theorem filter_isUsable (ads : List Ad) : ads.filter Ad.isUsable = usableAds ads := by
  refine List.filter_congr fun a _ => ?_
  simp [Ad.isUsable, Text.trim_eq_empty_iff]

theorem adRows_concat (now : Int64) (ads : List Ad) (a : Ad) :
    adRows now (ads ++ [a]) = adRows now ads ++ [a.row now (Int64.ofNat (ads.length + 1))] :=
  List.mapIdx_concat

/-! ### Inserting one ad -/

theorem mem_adRows {now : Int64} {ads : List Ad} {r : Row} (h : r ∈ adRows now ads) :
    ∃ i < ads.length, r.id = Int64.ofNat (i + 1) := by
  obtain ⟨i, hi, rfl⟩ := List.mem_mapIdx.1 h
  exact ⟨i, hi, rfl⟩

/-- The numbers of the rows are smaller than the next one. -/
theorem id_lt_of_mem_adRows {now : Int64} {ads : List Ad} (h : ads.length < 0x7FFFFFFFFFFFFFFF)
    {r : Row} (hr : r ∈ adRows now ads) : r.id < Int64.ofNat (ads.length + 1) := by
  obtain ⟨i, hi, hid⟩ := mem_adRows hr
  rw [hid, Int64.lt_iff_toInt_lt, Int64.toInt_ofNat_of_lt (by omega),
    Int64.toInt_ofNat_of_lt (by omega)]
  omega

theorem nextId_adRows {now : Int64} {ads : List Ad} (h : ads.length < 0x7FFFFFFFFFFFFFFF) :
    nextId (adRows now ads) = Int64.ofNat (ads.length + 1) := by
  unfold nextId adRows
  rw [List.getLast?_mapIdx]
  cases hlast : ads.getLast? with
  | none =>
    rw [List.getLast?_eq_none_iff.1 hlast]
    rfl
  | some a =>
    have hpos : 0 < ads.length := List.length_pos_of_mem (List.mem_of_getLast? hlast)
    have hlen : ads.length - 1 + 1 = ads.length := by omega
    have hmax : Int64.ofNat ads.length ≠ Int64.maxValue := fun heq => by
      have hint := congrArg Int64.toInt heq
      rw [Int64.toInt_ofNat_of_lt (by omega), Int64.toInt_maxValue] at hint
      omega
    simp only [Option.map_some, Ad.row, hlen, if_neg hmax]
    rw [Int64.ofNat_add]
    rfl

theorem insertRow_eq_append {r : Row} {rows : List Row} (h : ∀ x ∈ rows, x.id < r.id) :
    insertRow r rows = rows ++ [r] := by
  have hall : ∀ x ∈ rows, decide (x.id < r.id) = true := fun x hx => decide_eq_true (h x hx)
  rw [insertRow, List.takeWhile_eq_self_iff.2 hall, List.dropWhile_eq_nil_iff.2 hall]

namespace Database

theorem withRows_withRows (db : Database) (t : TableName) (rs rs' : List Row) :
    (db.withRows t rs).withRows t rs' = db.withRows t rs' := by cases t <;> rfl

/-- No rule objects to an ad under a new number: its required columns hold something, and it
refers to nothing. -/
theorem objection?_ad {db : Database} {now id : Int64} {a : Ad}
    (h : ∀ x ∈ db.partnerAds, x.id ≠ id) : db.objection? .partnerAds (a.row now id) = none := by
  have hnew : ((db.rows .partnerAds).any fun other => other.id = (a.row now id).id) = false :=
    List.any_eq_false.2 fun x hx => by
      rw [decide_eq_true_iff]
      exact h x hx
  unfold objection?
  rw [hnew]
  rfl

theorem insert_ad (db : Database) (now : Int64) (a : Ad) :
    db.insert .partnerAds (a.fields now) =
      match db.objection? .partnerAds (a.row now (nextId db.partnerAds)) with
      | some e => .error e
      | none => .ok (db.withRows .partnerAds
          (insertRow (a.row now (nextId db.partnerAds)) db.partnerAds), nextId db.partnerAds) := by
  have hcells : TableName.partnerAds.schema.columns.map
      (fun c => (c.name, c.take (a.fields now))) = (a.row now 0).cells := by
    cases a with
    | mk partnerId name imageUrl url country => cases imageUrl <;> cases country <;> rfl
  have hunknown : unknownColumn? .partnerAds (a.fields now) = none := rfl
  have hid : takeId (db.rows .partnerAds) (a.fields now) = .ok (nextId db.partnerAds) := rfl
  simp only [Database.insert, hunknown, hid, hcells]
  rfl

/-- An ad after others gets the next number and stands last. -/
theorem insert_ad_after {db : Database} {now : Int64} {ads : List Ad} {a : Ad}
    (h : ads.length < 0x7FFFFFFFFFFFFFFF) :
    ((db.withRows .partnerAds (adRows now ads)).insert .partnerAds (a.fields now)).map Prod.fst =
      .ok (db.withRows .partnerAds (adRows now (ads ++ [a]))) := by
  have hbefore : ∀ x ∈ adRows now ads, x.id < Int64.ofNat (ads.length + 1) :=
    fun x hx => id_lt_of_mem_adRows h hx
  have hobjection : (db.withRows .partnerAds (adRows now ads)).objection? .partnerAds
      (a.row now (Int64.ofNat (ads.length + 1))) = none :=
    objection?_ad fun x hx => Int64.ne_of_lt (hbefore x hx)
  have hid : nextId (db.withRows .partnerAds (adRows now ads)).partnerAds =
    Int64.ofNat (ads.length + 1) := nextId_adRows h
  have hrow : insertRow (a.row now (Int64.ofNat (ads.length + 1)))
      (db.withRows .partnerAds (adRows now ads)).partnerAds = adRows now (ads ++ [a]) := by
    rw [adRows_concat]
    exact insertRow_eq_append hbefore
  rw [insert_ad, hid, hobjection, hrow, withRows_withRows]
  rfl

/-- Ads after others get the next numbers and stand after them. -/
theorem insertAll_ads (db : Database) (now : Int64) (before : List Ad) {ads : List Ad}
    (h : (before ++ ads).length < 0x8000000000000000) :
    (db.withRows .partnerAds (adRows now before)).insertAll
        (ads.map fun a => (.partnerAds, a.fields now)) =
      .ok (db.withRows .partnerAds (adRows now (before ++ ads))) := by
  induction ads generalizing before with
  | nil => rw [List.append_nil]; rfl
  | cons a ads ih =>
    have hroom : before.length < 0x7FFFFFFFFFFFFFFF := by
      rw [List.length_append, List.length_cons] at h
      omega
    have hrest := ih (before ++ [a]) (by simpa using h)
    rw [insertAll] at hrest
    rw [insertAll, List.map_cons, List.foldlM_cons, insert_ad_after hroom,
      List.append_cons before a ads]
    exact hrest

/-- A replacement writes the usable ads and succeeds. -/
theorem replaceAds_eq_ok (db : Database) {ads : List Ad} (now : Int64)
    (h : ads.length < 0x8000000000000000) :
    db.replaceAds ads now = .ok (db.withRows .partnerAds (adRows now (usableAds ads)),
      ⟨(usableAds ads).length, ads.length - (usableAds ads).length, db.partnerAds.length⟩) := by
  have hroom : ([] ++ usableAds ads).length < 0x8000000000000000 :=
    Nat.lt_of_le_of_lt (List.length_filter_le _ ads) h
  have hinserted := db.insertAll_ads now [] hroom
  simp only [replaceAds, filter_isUsable]
  change ((db.withRows .partnerAds (adRows now [])).insertAll _ >>= _) = _
  rw [hinserted]
  rfl

end Database

/-! ### Attempts -/

/-- What the source of an attempt has to offer. -/
inductive AdFeed where
  /-- The source fails. -/
  | failing (e : ReportError)
  /-- The source is fetched from a host. -/
  | fetched (h : Host) (source : AdSource)
  /-- The source gives a list of ads. -/
  | listed (ads : List Ad)

namespace AdFeed

/-- What fetching a source comes to. -/
def ads : AdFeed → Except ReportError (List Ad)
  | failing e => .error e
  | fetched h source => source.fetch h
  | listed ads => .ok ads

/-- The ads that a source gives. A file gives the ads that its text is a feed of. -/
def given? : AdFeed → Option (List Ad)
  | failing _ => none
  | fetched _ (.web _ _) => none
  | fetched h (.file path) => (h.readText? path).bind Ad.readFeed?
  | listed ads => some ads

/-- How a source fails that gives no ads. -/
inductive FailsWith : AdFeed → ReportError → Prop where
  /-- With an error of its own. -/
  | failing (e : ReportError) : FailsWith (.failing e) e
  /-- The web cannot be reached. -/
  | web (h : Host) (url : String) (timeout : UInt64) :
    FailsWith (.fetched h (.web url timeout)) .unreachableFeed
  /-- There is no text at the path of the file. -/
  | missing {h : Host} {path : String} (hmissing : h.readText? path = none) :
    FailsWith (.fetched h (.file path)) .fileAccess
  /-- The text of the file is no feed. -/
  | unparsable {h : Host} {path text : String} (hread : h.readText? path = some text)
    (hfeed : Ad.readFeed? text = none) : FailsWith (.fetched h (.file path)) .malformedFeed

variable {f : AdFeed}

theorem exists_failsWith (h : f.given? = none) : ∃ e, f.FailsWith e := by
  cases f with
  | failing e => exact ⟨e, .failing e⟩
  | listed ads => cases h
  | fetched host source =>
    cases source with
    | web url timeout => exact ⟨_, .web host url timeout⟩
    | file path =>
      cases hread : host.readText? path with
      | none => exact ⟨_, .missing hread⟩
      | some text =>
        rw [given?, hread, Option.bind_some] at h
        exact ⟨_, .unparsable hread h⟩

theorem given?_of_failsWith {e : ReportError} (h : f.FailsWith e) : f.given? = none := by
  cases h with
  | failing => rfl
  | web => rfl
  | missing hmissing => rw [given?, hmissing, Option.bind_none]
  | unparsable hread hfeed => rw [given?, hread, Option.bind_some, hfeed]

theorem ads_of_failsWith {e : ReportError} (h : f.FailsWith e) : f.ads = .error e := by
  cases h with
  | failing => rfl
  | web => rfl
  | missing hmissing => rw [ads, AdSource.fetch, hmissing]
  | unparsable hread hfeed => simp only [ads, AdSource.fetch, hread, Ad.ofFeed, hfeed]

theorem ads_of_given {given : List Ad} (h : f.given? = some given) : f.ads = .ok given := by
  cases f with
  | failing e => cases h
  | listed ads => exact congrArg Except.ok (Option.some.inj h)
  | fetched host source =>
    cases source with
    | web url timeout => cases h
    | file path =>
      obtain ⟨text, hread, hfeed⟩ := Option.bind_eq_some_iff.1 h
      simp only [ads, AdSource.fetch, hread, Ad.ofFeed, hfeed]

end AdFeed

/-- An attempt to replace the partner ads. -/
structure SyncAttempt where
  /-- What its source has to offer. -/
  feed : AdFeed
  /-- When it is made. -/
  now : Int64

namespace SyncAttempt

/-- What an attempt on a database comes to. -/
def result (a : SyncAttempt) (db : Database) : Except ReportError (Database × SyncSummary) :=
  db.syncAds a.feed.ads a.now

/-- The database after an attempt, which is the one before it if the attempt fails. -/
def after (a : SyncAttempt) (db : Database) : Database :=
  match a.result db with
  | .ok done => done.1
  | .error _ => db

/-- The table that an attempt writes if its source gives ads. -/
def table? (a : SyncAttempt) : Option (List Row) :=
  a.feed.given?.map fun ads => adRows a.now (usableAds ads)

/-- The source of an attempt does not give more ads than a list in memory holds. -/
def Fits (a : SyncAttempt) : Prop :=
  ∀ ads, a.feed.given? = some ads → ads.length < 0x8000000000000000

variable {a : SyncAttempt}

theorem table?_of_given {ads : List Ad} (h : a.feed.given? = some ads) :
    a.table? = some (adRows a.now (usableAds ads)) := by
  rw [table?, h, Option.map_some]

theorem result_of_failsWith {e : ReportError} (h : a.feed.FailsWith e) (db : Database) :
    a.result db = .error e := by
  rw [result, AdFeed.ads_of_failsWith h]
  rfl

theorem result_of_given {ads : List Ad} (hfits : a.Fits) (h : a.feed.given? = some ads)
    (db : Database) :
    a.result db = .ok (db.withRows .partnerAds (adRows a.now (usableAds ads)),
      ⟨(usableAds ads).length, ads.length - (usableAds ads).length, db.partnerAds.length⟩) := by
  rw [result, AdFeed.ads_of_given h, Database.syncAds,
    Database.replaceAds_eq_ok db a.now (hfits ads h)]

/-- An attempt replaces the table of ads or changes nothing. -/
theorem after_eq (hfits : a.Fits) (db : Database) :
    a.after db = db.withRows .partnerAds (a.table?.getD db.partnerAds) := by
  unfold after table?
  cases hgiven : a.feed.given? with
  | none =>
    obtain ⟨e, he⟩ := AdFeed.exists_failsWith hgiven
    rw [result_of_failsWith he]
    exact Database.ext_rows fun t => by cases t <;> rfl
  | some ads => rw [result_of_given hfits hgiven, Option.map_some, Option.getD_some]

end SyncAttempt

/-- The database after attempts, one after another. -/
def Database.afterSyncs (db : Database) (attempts : List SyncAttempt) : Database :=
  attempts.foldl (fun db a => a.after db) db

/-- The table that the last successful one of some attempts wrote. -/
def lastTable? (attempts : List SyncAttempt) : Option (List Row) :=
  (attempts.filterMap SyncAttempt.table?).getLast?

theorem Database.afterSyncs_concat (db : Database) (attempts : List SyncAttempt) (a : SyncAttempt) :
    db.afterSyncs (attempts ++ [a]) = a.after (db.afterSyncs attempts) := by
  rw [afterSyncs, List.foldl_concat, afterSyncs]

theorem lastTable?_concat (attempts : List SyncAttempt) (a : SyncAttempt) :
    lastTable? (attempts ++ [a]) = a.table?.or (lastTable? attempts) := by
  unfold lastTable?
  rw [List.filterMap_append]
  cases htable : a.table? <;> simp [htable]

/-- Attempts leave the table that the last successful one wrote, and touch no other table. -/
theorem Database.afterSyncs_eq (db : Database) {attempts : List SyncAttempt}
    (hfits : ∀ a ∈ attempts, a.Fits) :
    db.afterSyncs attempts =
      db.withRows .partnerAds ((lastTable? attempts).getD db.partnerAds) := by
  induction attempts using List.reverseRecOn with
  | nil => exact ext_rows fun t => by cases t <;> rfl
  | append_singleton attempts a ih =>
    have hbefore := ih fun b hb => hfits b (List.mem_append_left _ hb)
    have ha := hfits a (List.mem_append_right _ (List.mem_singleton_self a))
    rw [afterSyncs_concat, hbefore, SyncAttempt.after_eq ha, withRows_withRows, lastTable?_concat]
    cases a.table? <;> rfl

/-- What an attempt does to a database after others. -/
structure SyncAttempt.ReplacesAfter (a : SyncAttempt) (before : List SyncAttempt) (db : Database) :
    Prop where
  /-- The table of ads is the one that the last successful attempt wrote, and the first one if there
  was none. -/
  table : (db.afterSyncs (before ++ [a])).partnerAds =
    (lastTable? (before ++ [a])).getD db.partnerAds
  /-- No other table is changed. -/
  others : ∀ t ≠ .partnerAds, (db.afterSyncs (before ++ [a])).rows t = db.rows t
  /-- If the source gives no ads, the attempt fails in the way of its source, and nothing is
  changed. -/
  failed : a.feed.given? = none → ∃ e, a.feed.FailsWith e ∧
    a.result (db.afterSyncs before) = .error e ∧
      db.afterSyncs (before ++ [a]) = db.afterSyncs before
  /-- If the source gives ads, the attempt succeeds and writes the usable ones, and its summary says
  how many ads were usable, how many were not, and how many rows there were. -/
  succeeded : ∀ ads, a.feed.given? = some ads → ∃ summary : SyncSummary,
    a.result (db.afterSyncs before) = .ok (db.afterSyncs (before ++ [a]), summary) ∧
      (db.afterSyncs (before ++ [a])).partnerAds = adRows a.now (usableAds ads) ∧
      summary.inserted = (usableAds ads).length ∧
      summary.inserted + summary.skipped = ads.length ∧
      summary.removed = (db.afterSyncs before).partnerAds.length

/-- **Partner ads are replaced as a whole or not at all.** After each of any attempts on any
database, whatever the sources had to offer, the table of ads is the one that the last successful
attempt wrote. An attempt succeeds exactly if its source gives ads; a file does if its text is a
feed. -/
theorem syncs_of_database (db : Database) {attempts : List SyncAttempt}
    (hfits : ∀ a ∈ attempts, a.Fits) {before : List SyncAttempt} {a : SyncAttempt}
    (hbegins : before ++ [a] <+: attempts) : a.ReplacesAfter before db := by
  have hall : ∀ b ∈ before ++ [a], b.Fits := fun b hb => hfits b (hbegins.subset hb)
  have ha : a.Fits := hall a (List.mem_append_right _ (List.mem_singleton_self a))
  have hafter := db.afterSyncs_eq hall
  constructor
  case table =>
    rw [hafter]
    rfl
  case others =>
    intro t ht
    rw [hafter]
    exact Database.rows_withRows_of_ne ht
  case failed =>
    intro hnone
    obtain ⟨e, he⟩ := AdFeed.exists_failsWith hnone
    have hresult := SyncAttempt.result_of_failsWith he (db.afterSyncs before)
    refine ⟨e, he, hresult, ?_⟩
    rw [Database.afterSyncs_concat, SyncAttempt.after, hresult]
  case succeeded =>
    intro ads hads
    have hresult := SyncAttempt.result_of_given ha hads (db.afterSyncs before)
    have hkept : (usableAds ads).length ≤ ads.length := List.length_filter_le _ ads
    rw [Database.afterSyncs_concat, SyncAttempt.after, hresult]
    exact ⟨_, rfl, rfl, rfl, Nat.add_sub_of_le hkept, rfl⟩

/-- Two ads of one partner, one of which leads nowhere. -/
def twoAds : List Ad :=
  [⟨"p1", "One", none, "https://one.test", some "NZ"⟩, ⟨"p1", "Nowhere", none, " ", none⟩]

/-- A host with a feed of the two ads and a file that is no feed. -/
def feedHost : Host where
  home := "/h"
  files := ⟨[(["h", "ads.json"], .text (Ad.feedText twoAds)), (["h", "notes"], .text "not json"),
    (["h"], .directory)]⟩

/-- An attempt with the file that is no feed. -/
def notesAttempt : SyncAttempt := ⟨.fetched feedHost (.file "notes"), 200⟩

/-- A file with a feed, a source that fails, a file that is no feed, and a feed without ads. -/
def fourAttempts : List SyncAttempt :=
  [⟨.fetched feedHost (.file "/h/ads.json"), 100⟩, ⟨.failing .fileAccess, 150⟩, notesAttempt,
    ⟨.listed [], 300⟩]

theorem given?_feedHost :
    AdFeed.given? (.fetched feedHost (.file "/h/ads.json")) = some twoAds := by
  have hread : feedHost.readText? "/h/ads.json" = some (Ad.feedText twoAds) := by decide +kernel
  rw [AdFeed.given?, hread, Option.bind_some, Ad.readFeed?_feedText]

theorem failsWith_notesAttempt : notesAttempt.feed.FailsWith .malformedFeed := by
  have hread : feedHost.readText? "notes" = some "not json" := by decide +kernel
  exact .unparsable hread rfl

theorem fits_of_mem_fourAttempts {a : SyncAttempt} (h : a ∈ fourAttempts) : a.Fits := by
  intro ads hads
  simp only [fourAttempts, List.mem_cons, List.not_mem_nil, or_false] at h
  rcases h with rfl | rfl | rfl | rfl
  · rw [given?_feedHost] at hads
    cases hads
    decide
  · cases hads
  · rw [AdFeed.given?_of_failsWith failsWith_notesAttempt] at hads
    cases hads
  · cases hads
    decide

/-- The first attempt wrote the table that is there after the third one. -/
theorem lastTable?_fourAttempts : lastTable? (fourAttempts.take 2 ++ [notesAttempt]) =
    some (adRows 100 (usableAds twoAds)) := by
  have htwo : fourAttempts.take 2 =
      [] ++ [⟨.fetched feedHost (.file "/h/ads.json"), 100⟩] ++ [⟨.failing .fileAccess, 150⟩] := rfl
  have hfirst : SyncAttempt.table? ⟨.fetched feedHost (.file "/h/ads.json"), 100⟩ =
      some (adRows 100 (usableAds twoAds)) := SyncAttempt.table?_of_given given?_feedHost
  have hsecond : SyncAttempt.table? ⟨.failing .fileAccess, 150⟩ = none := rfl
  have hthird : notesAttempt.table? = none :=
    congrArg (Option.map _) (AdFeed.given?_of_failsWith failsWith_notesAttempt)
  rw [lastTable?_concat, htwo, lastTable?_concat, lastTable?_concat, hfirst, hsecond, hthird,
    Option.none_or, Option.none_or, Option.some_or]

/-- A file that is no feed leaves what the first attempt wrote over a row with a high number. -/
theorem syncs_of_fourAttempts :
    (∀ a ∈ fourAttempts, a.Fits) ∧ fourAttempts.take 2 ++ [notesAttempt] <+: fourAttempts ∧
      ∃ db : Database, db.partnerAds = [Ad.row 9 77 ⟨"p0", "Zero", none, "u", none⟩] ∧
        notesAttempt.ReplacesAfter (fourAttempts.take 2) db ∧
        notesAttempt.result (db.afterSyncs (fourAttempts.take 2)) = .error .malformedFeed ∧
        (db.afterSyncs (fourAttempts.take 3)).partnerAds =
          [Ad.row 100 1 ⟨"p1", "One", none, "https://one.test", some "NZ"⟩] := by
  have hfits : ∀ a ∈ fourAttempts, a.Fits := fun _ => fits_of_mem_fourAttempts
  have htake : fourAttempts.take 3 = fourAttempts.take 2 ++ [notesAttempt] := rfl
  have hbegins : fourAttempts.take 2 ++ [notesAttempt] <+: fourAttempts :=
    htake ▸ List.take_prefix 3 fourAttempts
  have husable : usableAds twoAds = [⟨"p1", "One", none, "https://one.test", some "NZ"⟩] := by
    decide +kernel
  have hreplaces := syncs_of_database
    (Database.empty.withRows .partnerAds [Ad.row 9 77 ⟨"p0", "Zero", none, "u", none⟩])
    hfits hbegins
  refine ⟨hfits, hbegins, _, rfl, hreplaces,
    SyncAttempt.result_of_failsWith failsWith_notesAttempt _, ?_⟩
  rw [htake, hreplaces.table, lastTable?_fourAttempts, Option.getD_some, husable]
  rfl

end PagedReports
