import Mathlib.Data.List.Nodup
import Mathlib.Data.List.ProdSigma
import PagedReports.Proofs.Catalogue.Shown

/-!
# The latest reviews

The reviews report is compared with what it should be: the pairs of a plugin and a user who
reviewed some version of it (`Database.reviewedPairs`), and for each pair the review after which
no other one of the pair comes (`Reviewed.Latest`). On every reachable database the report has
one row for each pair, which shows that review with its own version (`ShowsReview`,
`latestReviews_of_database`).

The inner joins drop no review, because a reachable database has the rows that a review refers
to; and the query inside the condition, which looks at the pair of a joined row, gives the number
of the pair's last review.
-/

namespace PagedReports

open Sql Catalogue

/-! ### Reviews and what they refer to -/

/-- A review with the version that it is about, the plugin of the version, and its author. -/
@[ext]
structure Reviewed where
  /-- The plugin. -/
  plugin : Row
  /-- The author. -/
  user : Row
  /-- The version. -/
  version : Row
  /-- The review. -/
  review : Row
  deriving DecidableEq

namespace Reviewed

/-- The rows stand in a database and refer to each other. -/
structure In (x : Reviewed) (db : Database) : Prop where
  /-- The plugin is there. -/
  plugin : x.plugin ∈ db.rows .plugins
  /-- The author is there. -/
  user : x.user ∈ db.rows .users
  /-- The version is there. -/
  version : x.version ∈ db.rows .versions
  /-- The review is there. -/
  review : x.review ∈ db.rows .reviews
  /-- The review is about the version. -/
  versionid : x.review.value "versionid" = .integer x.version.id
  /-- The version is one of the plugin. -/
  pluginid : x.version.value "pluginid" = .integer x.plugin.id
  /-- The review is by the author. -/
  userid : x.review.value "userid" = .integer x.user.id

/-- The plugin and the author. -/
def pair (x : Reviewed) : Row × Row := (x.plugin, x.user)

/-- When it was reviewed. -/
def time (x : Reviewed) : Value := x.review.value "timereviewed"

/-- One review comes before another, by its time, or at the same time by its number; or they are
the same. -/
def UpTo (y x : Reviewed) : Prop :=
  y.time.compare x.time = .lt ∨ y.time.compare x.time = .eq ∧ y.review.id ≤ x.review.id

/-- The last of the reviews of a plugin by one author. -/
structure Latest (x : Reviewed) (db : Database) : Prop where
  /-- It is a review of a database. -/
  isIn : x.In db
  /-- All others by its author of any version of its plugin come before. -/
  last : ∀ y : Reviewed, y.In db → y.pair = x.pair → y.UpTo x

/-- What the report gives of a review. -/
def record (x : Reviewed) : Record :=
  [x.plugin.value "frankenstyle", x.plugin.value "name", x.user.value "firstname",
    x.user.value "lastname", x.version.value "version", x.version.value "releasename", x.time]

/-- Under which name the version of a review is shown: the name of its release with its number after
it, or the number alone if the release has no name. -/
def versionName (x : Reviewed) : String :=
  let name := (x.version.value "releasename").toText
  let number := x.version.value "version"
  if name = "" then number.toText
  else name ++ " (" ++ Text.signedText number.toInteger ++ ")"

end Reviewed

/-- The cells of a review. -/
structure ShowsReview (f : Formatter) (x : Reviewed) (cells : Cells) : Prop where
  /-- The plugin. -/
  link : cells.get? "plugin" = some (f.linkTo x.plugin)
  /-- The author. -/
  reviewer : cells.get? "reviewer" = some (.text
    (Text.fullName (x.user.value "firstname").toText (x.user.value "lastname").toText))
  /-- The version that it is about. -/
  version : cells.get? "version" = some (.text x.versionName)
  /-- When it was written. -/
  reviewed : ∃ cell, f.date x.time.toInteger = .ok cell ∧ cells.get? "timereviewed" = some cell

/-- The plugins and users such that the user reviewed some version of the plugin. -/
def Database.reviewedPairs (db : Database) : List (Row × Row) :=
  ((db.rows .plugins).product (db.rows .users)).filter fun pair =>
    (db.rows .versions).any fun version => (db.rows .reviews).any fun review =>
      review.value "versionid" = .integer version.id &&
        version.value "pluginid" = .integer pair.1.id &&
        review.value "userid" = .integer pair.2.id

theorem Database.mem_reviewedPairs {db : Database} {pair : Row × Row} :
    pair ∈ db.reviewedPairs ↔ ∃ x : Reviewed, x.In db ∧ x.pair = pair := by
  obtain ⟨plugin, user⟩ := pair
  simp only [reviewedPairs, List.mem_filter, List.pair_mem_product, List.any_eq_true,
    Bool.and_eq_true, decide_eq_true_eq]
  constructor
  · rintro ⟨⟨hplugin, huser⟩, version, hversion, review, hreview, ⟨hv, hp⟩, hu⟩
    exact ⟨⟨plugin, user, version, review⟩, ⟨hplugin, huser, hversion, hreview, hv, hp, hu⟩, rfl⟩
  · rintro ⟨x, hx, hpair⟩
    obtain ⟨rfl, rfl⟩ := Prod.mk.inj hpair
    exact ⟨⟨hx.plugin, hx.user⟩, x.version, hx.version, x.review, hx.review,
      ⟨hx.versionid, hx.pluginid⟩, hx.userid⟩

/-- All reviews of a database, in the order of their numbers, with what they refer to. -/
structure Database.AllReviewed (db : Database) (xs : List Reviewed) : Prop where
  /-- They are the rows of the table. -/
  reviews : xs.map Reviewed.review = db.rows .reviews
  /-- They refer to rows of the other tables, and none that does is left out. -/
  mem_iff : ∀ x : Reviewed, x ∈ xs ↔ x.In db

theorem Database.AllReviewed.isIn {db : Database} {xs : List Reviewed} (hxs : db.AllReviewed xs)
    {x : Reviewed} (hx : x ∈ xs) : x.In db :=
  (hxs.mem_iff x).1 hx

section Sound

variable {db : Database} (hdb : db.Sound)

include hdb

theorem Database.Sound.nodup_reviewedPairs : db.reviewedPairs.Nodup :=
  ((hdb.nodup_rows .plugins).product (hdb.nodup_rows .users)).filter _

/-- Everything that a review refers to is there. -/
theorem Database.Sound.exists_reviewed {review : Row} (hreview : review ∈ db.rows .reviews) :
    ∃ x : Reviewed, x.In db ∧ x.review = review := by
  obtain ⟨version, hversion, hv⟩ :=
    hdb.reference hreview "versionid" .versions (by decide) (by decide)
  obtain ⟨user, huser, hu⟩ := hdb.reference hreview "userid" .users (by decide) (by decide)
  obtain ⟨plugin, hplugin, hp⟩ :=
    hdb.reference hversion "pluginid" .plugins (by decide) (by decide)
  exact ⟨⟨plugin, user, version, review⟩, ⟨hplugin, huser, hversion, hreview, hv, hp, hu⟩, rfl⟩

/-- A review refers to one version, one plugin and one user. -/
theorem Reviewed.In.eq_of_review_id_eq {x y : Reviewed} (hx : x.In db) (hy : y.In db)
    (h : x.review.id = y.review.id) : x = y := by
  have hreview : x.review = y.review := hdb.eq_of_id_eq hx.review hy.review h
  have hversion : x.version = y.version := hdb.eq_of_id_eq hx.version hy.version
    (Value.integer.inj (by rw [← hx.versionid, ← hy.versionid, hreview]))
  have hplugin : x.plugin = y.plugin := hdb.eq_of_id_eq hx.plugin hy.plugin
    (Value.integer.inj (by rw [← hx.pluginid, ← hy.pluginid, hversion]))
  have huser : x.user = y.user := hdb.eq_of_id_eq hx.user hy.user
    (Value.integer.inj (by rw [← hx.userid, ← hy.userid, hreview]))
  exact Reviewed.ext hplugin huser hversion hreview

/-- Two last reviews of one plugin by one author are the same. -/
theorem Reviewed.Latest.eq_of_pair_eq {x y : Reviewed} (hx : x.Latest db) (hy : y.Latest db)
    (h : x.pair = y.pair) : x = y := by
  refine hx.isIn.eq_of_review_id_eq hdb hy.isIn ?_
  have hxy := hy.last x hx.isIn h
  have hyx := hx.last y hy.isIn h.symm
  rcases hxy with hlt | ⟨heq, hle⟩
  · have hgt : y.time.compare x.time = .gt := Std.OrientedCmp.gt_of_lt hlt
    rcases hyx with hlt' | ⟨heq', -⟩
    · rw [hgt] at hlt'
      cases hlt'
    · rw [hgt] at heq'
      cases heq'
  · have heq' : y.time.compare x.time = .eq := Std.OrientedCmp.eq_symm heq
    rcases hyx with hlt' | ⟨-, hle'⟩
    · rw [heq'] at hlt'
      cases hlt'
    · exact Int64.le_antisymm hle hle'

theorem Database.Sound.exists_allReviewed : ∃ xs : List Reviewed, db.AllReviewed xs := by
  have hlist : ∀ rows : List Row, (∀ row ∈ rows, row ∈ db.rows .reviews) → ∃ xs : List Reviewed,
      xs.map Reviewed.review = rows ∧ ∀ x ∈ xs, x.In db := by
    intro rows hrows
    induction rows with
    | nil => exact ⟨[], rfl, fun _ hx => by cases hx⟩
    | cons row rows ih =>
      obtain ⟨xs, hxs, hin⟩ := ih fun row' h => hrows row' (List.mem_cons_of_mem row h)
      obtain ⟨x, hx, rfl⟩ := hdb.exists_reviewed (hrows row List.mem_cons_self)
      exact ⟨x :: xs, by rw [List.map_cons, hxs], List.forall_mem_cons.2 ⟨hx, hin⟩⟩
  obtain ⟨xs, hxs, hin⟩ := hlist _ fun _ h => h
  refine ⟨xs, hxs, fun x => ⟨hin x, fun hx => ?_⟩⟩
  have hreview : x.review ∈ xs.map Reviewed.review := hxs ▸ hx.review
  obtain ⟨y, hy, hyx⟩ := List.mem_map.1 hreview
  rwa [hx.eq_of_review_id_eq hdb (hin y hy) (by rw [hyx])]

end Sound

/-! ### The joined rows of the report -/

/-- The joined row of a review. -/
def Reviewed.env (x : Reviewed) : Env :=
  [("u", some x.user), ("p", some x.plugin), ("v", some x.version), ("r", some x.review)]

/-- The joined row of a review inside the condition on another joined row. -/
def Reviewed.rivalEnv (outer : Env) (x : Reviewed) : Env :=
  ("v2", some x.version) :: ("r2", some x.review) :: outer

section Joined

variable {db : Database} {xs : List Reviewed}

/-- The tables of the report. -/
def reviewTables : Tables Term :=
  ⟨.reviews, "r",
    [⟨.inner, .versions, "v", sameAs (col "v" "id") (col "r" "versionid")⟩,
      ⟨.inner, .plugins, "p", sameAs (col "p" "id") (col "v" "pluginid")⟩,
      ⟨.inner, .users, "u", sameAs (col "u" "id") (col "r" "userid")⟩]⟩

/-- The tables of the query inside its condition. -/
def rivalTables : Tables Operand :=
  ⟨.reviews, "r2", [⟨.inner, .versions, "v2", sameInside (col "v2" "id") (col "r2" "versionid")⟩]⟩

/-- Reviews are sorted by their keys so that the last one is first. -/
theorem isLE_compareKeys_iff {x y : Reviewed} :
    (compareKeys [.descending, .descending] [x.time, .integer x.review.id]
      [y.time, .integer y.review.id]).isLE ↔ y.UpTo x := by
  have htime : directedOrder .descending (x.time.compare y.time) = y.time.compare x.time :=
    Std.OrientedCmp.eq_swap.symm
  have hid : directedOrder .descending
      ((Value.integer x.review.id).compare (.integer y.review.id)) =
        (Value.integer y.review.id).compare (.integer x.review.id) :=
    Std.OrientedCmp.eq_swap.symm
  simp only [compareKeys, htime, hid, Ordering.then_eq, Ordering.isLE_then_iff_or, Reviewed.UpTo,
    Value.isLE_compare_integer]

variable (hdb : db.Sound) (hxs : db.AllReviewed xs)

include hdb hxs

/-- The joins drop no review. -/
theorem envs_reviewTables (params : List Value) :
    reviewTables.envs db (Term.value db params) [] = xs.map Reviewed.env := by
  have hversions : ∀ x ∈ xs, x.version ∈ db.rows .versions ∧
      Env.value [("r", some x.review)] (col "r" "versionid") = .integer x.version.id :=
    fun x hx => ⟨(hxs.isIn hx).version, (hxs.isIn hx).versionid⟩
  have hplugins : ∀ x ∈ xs, x.plugin ∈ db.rows .plugins ∧
      Env.value [("v", some x.version), ("r", some x.review)] (col "v" "pluginid") =
        .integer x.plugin.id :=
    fun x hx => ⟨(hxs.isIn hx).plugin, (hxs.isIn hx).pluginid⟩
  have husers : ∀ x ∈ xs, x.user ∈ db.rows .users ∧
      Env.value [("p", some x.plugin), ("v", some x.version), ("r", some x.review)]
        (col "r" "userid") = .integer x.user.id :=
    fun x hx => ⟨(hxs.isIn hx).user, (hxs.isIn hx).userid⟩
  simp only [Tables.envs, reviewTables, List.foldl_cons, List.foldl_nil, ← hxs.reviews,
    List.map_map, Function.comp_def]
  rw [(looksUp_sameAs (by decide)).flatMap_extend hdb hversions,
    (looksUp_sameAs (by decide)).flatMap_extend hdb hplugins,
    (looksUp_sameAs (by decide)).flatMap_extend hdb husers]
  rfl

/-- Inside the condition the join drops no review either. -/
theorem envs_rivalTables (params : List Value) (outer : Env) :
    rivalTables.envs db (Operand.value params) outer = xs.map (Reviewed.rivalEnv outer) := by
  have hversions : ∀ x ∈ xs, x.version ∈ db.rows .versions ∧
      Env.value (("r2", some x.review) :: outer) (col "r2" "versionid") = .integer x.version.id :=
    fun x hx => ⟨(hxs.isIn hx).version, (hxs.isIn hx).versionid⟩
  simp only [Tables.envs, rivalTables, List.foldl_cons, List.foldl_nil, ← hxs.reviews, List.map_map,
    Function.comp_def]
  rw [(looksUp_sameInside (by decide)).flatMap_extend hdb hversions]
  rfl

/-- The reviews that compete with one: those of its plugin by its author. -/
theorem innerEnvs_rivals (params : List Value) {x : Reviewed} (hx : x.In db) :
    innerEnvs db params x.env rivalTables
        [sameInside (col "v2" "pluginid") (col "v" "pluginid"),
          sameInside (col "r2" "userid") (col "r" "userid")] =
      (xs.filter fun y => y.pair = x.pair).map (Reviewed.rivalEnv x.env) := by
  rw [innerEnvs, envs_rivalTables hdb hxs, List.filter_map]
  refine congrArg _ (List.filter_congr fun y hy => ?_)
  have hplugin : y.plugin.id = x.plugin.id ↔ y.plugin = x.plugin :=
    ⟨hdb.eq_of_id_eq (hxs.isIn hy).plugin hx.plugin, congrArg Row.id⟩
  have huser : y.user.id = x.user.id ↔ y.user = x.user :=
    ⟨hdb.eq_of_id_eq (hxs.isIn hy).user hx.user, congrArg Row.id⟩
  have hv2 : Env.value (y.rivalEnv x.env) (col "v2" "pluginid") = .integer y.plugin.id :=
    (hxs.isIn hy).pluginid
  have hv : Env.value (y.rivalEnv x.env) (col "v" "pluginid") = .integer x.plugin.id :=
    hx.pluginid
  have hr2 : Env.value (y.rivalEnv x.env) (col "r2" "userid") = .integer y.user.id :=
    (hxs.isIn hy).userid
  have hr : Env.value (y.rivalEnv x.env) (col "r" "userid") = .integer x.user.id := hx.userid
  simp only [Function.comp_apply, List.all_cons, List.all_nil, Bool.and_true, sameInside,
    Comparison.truth, Operand.value, hv2, hv, hr2, hr]
  rw [Bool.eq_iff_iff]
  simp only [Bool.and_eq_true, decide_eq_true_eq, Relation.truth_equal_integer,
    Value.compare_integer_eq_iff, hplugin, huser, Reviewed.pair, Prod.mk.injEq]

/-- The query inside the condition gives the number of the last review of a joined row's pair. -/
theorem exists_latest (params : List Value) {x : Reviewed} (hx : x.In db) :
    ∃ last : Reviewed, last.Latest db ∧ last.pair = x.pair ∧
      lastReview.value db params x.env = .integer last.review.id := by
  let rivals := xs.filter fun y => y.pair = x.pair
  let keyed := rivals.map fun y => ([y.time, .integer y.review.id], y)
  have hkeys : ∀ y ∈ keyed, y.1.length = [Direction.descending, .descending].length := by
    intro y hy
    obtain ⟨z, -, rfl⟩ := List.mem_map.1 hy
    rfl
  have hrival : ∀ y : Reviewed, y.In db → y.pair = x.pair →
      ([y.time, .integer y.review.id], y) ∈ keyed := fun y hy hpair =>
    List.mem_map_of_mem (List.mem_filter.2 ⟨(hxs.mem_iff y).2 hy, decide_eq_true hpair⟩)
  obtain ⟨first, hfirst, rest, hsort, hle⟩ :=
    sortByKeys_eq_cons hkeys (List.ne_nil_of_mem (hrival x hx rfl))
  obtain ⟨last, hlast, rfl⟩ := List.mem_map.1 hfirst
  obtain ⟨hlastMem, hlastPair⟩ := List.mem_filter.1 hlast
  have hpair : last.pair = x.pair := of_decide_eq_true hlastPair
  refine ⟨last, ⟨hxs.isIn hlastMem, fun y hy hy' => ?_⟩, hpair, ?_⟩
  · exact isLE_compareKeys_iff.1 (hle _ (hrival y hy (hy'.trans hpair)))
  · have hinner : (rivals.map (Reviewed.rivalEnv x.env)).map (fun inner =>
        ([inner.value (col "r2" "timereviewed"), inner.value (col "r2" "id")], inner)) =
          keyed.map fun y => (y.1, y.2.rivalEnv x.env) := by
      rw [List.map_map, List.map_map]
      rfl
    change lastReview.value db params x.env = (last.rivalEnv x.env).value (col "r2" "id")
    refine Subquery.value_first ?_
    change (sortByKeys [.descending, .descending]
      ((innerEnvs db params x.env rivalTables
        [sameInside (col "v2" "pluginid") (col "v" "pluginid"),
          sameInside (col "r2" "userid") (col "r" "userid")]).map fun inner =>
        ([inner.value (col "r2" "timereviewed"), inner.value (col "r2" "id")], inner))).head? = _
    rw [innerEnvs_rivals hdb hxs params hx, hinner, sortByKeys_map, hsort]
    rfl

/-- A joined row meets the condition if its review is the last one of its pair. -/
theorem truth_lastReview (params : List Value) {x : Reviewed} (hx : x.In db) :
    Atom.truth db params x.env
        (.comparison ⟨term "r" "id", .equal, .subquery lastReview⟩) = some true ↔ x.Latest db := by
  obtain ⟨last, hlast, hpair, hvalue⟩ := exists_latest hdb hxs params hx
  have htruth : Atom.truth db params x.env
      (.comparison ⟨term "r" "id", .equal, .subquery lastReview⟩) =
        Relation.truth .equal (.integer x.review.id) (lastReview.value db params x.env) := rfl
  rw [htruth, hvalue, Relation.truth_equal_integer, Value.compare_integer_eq_iff]
  constructor
  · intro hid
    rw [hx.eq_of_review_id_eq hdb hlast.isIn hid]
    exact hlast
  · intro hlatest
    rw [hlatest.eq_of_pair_eq hdb hlast hpair.symm]

end Joined

/-! ### The report -/

/-- The rows that the report shows. -/
def reviewSelection : Selection where
  origin := .tables reviewTables
  condition := [.atom (.comparison ⟨term "r" "id", .equal, .subquery lastReview⟩)]
  groupBy := none

/-- The report shows the joined rows of the last reviews, of which each pair has one. -/
theorem exists_envs_reviewSelection {db : Database} (hdb : db.Sound) (params : List Value) :
    ∃ lasts : List Reviewed, reviewSelection.envs db params = lasts.map Reviewed.env ∧
      (lasts.map Reviewed.pair).Perm db.reviewedPairs ∧ ∀ x ∈ lasts, x.Latest db := by
  classical
  obtain ⟨xs, hxs⟩ := hdb.exists_allReviewed
  have hnodup : xs.Nodup := .of_map Reviewed.review (hxs.reviews ▸ hdb.nodup_rows .reviews)
  have hlatest : ∀ x ∈ xs.filter fun x => x.Latest db, x.Latest db := fun x hx =>
    of_decide_eq_true (List.mem_filter.1 hx).2
  refine ⟨xs.filter fun x => x.Latest db, ?_, ?_, hlatest⟩
  · change (reviewTables.envs db (Term.value db params) []).filter _ = _
    rw [envs_reviewTables hdb hxs, List.filter_map]
    refine congrArg _ (List.filter_congr fun x hx => ?_)
    rw [Bool.eq_iff_iff, decide_eq_true_iff, ← truth_lastReview hdb hxs params (hxs.isIn hx)]
    exact beq_iff_eq
  · refine (List.perm_ext_iff_of_nodup ?_ hdb.nodup_reviewedPairs).2 fun pair => ?_
    · exact (hnodup.filter _).map_on fun x hx y hy h =>
        (hlatest x hx).eq_of_pair_eq hdb (hlatest y hy) h
    · rw [Database.mem_reviewedPairs]
      constructor
      · intro h
        obtain ⟨x, hx, rfl⟩ := List.mem_map.1 h
        exact ⟨x, (hlatest x hx).isIn, rfl⟩
      · rintro ⟨x, hx, rfl⟩
        obtain ⟨last, hlast, hpair, -⟩ := exists_latest hdb hxs params hx
        exact List.mem_map.2 ⟨last, List.mem_filter.2 ⟨(hxs.mem_iff last).2 hlast.isIn,
          decide_eq_true hlast⟩, hpair⟩

theorem reviewCells_eq_ok {record : Record} {f : Formatter} {cells : Cells}
    (h : reviewCells record f = .ok cells) :
    cells.get? "plugin" = some (pluginCell record f) ∧
      cells.get? "reviewer" = some (.text (Text.fullName (record.text 2) (record.text 3))) ∧
      cells.get? "version" = some (.text (if record.text 5 = "" then record.text 4
        else record.text 5 ++ " (" ++ Text.signedText (record.int 4) ++ ")")) ∧
      ∃ cell, f.date (record.int 6) = .ok cell ∧ cells.get? "timereviewed" = some cell := by
  obtain ⟨cell, hdate, rfl⟩ := Formatter.exists_date_of_cells h
  simp [Cells.get?_insert, hdate]

/-- **The reviews report shows exactly the last review of each pair.** On every reachable database
there is one last review for each plugin and user such that the user reviewed some version of the
plugin. In whatever order the report is asked for, its records are those of these reviews, each
once, and each row shows its review with the version that it is about; the count gives the number
of the pairs. -/
theorem latestReviews_of_database {db : Database} (hdb : db.Reached) {actor : Actor}
    (hview : Catalogue.reviews.canView actor = true) (settings : Settings) (now : Int64) :
    ∃ r lasts, Report.openFor Catalogue.reviews actor settings now db.store = .ok r ∧
      (lasts.map Reviewed.pair).Perm db.reviewedPairs ∧ db.reviewedPairs.Nodup ∧
      (∀ x ∈ lasts, x.Latest db) ∧
      r.ShowsEach db lasts Reviewed.record (ShowsReview r.formatter) ∧
      r.selection.count db r.filter.params = db.reviewedPairs.length ∧
      ∃ s, r.rowCount (Session.start ()) = .ok (UInt64.ofNat db.reviewedPairs.length) s := by
  obtain ⟨lasts, henvs, hpairs, hlatest⟩ := exists_envs_reviewSelection hdb.sound []
  have hshows : (db.report Catalogue.reviews actor settings now).ShowsEach db lasts
      Reviewed.record (ShowsReview (Formatter.ofSettings settings)) :=
    Report.showsEach_of_envs rfl (by simp [Catalogue.all, Database.report]) rfl henvs
      (fun _ _ => rfl) fun x _ cells h => by
        obtain ⟨hlink, hreviewer, hversion, hreviewed⟩ := reviewCells_eq_ok h
        exact ⟨hlink, hreviewer, hversion, hreviewed⟩
  have hlength : lasts.length = db.reviewedPairs.length := by
    rw [← hpairs.length_eq, List.length_map]
  obtain ⟨hcount, htotal⟩ := hshows.total
  rw [hlength] at hcount htotal
  exact ⟨_, lasts, Database.openFor_eq_ok hview settings now, hpairs,
    hdb.sound.nodup_reviewedPairs, hlatest, hshows, hcount, htotal⟩

/-- Two reviews at one time, of which the second one is of the earlier version. -/
theorem latestReviews_of_pilot :
    pilot.Reached ∧
      Catalogue.reviews.canView ⟨1, "ada", "Ada", false, [viewReports]⟩ = true ∧
      ∃ r lasts, Report.openFor Catalogue.reviews ⟨1, "ada", "Ada", false, [viewReports]⟩
          (Settings.defaults "") 0 pilot.store = .ok r ∧
        (lasts.map Reviewed.pair).Perm pilot.reviewedPairs ∧ pilot.reviewedPairs.Nodup ∧
        (∀ x ∈ lasts, x.Latest pilot) ∧
        r.ShowsEach pilot lasts Reviewed.record (ShowsReview r.formatter) ∧
        r.selection.count pilot r.filter.params = pilot.reviewedPairs.length ∧
        ∃ s, r.rowCount (Session.start ()) = .ok (UInt64.ofNat pilot.reviewedPairs.length) s := by
  have hview : Catalogue.reviews.canView ⟨1, "ada", "Ada", false, [viewReports]⟩ = true := rfl
  exact ⟨reached_pilot, hview, latestReviews_of_database reached_pilot hview _ 0⟩

end PagedReports
