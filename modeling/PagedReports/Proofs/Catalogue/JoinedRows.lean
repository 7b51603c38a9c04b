import PagedReports.Proofs.Catalogue.Queries
import PagedReports.Proofs.Database.Stored

/-!
# The joined rows of the directory's reports

What the queries of the reports join, spelled out: each row of the table that a report starts
from, with the plugin that it refers to (`Database.pluginOf`), the category of that plugin, and
its first lead maintainer (`Database.leadOf`). No row of the first table is lost or multiplied, as
a reachable database has the rows that are referred to and numbers tell rows apart; the conditions
of a report then keep some of these rows.
-/

namespace PagedReports

open Sql Catalogue

/-! ### What a row leads to -/

namespace Database

/-- The plugin that a row refers to; a row without values if there is none. -/
def pluginOf (db : Database) (r : Row) : Row :=
  (db.numbered? .plugins (r.value "pluginid")).getD ⟨0, []⟩

/-- The category of a plugin, if it has one. -/
def categoryOf (db : Database) (plugin : Row) : Option Row :=
  db.numbered? .categories (plugin.value "categoryid")

/-- The first row that makes someone lead maintainer of a plugin. -/
def leadOf (db : Database) (plugin : Row) : Option Row :=
  (leads db (.integer plugin.id)).head?

/-- The first lead maintainer of a plugin. -/
def leadUser (db : Database) (plugin : Row) : Option Row :=
  (db.leadOf plugin).bind fun lead => db.numbered? .users (lead.value "userid")

end Database

/-- What stands in a column of a joined row; nothing if no row was joined. -/
def joinedValue (row : Option Row) (column : String) : Value :=
  (row.map (·.value column)).getD .null

theorem Sql.Env.value_eq_joinedValue (env : Env) {source : String} {row : Option Row}
    (h : env.lookup source = some row) (column : String) :
    env.value (col source column) = joinedValue row column := by
  simp only [Env.value, col, h]
  cases row <;> rfl

section Sound

variable {db : Database} (hdb : db.Sound)

include hdb

/-- A row of a table that requires a plugin refers to one. -/
theorem Database.Sound.pluginOf {t : TableName} {r : Row} (hr : r ∈ db.rows t)
    (href : ("pluginid", .plugins) ∈ t.schema.references)
    (hreq : ∃ c ∈ t.schema.columns, c.name = "pluginid" ∧ c.required = true) :
    db.pluginOf r ∈ db.rows .plugins ∧ r.value "pluginid" = .integer (db.pluginOf r).id := by
  obtain ⟨plugin, hplugin, hid⟩ := hdb.reference hr "pluginid" .plugins href hreq
  have hof : db.pluginOf r = plugin := by
    rw [Database.pluginOf, hid, hdb.numbered?_id hplugin, Option.getD_some]
  rw [hof]
  exact ⟨hplugin, hid⟩

end Sound

/-! ### Joins -/

/-- The least of the numbers of rows in order is that of the first one. -/
theorem leastValue_ids {rows : List Row} (h : Ordered rows) :
    leastValue (rows.map fun r => .integer r.id) =
      match rows.head? with
      | some r => .integer r.id
      | none => .null := by
  cases rows with
  | nil => rfl
  | cons r rows =>
    obtain ⟨hr, -⟩ := List.pairwise_cons.1 h
    have hkeep : ∀ xs : List Row, (∀ x ∈ xs, r.id < x.id) →
        (xs.map fun x => Value.integer x.id).foldl (fun least v =>
          if v = .null then least
          else if least = .null ∨ v.compare least = .lt then v else least) (.integer r.id) =
        .integer r.id := by
      intro xs hxs
      induction xs with
      | nil => rfl
      | cons x xs ih =>
        obtain ⟨hx, hxs⟩ := List.forall_mem_cons.1 hxs
        have hge : (Value.integer x.id).compare (.integer r.id) ≠ .lt := by
          intro hlt
          exact Int.lt_asymm (Std.compare_eq_lt.1 hlt) (Int64.lt_iff_toInt_lt.1 hx)
        simp only [List.map_cons, List.foldl_cons, reduceCtorEq, hge, or_self, if_false]
        exact ih hxs
    exact hkeep rows hr

section Joins

variable {db : Database} (hdb : db.Sound) (params : List Value) {α : Type} {xs : List α}
  {env : α → Env} {plugin : α → Row}

include hdb

/-- Joining the category of a plugin. -/
theorem flatMap_categoryJoin
    (h : ∀ x ∈ xs, (env x).value (col "p" "categoryid") = (plugin x).value "categoryid") :
    (xs.map env).flatMap (categoryJoin.extend db (Term.value db params)) =
      xs.map fun x => ("c", db.categoryOf (plugin x)) :: env x :=
  (looksUp_sameAs (by decide)).flatMap_extend_left hdb rfl fun x hx => by
    rw [h x hx]
    rfl

/-- The query for the first lead maintainer's number finds the row. -/
theorem numbered?_firstLead {outer : Env} {p : Row}
    (h : outer.value (col "p" "id") = .integer p.id) :
    db.numbered? .contributors (firstLead.value db params outer) = db.leadOf p := by
  have hordered : Ordered (leads db (.integer p.id)) := (hdb.ordered .contributors).filter _
  rw [value_firstLead, h, leastValue_ids hordered, Database.leadOf]
  cases hhead : (leads db (.integer p.id)).head? with
  | none => exact db.numbered?_null .contributors
  | some lead =>
    have hmem : lead ∈ leads db (.integer p.id) := List.mem_of_head? hhead
    exact hdb.numbered?_id (List.mem_filter.1 hmem).1

/-- Joining the first lead maintainer of a plugin. -/
theorem flatMap_leadJoins (h : ∀ x ∈ xs, (env x).value (col "p" "id") = .integer (plugin x).id) :
    leadJoins.foldl (fun envs j => envs.flatMap (j.extend db (Term.value db params)))
        (xs.map env) =
      xs.map fun x =>
        ("u", db.leadUser (plugin x)) :: ("lm", db.leadOf (plugin x)) :: env x := by
  simp only [leadJoins, List.foldl_cons, List.foldl_nil]
  rw [looksUp_firstLead.flatMap_extend_left hdb rfl fun x hx =>
    numbered?_firstLead hdb params (h x hx)]
  refine (looksUp_sameAs (by decide)).flatMap_extend_left hdb rfl fun x _ => ?_
  rw [Database.leadUser]
  cases db.leadOf (plugin x) with
  | none => exact db.numbered?_null .users
  | some lead => rfl

/-- Joining the plugin that the rows of a table refer to. -/
theorem flatMap_pluginJoin {t : TableName} {source : String} (hsource : source ≠ "p")
    (href : ("pluginid", .plugins) ∈ t.schema.references)
    (hreq : ∃ c ∈ t.schema.columns, c.name = "pluginid" ∧ c.required = true) :
    ((db.rows t).map fun r => [(source, some r)]).flatMap
        (Join.extend db (Term.value db params)
          ⟨.inner, .plugins, "p", sameAs (col "p" "id") (col source "pluginid")⟩) =
      (db.rows t).map fun r => [("p", some (db.pluginOf r)), (source, some r)] := by
  refine (looksUp_sameAs hsource).flatMap_extend hdb fun r hr => ?_
  obtain ⟨hplugin, hid⟩ := hdb.pluginOf hr href hreq
  exact ⟨hplugin, by simpa [Env.value, col] using hid⟩

end Joins

/-! ### Joined rows of the reports -/

/-- The joined row of a queued plugin. -/
def queueEnv (db : Database) (plugin : Row) : Env :=
  [("u", db.leadUser plugin), ("lm", db.leadOf plugin), ("c", db.categoryOf plugin),
    ("p", some plugin)]

/-- The joined row of a version. -/
def releaseEnv (db : Database) (version : Row) : Env :=
  [("u", db.leadUser (db.pluginOf version)), ("lm", db.leadOf (db.pluginOf version)),
    ("p", some (db.pluginOf version)), ("v", some version)]

/-- The joined row of the downloads of a period. -/
def downloadEnv (db : Database) (stats : Row) : Env :=
  [("c", db.categoryOf (db.pluginOf stats)), ("p", some (db.pluginOf stats)), ("s", some stats)]

/-- The joined row of a contribution. -/
def contributionEnv (db : Database) (contributor : Row) : Env :=
  [("p", some (db.pluginOf contributor)), ("mc", some contributor)]

section Tables

variable {db : Database} (hdb : db.Sound) (params : List Value)

include hdb

theorem envs_queue :
    Tables.envs db (Term.value db params) [] ⟨.plugins, "p", categoryJoin :: leadJoins⟩ =
      (db.rows .plugins).map (queueEnv db) := by
  rw [Tables.envs, List.foldl_cons, flatMap_categoryJoin hdb params fun x _ => rfl,
    flatMap_leadJoins hdb params fun x _ => rfl]
  rfl

theorem envs_release :
    Tables.envs db (Term.value db params) []
        ⟨.versions, "v",
          ⟨.inner, .plugins, "p", sameAs (col "p" "id") (col "v" "pluginid")⟩ :: leadJoins⟩ =
      (db.rows .versions).map (releaseEnv db) := by
  rw [Tables.envs, List.foldl_cons,
    flatMap_pluginJoin hdb params (by decide) (by decide) (by decide),
    flatMap_leadJoins hdb params fun x _ => rfl]
  rfl

theorem envs_download :
    Tables.envs db (Term.value db params) []
        ⟨.pluginStats, "s",
          [⟨.inner, .plugins, "p", sameAs (col "p" "id") (col "s" "pluginid")⟩, categoryJoin]⟩ =
      (db.rows .pluginStats).map (downloadEnv db) := by
  rw [Tables.envs, List.foldl_cons,
    flatMap_pluginJoin hdb params (by decide) (by decide) (by decide), List.foldl_cons,
    List.foldl_nil, flatMap_categoryJoin hdb params fun x _ => rfl]
  rfl

theorem envs_contribution :
    Tables.envs db (Term.value db params) []
        ⟨.contributors, "mc",
          [⟨.inner, .plugins, "p", sameAs (col "p" "id") (col "mc" "pluginid")⟩]⟩ =
      (db.rows .contributors).map (contributionEnv db) := by
  rw [Tables.envs, List.foldl_cons, List.foldl_nil,
    flatMap_pluginJoin hdb params (by decide) (by decide) (by decide)]
  rfl

end Tables

end PagedReports
