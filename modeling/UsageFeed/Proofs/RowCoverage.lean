import Mathlib.Data.List.Perm.Basic
import UsageFeed.Proofs.CallSequence
import UsageFeed.Proofs.Figures

/-!
# `UsageFeed.Proofs.RowCoverage` — where the rows of a report go

Every row of a report whose deployment is not left out reaches the service once, in its place, and
what the calls for a deployment say of it agrees. The calls are those of `callsOf`, so nothing here
depends on what the service answers.

## Contents
- **Rows in groups.** `Table.Named`, `Table.rankOf`, and the rows of distinct deployments as a
  rearrangement of the table.
- **What calls carry.** `Call.create?` and `Call.update?`, and `RowCoverage`, the statement.
- **The calls of a report.** `callsOf_covers` and `processReport_covers`.
-/

namespace UsageFeed

open Service (Call)
open Report (DeploymentUnit DeploymentId Hierarchy Table Row Metric)

/-! ## Rows in groups -/

/-- Whether every row of a deployment gives its container and its image. A deployment with another
row is left out. -/
def Report.Table.Named (t : Table) (d : DeploymentId) : Prop := ∀ r ∈ t.rowsOf d, r.isNamed

/-- The rank of the row at a place among the rows of a deployment: how many come before it. -/
def Report.Table.rankOf (t : Table) (d : DeploymentId) (place : Nat) : Nat :=
  (t.rows.take place).countP (·.owner == d)

instance (t : Table) (d : DeploymentId) : Decidable (t.Named d) := by
  unfold Report.Table.Named
  infer_instance

/-- A row is found at its rank among the rows of its deployment. -/
theorem rowsOf_rankOf {t : Table} {place : Nat} {r : Row} (h : t.rows[place]? = some r) :
    (t.rowsOf r.owner)[t.rankOf r.owner place]? = some r := by
  obtain ⟨hlt, hget⟩ := List.getElem?_eq_some_iff.mp h
  have hsplit : t.rows = t.rows.take place ++ r :: t.rows.drop (place + 1) := by
    rw [← hget, List.getElem_cons_drop, List.take_append_drop]
  have hrows : t.rowsOf r.owner = (t.rows.take place).filter (·.owner == r.owner) ++
      r :: (t.rows.drop (place + 1)).filter (·.owner == r.owner) := by
    unfold Table.rowsOf
    conv => lhs; rw [hsplit]
    rw [List.filter_append, List.filter_cons, if_pos (beq_self_eq_true r.owner)]
  unfold Table.rankOf
  rw [hrows, List.countP_eq_length_filter, List.getElem?_append_right (Nat.le_refl _),
    Nat.sub_self]
  rfl

/-- The rows of deployments that are all different, one deployment after another, are the rows of
those deployments in another order. -/
theorem rowsOf_flatMap_perm (t : Table) {ids : List DeploymentId} (h : ids.Nodup) :
    (ids.flatMap t.rowsOf).Perm (t.rows.filter fun r => r.owner ∈ ids) :=
  Hierarchy.flatMap_filter_perm Row.owner t.rows h

/-- The deployments that are not left out, in the order of the hierarchy. -/
def namedIds (t : Table) : List DeploymentId := (Hierarchy.idsOf t).filter fun d => t.Named d

theorem mem_namedIds {t : Table} {d : DeploymentId} :
    d ∈ namedIds t ↔ (∃ r ∈ t.rows, r.owner = d) ∧ t.Named d := by
  unfold namedIds
  rw [List.mem_filter, Hierarchy.mem_idsOf, decide_eq_true_eq]

theorem nodup_namedIds (t : Table) : (namedIds t).Nodup := (Hierarchy.nodup_idsOf t).filter _

/-- The units that calls are made for. -/
theorem units_named (t : Table) :
    (Hierarchy.ofTable t).units.filter (·.rows.all Row.isNamed) =
      (namedIds t).map t.unitOf := by
  unfold namedIds
  rw [Hierarchy.units_eq, List.filter_map]
  congr 1
  apply List.filter_congr
  intro d _
  show (t.rowsOf d).all Row.isNamed = decide (t.Named d)
  rw [Bool.eq_iff_iff, List.all_eq_true, decide_eq_true_eq]
  exact Iff.rfl

/-! ## What calls carry -/

/-- What a call asks to track. -/
def Service.Call.create? : Call → Option CreateExperiment
  | .create q => some q
  | _ => none

/-- The results that a call sends. -/
def Service.Call.update? : Call → Option UpdateResults
  | .update r => some r
  | _ => none

/-- The names of a deployment that is to be tracked. -/
def CreateExperiment.id (q : CreateExperiment) : DeploymentId := (q.ns, q.deployment)

/-- The calls carry the rows of a table, each of a deployment that is not left out once and in its
place, and agree about each deployment. -/
structure RowCoverage (p : Pipeline) (c : Context) (table : Table) (calls : List Call) : Prop where
  /-- No deployment is created twice. -/
  distinct : ((calls.filterMap Call.create?).map CreateExperiment.id).Nodup
  /-- The deployments that occur are created, unless they are left out. -/
  created : ∀ d, d ∈ (calls.filterMap Call.create?).map CreateExperiment.id ↔
    (∃ r ∈ table.rows, r.owner = d) ∧ table.Named d
  /-- A deployment that is left out is in no call. -/
  leftOut : ∀ d, ¬ table.Named d → ∀ call ∈ calls, d ∉ call.ids
  /-- A deployment is created with all of its rows and no others. -/
  containers : ∀ q ∈ calls.filterMap Call.create?,
    q.containers = (table.rowsOf q.id).map ContainerIdentity.ofRow
  /-- A row stands at its rank. -/
  placed : ∀ place r, table.rows[place]? = some r → table.Named r.owner →
    ∃ q ∈ calls.filterMap Call.create?, q.id = r.owner ∧
      q.containers[table.rankOf r.owner place]? = some (.ofRow r)
  /-- All containers together are the rows that are not left out, each once. -/
  once : ((calls.filterMap Call.create?).flatMap (·.containers)).Perm
    ((table.rows.filter fun r => table.Named r.owner).map ContainerIdentity.ofRow)
  /-- Each call is about one deployment, which is created under the same experiment. -/
  agreed : ∀ call ∈ calls, ∃ q ∈ calls.filterMap Call.create?,
    call.ids = [q.id] ∧ call.experiment = q.experiment
  /-- An experiment is named by four parts with the separator between them. -/
  named : ∀ q ∈ calls.filterMap Call.create?, q.experiment =
    c.orgId ++ p.separator ++ c.clusterId ++ p.separator ++ q.ns ++ p.separator ++ q.deployment
  /-- Results are sent of all rows of a deployment, each in its place with its own figures. -/
  results : ∀ r ∈ calls.filterMap Call.update?, ∀ sent ∈ r.deployments,
    List.Forall₂ Row.ReportedAs (table.rowsOf (sent.ns, sent.deployment)) sent.containers
  /-- All results are of one trial. -/
  trial : ∃ t, ∀ r ∈ calls.filterMap Call.update?, r.trial = t

/-! ## The calls of a report -/

variable {p : Pipeline} {c : Context} {t : Trial} {answer : Answers}

/-- Each call is made for a unit all of whose rows are named. -/
theorem of_mem_callsOf {units : List DeploymentUnit} {call : Call}
    (h : call ∈ callsOf p c t answer units) :
    ∃ u ∈ units.filter (·.rows.all Row.isNamed), call = createCall p c u ∨
      (∃ r, updateFor p c t u = .ok r ∧ call = .update r) ∨ call = listCall p c u := by
  unfold callsOf at h
  simp only [List.mem_append, List.mem_map, List.mem_filterMap] at h
  rcases h with (⟨u, hu, rfl⟩ | ⟨u, hu, hcall⟩) | ⟨u, hu, rfl⟩
  · exact ⟨u, hu, Or.inl rfl⟩
  · rw [updateCall?_eq] at hcall
    cases hr : updateFor p c t u with
    | error f => simp [hr, Except.toOption] at hcall
    | ok r =>
      have hc : Call.update r = call := by simpa [hr, Except.toOption] using hcall
      exact ⟨u, hu, Or.inr (Or.inl ⟨r, hr, hc.symm⟩)⟩
  · exact ⟨u, List.mem_of_mem_filter hu, Or.inr (Or.inr rfl)⟩

theorem creates_callsOf (units : List DeploymentUnit) :
    (callsOf p c t answer units).filterMap Call.create? =
      (units.filter (·.rows.all Row.isNamed)).map (createFor p c) := by
  have hupdate : ∀ left : List DeploymentUnit,
      (left.filterMap (updateCall? p c t)).filterMap Call.create? = [] := by
    intro left
    rw [List.filterMap_filterMap, List.filterMap_eq_nil_iff]
    intro u _
    rw [updateCall?_eq]
    cases updateFor p c t u <;> rfl
  have hlist : ∀ left : List DeploymentUnit,
      (left.map (listCall p c)).filterMap Call.create? = [] := by
    intro left
    rw [List.filterMap_map, List.filterMap_eq_nil_iff]
    exact fun u _ => rfl
  unfold callsOf
  rw [List.filterMap_append, List.filterMap_append, hupdate, hlist, List.append_nil,
    List.append_nil, List.filterMap_map, ← List.filterMap_eq_map]
  rfl

theorem of_mem_updates {calls : List Call} {r : UpdateResults}
    (h : r ∈ calls.filterMap Call.update?) : Call.update r ∈ calls := by
  obtain ⟨call, hcall, hr⟩ := List.mem_filterMap.mp h
  cases call with
  | update r' =>
    obtain rfl := Option.some.inj hr
    exact hcall
  | create q => cases hr
  | list q => cases hr

/-- Results that are sent are those of a deployment of the table. -/
theorem of_mem_updates_callsOf {table : Table} {r : UpdateResults}
    (h : r ∈ (callsOf p c t answer (Hierarchy.ofTable table).units).filterMap Call.update?) :
    ∃ d metrics, Report.containerMetricsOf (table.rowsOf d) = .ok metrics ∧
      r = .of c p.separator t d.1 d.2 metrics := by
  obtain ⟨u, hu, hcall⟩ := of_mem_callsOf (of_mem_updates h)
  rw [units_named] at hu
  obtain ⟨d, -, rfl⟩ := List.mem_map.mp hu
  rcases hcall with hcreate | ⟨r', hr', heq⟩ | hlist
  · cases hcreate
  · obtain rfl := Call.update.inj heq
    obtain ⟨metrics, hmetrics, hr⟩ := eq_of_updateFor hr'
    exact ⟨d, metrics, hmetrics, hr⟩
  · cases hlist

/-- What is created is made of the deployments of the table that are not left out. -/
theorem creates_table (table : Table) :
    (callsOf p c t answer (Hierarchy.ofTable table).units).filterMap Call.create? =
      (namedIds table).map fun d => createFor p c (table.unitOf d) := by
  rw [creates_callsOf, units_named, List.map_map]
  rfl

theorem map_id_creates (table : Table) :
    ((callsOf p c t answer (Hierarchy.ofTable table).units).filterMap Call.create?).map
      CreateExperiment.id = namedIds table := by
  rw [creates_table, List.map_map]
  exact List.map_id' _

/-- Every call is about one deployment, and names the experiment that it is created under. -/
theorem agreed_callsOf {table : Table} {call : Call}
    (h : call ∈ callsOf p c t answer (Hierarchy.ofTable table).units) :
    ∃ d ∈ namedIds table, call.ids = [d] ∧
      call.experiment = (createFor p c (table.unitOf d)).experiment := by
  obtain ⟨u, hu, hcall⟩ := of_mem_callsOf h
  rw [units_named] at hu
  obtain ⟨d, hd, rfl⟩ := List.mem_map.mp hu
  refine ⟨d, hd, ?_⟩
  rcases hcall with rfl | ⟨r, hr, rfl⟩ | rfl
  · exact ⟨rfl, rfl⟩
  · obtain ⟨metrics, -, rfl⟩ := eq_of_updateFor hr
    exact ⟨rfl, rfl⟩
  · exact ⟨rfl, rfl⟩

/-- All containers that are created are the rows that are not left out. -/
theorem containers_perm (table : Table) :
    (((callsOf p c t answer (Hierarchy.ofTable table).units).filterMap Call.create?).flatMap
      (·.containers)).Perm
      ((table.rows.filter fun r => table.Named r.owner).map ContainerIdentity.ofRow) := by
  have hcontainers : ((callsOf p c t answer (Hierarchy.ofTable table).units).filterMap
      Call.create?).flatMap (·.containers) =
      ((namedIds table).flatMap table.rowsOf).map ContainerIdentity.ofRow := by
    rw [creates_table, List.flatMap_map, List.map_flatMap]
    rfl
  have hrows : table.rows.filter (fun r => r.owner ∈ namedIds table) =
      table.rows.filter fun r => table.Named r.owner := by
    apply List.filter_congr
    intro r hr
    rw [decide_eq_decide, mem_namedIds]
    exact and_iff_right ⟨r, hr, rfl⟩
  rw [hcontainers, ← hrows]
  exact (rowsOf_flatMap_perm table (nodup_namedIds table)).map _

/-- **The calls that a table asks for carry its rows.** -/
theorem callsOf_covers (table : Table) :
    RowCoverage p c table (callsOf p c t answer (Hierarchy.ofTable table).units) where
  distinct := by
    rw [map_id_creates]
    exact nodup_namedIds table
  created d := by
    rw [map_id_creates]
    exact mem_namedIds
  leftOut d hd call hcall hids := by
    obtain ⟨e, he, hcalled, -⟩ := agreed_callsOf hcall
    rw [hcalled, List.mem_singleton] at hids
    subst hids
    exact hd (mem_namedIds.mp he).2
  containers q hq := by
    rw [creates_table] at hq
    obtain ⟨d, -, rfl⟩ := List.mem_map.mp hq
    rfl
  placed place r hr hnamed := by
    have hd : r.owner ∈ namedIds table :=
      mem_namedIds.mpr ⟨⟨r, List.mem_of_getElem? hr, rfl⟩, hnamed⟩
    refine ⟨createFor p c (table.unitOf r.owner), ?_, rfl, ?_⟩
    · rw [creates_table]
      exact List.mem_map_of_mem hd
    · show ((table.rowsOf r.owner).map ContainerIdentity.ofRow)[table.rankOf r.owner place]? = _
      rw [List.getElem?_map, rowsOf_rankOf hr]
      rfl
  once := containers_perm table
  agreed call hcall := by
    obtain ⟨d, hd, hids, hexperiment⟩ := agreed_callsOf hcall
    refine ⟨createFor p c (table.unitOf d), ?_, hids, hexperiment⟩
    rw [creates_table]
    exact List.mem_map_of_mem hd
  named q hq := by
    rw [creates_table] at hq
    obtain ⟨d, -, rfl⟩ := List.mem_map.mp hq
    exact experimentName_eq c d.1 d.2 p.separator
  results r hr sent hsent := by
    obtain ⟨d, metrics, hmetrics, rfl⟩ := of_mem_updates_callsOf hr
    have hone : sent = ⟨d.2, d.1, [], metrics⟩ := List.mem_singleton.mp hsent
    rw [hone]
    exact Report.forall₂_reportedAs hmetrics
  trial := by
    refine ⟨t, fun r hr => ?_⟩
    obtain ⟨d, metrics, -, rfl⟩ := of_mem_updates_callsOf hr
    rfl

/-- **Where the rows of a report go.** Whatever the service answers, the calls for a report that has
been loaded carry its rows. -/
theorem processReport_covers {w : World} {j : Journal} {reference : String} {table : Table}
    (h : (w.load j reference).2 = .ok table) :
    RowCoverage p c table ((processReport p c reference).run w j).1.calls := by
  obtain ⟨i, answer, -, hdeeds, -⟩ := processReport_run (p := p) (c := c) h
  have hcalls : ((processReport p c reference).run w j).1.calls =
      callsOf p c (.at p.trialNumber (w.now i)) answer (Hierarchy.ofTable table).units := by
    rw [← Journal.calls_deeds, hdeeds, Journal.calls, Journal.answeredCalls_cons,
      answeredCalls_tableDeeds]
    show (answer.pairs _).map Prod.fst = _
    unfold Answers.pairs
    rw [List.map_map]
    exact List.map_id' _
  rw [hcalls]
  exact callsOf_covers table

/-- Three deployments take turns, one of them with a row without an image and another with a figure
missing. -/
theorem processReport_covers_interleaved :
    let cart : Row := Metric.all.foldl (fun r m => r.setMeasure m ⟨some 2, some 1⟩)
      { ns := "shop", deployment := "cart", container := "web", image := "web:1" }
    let till : Row := { cart with deployment := "till", cpuUsage := {} }
    let side : Row := { cart with container := "log" }
    let bank : Row := { ns := "bank", deployment := "cart", container := "api" }
    let table : Table := ⟨[cart, bank, till, side, cart]⟩
    let w := World.still table fun _ => .error (.io "unplugged")
    RowCoverage {} ⟨"", none, "org", "cluster", none⟩ table
      ((processReport {} ⟨"", none, "org", "cluster", none⟩ "a.csv").run w []).1.calls := by
  intro cart till side bank table w
  exact processReport_covers rfl

end UsageFeed
