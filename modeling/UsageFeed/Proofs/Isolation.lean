import UsageFeed.Proofs.Phases

/-!
# `UsageFeed.Proofs.Isolation` — deployments do not see each other

Two runs over different reports are compared through what an observer of one deployment sees of
them. What is done about a deployment depends on its own rows and on the answers to its own calls
(`about_tableDeeds`, `unitDeeds_congr`), so an observer cannot tell the runs apart.

## Contents
- **Observing.** `Occurrence.concerns` and `Journal.about`, the part of a journal that is about one
  deployment.
- **One deployment.** `unitDeeds`, what is done about it, and `about_tableDeeds`.
- **Two runs.** `World.Steady` and `processReport_isolated`.
-/

namespace UsageFeed

open Service (Call Response)
open Report (DeploymentUnit DeploymentId Hierarchy Table Row Metric)

/-! ## Observing -/

/-- Whether a call is about a deployment. -/
def Service.Call.concerns (d : DeploymentId) (call : Call) : Bool := d ∈ call.ids

/-- Whether an occurrence is about a deployment: a call, or a note that it is left out. -/
def Occurrence.concerns (d : DeploymentId) : Occurrence → Bool
  | called call _ => call.concerns d
  | deploymentSkipped _ ns deployment _ => (ns, deployment) = d
  | updateSkipped e _ => (e.ns, e.deployment) = d
  | _ => false

namespace Journal

/-- What happened about a deployment. -/
def about (d : DeploymentId) (j : Journal) : Journal := j.filter (·.concerns d)

/-- Whether a deployment was left out of a report because of a column. -/
def Skips (d : DeploymentId) (column : String) (j : Journal) : Prop :=
  ∃ reference, .deploymentSkipped reference d.1 d.2 column ∈ j

variable {d : DeploymentId}

theorem about_append (i j : Journal) : about d (i ++ j) = about d i ++ about d j :=
  List.filter_append i j

theorem about_cons {o : Occurrence} (h : o.concerns d = false) (j : Journal) :
    about d (o :: j) = about d j := by
  unfold about
  rw [List.filter_cons, h]
  rfl

/-- Remarks are about no deployment. -/
theorem about_deeds (j : Journal) : about d j.deeds = about d j := by
  unfold about deeds
  rw [List.filter_filter]
  apply List.filter_congr
  intro o _
  cases o <;> simp [Occurrence.concerns, Occurrence.isNote]

/-- The calls about a deployment stand in the part of the journal that is about it. -/
theorem answeredCalls_about (j : Journal) :
    (about d j).answeredCalls = j.answeredCalls.filter fun x => x.1.concerns d := by
  unfold about answeredCalls
  rw [List.filterMap_filter, List.filter_filterMap]
  congr 1
  funext o
  cases o with
  | called call a =>
    cases h : call.concerns d <;> simp [Occurrence.concerns, Occurrence.call?, Option.filter, h]
  | _ => simp [Occurrence.call?]

theorem skips_about {j : Journal} {column : String} :
    (about d j).Skips d column ↔ j.Skips d column := by
  unfold Skips about
  simp [Occurrence.concerns]

end Journal

/-! ## One deployment -/

variable {p : Pipeline} {c : Context} {t : Trial} {answer : Answers}

/-- What is done about a deployment. -/
def unitDeeds (p : Pipeline) (c : Context) (t : Trial) (answer : Answers) (reference : String)
    (u : DeploymentUnit) : Journal :=
  match u.missingIdentity? with
  | some column => [.deploymentSkipped reference u.ns u.deployment column]
  | none =>
    answer.called (createCall p c u) :: updateDeed p c t answer u ::
      if isRecorded p c t answer u then [answer.called (listCall p c u)] else []

theorem concerns_of_ids {call : Call} {e : DeploymentId} (h : call.ids = [e]) (d : DeploymentId) :
    call.concerns d = (e == d) := by
  unfold Call.concerns
  rw [h, Bool.eq_iff_iff]
  simp only [List.mem_singleton, decide_eq_true_eq, beq_iff_eq]
  exact eq_comm

theorem concerns_createCall (d : DeploymentId) (u : DeploymentUnit) :
    (createCall p c u).concerns d = (u.id == d) :=
  concerns_of_ids rfl d

theorem concerns_listCall (d : DeploymentId) (u : DeploymentUnit) :
    (listCall p c u).concerns d = (u.id == d) :=
  concerns_of_ids rfl d

theorem concerns_updateDeed (d : DeploymentId) (u : DeploymentUnit) :
    (updateDeed p c t answer u).concerns d = (u.id == d) := by
  unfold updateDeed
  cases hu : updateFor p c t u with
  | error f =>
    show decide ((u.ns, u.deployment) = d) = (u.id == d)
    rw [Bool.eq_iff_iff, decide_eq_true_eq, beq_iff_eq]
    rfl
  | ok results => exact concerns_of_ids (ids_update hu) d

/-- It depends on the answers to calls about the deployment alone. -/
theorem unitDeeds_congr {f g : Answers} {u : DeploymentUnit}
    (h : ∀ call : Call, call.concerns u.id → f call = g call) (reference : String) :
    unitDeeds p c t f reference u = unitDeeds p c t g reference u := by
  have hcreate := h (createCall p c u) (by rw [concerns_createCall]; exact beq_self_eq_true _)
  have hlist := h (listCall p c u) (by rw [concerns_listCall]; exact beq_self_eq_true _)
  have hupdate : ∀ results, updateFor p c t u = .ok results →
      f (.update results) = g (.update results) := by
    intro results hok
    exact h _ (by rw [concerns_of_ids (ids_update hok)]; exact beq_self_eq_true _)
  obtain ⟨hdeed, hrecorded, -⟩ := update_congr p c t hupdate
  unfold unitDeeds
  rw [hdeed, hrecorded]
  simp only [Answers.called, hcreate, hlist]

/-- Under another reference the same calls are made and get the same answers. -/
theorem answeredCalls_unitDeeds (reference reference' : String) (u : DeploymentUnit) :
    Journal.answeredCalls (unitDeeds p c t answer reference u) =
      Journal.answeredCalls (unitDeeds p c t answer reference' u) := by
  unfold unitDeeds
  cases u.missingIdentity? <;> rfl

theorem skips_unitDeeds {reference column : String} {u : DeploymentUnit} :
    Journal.Skips u.id column (unitDeeds p c t answer reference u) ↔
      u.missingIdentity? = some column := by
  have hupdate : ∀ reference, .deploymentSkipped reference u.id.1 u.id.2 column ≠
      updateDeed p c t answer u := by
    intro reference
    unfold updateDeed
    split <;> exact Occurrence.noConfusion
  unfold Journal.Skips unitDeeds
  cases u.missingIdentity? with
  | some found => simp [DeploymentUnit.id, eq_comm]
  | none =>
    by_cases hr : isRecorded p c t answer u <;> simp [hr, hupdate, Answers.called]

/-! ### Among others -/

/-- Of what is made of deployments, an observer sees what is made of the one observed. -/
theorem about_map {f : DeploymentUnit → Occurrence} {d : DeploymentId}
    (hf : ∀ u, (f u).concerns d = (u.id == d)) (units : List DeploymentUnit) :
    Journal.about d (units.map f) = (units.filter (·.id == d)).map f := by
  unfold Journal.about
  rw [List.filter_map]
  congr 1
  exact List.filter_congr fun u _ => hf u

theorem about_noteSkipped (d : DeploymentId) (reference : String) (units : List DeploymentUnit) :
    Journal.about d (noteSkipped reference units) =
      noteSkipped reference (units.filter (·.id == d)) := by
  rw [noteSkipped_eq, noteSkipped_eq]
  unfold Journal.about
  rw [List.filter_filterMap, List.filterMap_filter]
  congr 1
  funext u
  cases u.missingIdentity? with
  | none => simp
  | some column =>
    by_cases h : u.id = d <;>
      simp [Occurrence.concerns, DeploymentUnit.id] at h ⊢ <;> simp [h]

/-- A table has one unit for a deployment that occurs and none for another. -/
theorem units_filter (table : Table) (d : DeploymentId) :
    (Hierarchy.ofTable table).units.filter (·.id == d) =
      if table.rowsOf d = [] then [] else [table.unitOf d] := by
  have hoccurs : d ∈ Hierarchy.idsOf table ↔ ¬ table.rowsOf d = [] := by
    rw [Hierarchy.mem_idsOf, Table.rowsOf, List.filter_eq_nil_iff]
    simp
  rw [Hierarchy.units_eq, List.filter_map]
  have hid : (fun u : DeploymentUnit => u.id == d) ∘
      table.unitOf = (· == d) := rfl
  rw [hid, List.filter_beq, (Hierarchy.nodup_idsOf table).count]
  by_cases h : table.rowsOf d = []
  · rw [if_pos h, if_neg fun hd => hoccurs.mp hd h]
    rfl
  · rw [if_neg h, if_pos (hoccurs.mpr h)]
    rfl

theorem filter_kept (units : List DeploymentUnit) (d : DeploymentId) :
    (kept units).filter (·.id == d) = kept (units.filter (·.id == d)) := by
  unfold kept
  exact List.filter_comm ..

/-- What is done about a report, seen by one who observes a deployment, is what would be done about
the units of that deployment. -/
theorem about_tableDeeds_filter (d : DeploymentId) (reference : String) (table : Table) :
    let own := (Hierarchy.ofTable table).units.filter (·.id == d)
    Journal.about d (tableDeeds p c t answer reference table) =
      noteSkipped reference own ++ ((kept own).map (answer.called ∘ createCall p c) ++
        (kept own).map (updateDeed p c t answer) ++
        ((kept own).filter (isRecorded p c t answer)).map (answer.called ∘ listCall p c)) := by
  intro own
  have hcreate := about_map (f := answer.called ∘ createCall p c) fun u => concerns_createCall d u
  have hupdate := about_map (f := updateDeed p c t answer) fun u => concerns_updateDeed d u
  have hlist := about_map (f := answer.called ∘ listCall p c) fun u => concerns_listCall d u
  unfold tableDeeds
  simp only [listCalls_tableOutcome, List.map_map, Journal.about_append, about_noteSkipped]
  -- the notes that open and close the report are about no deployment
  rw [Journal.about_cons rfl]
  simp only [Journal.about_append, hcreate, hupdate, hlist]
  rw [Journal.about_cons rfl, List.filter_comm, filter_kept]
  exact congrArg _ (List.append_nil _)

/-- **What is done about a deployment among all others** is what would be done about it alone. -/
theorem about_tableDeeds (d : DeploymentId) (reference : String) (table : Table) :
    Journal.about d (tableDeeds p c t answer reference table) =
      if table.rowsOf d = [] then []
      else unitDeeds p c t answer reference (table.unitOf d) := by
  rw [about_tableDeeds_filter, units_filter]
  by_cases h : table.rowsOf d = []
  · rw [if_pos h, if_pos h]
    rfl
  · rw [if_neg h, if_neg h, noteSkipped_eq]
    -- with one unit, each phase has it or has nothing
    unfold unitDeeds kept
    cases hm : (table.unitOf d).missingIdentity? with
    | some column => simp [hm]
    | none =>
      by_cases hr : isRecorded p c t answer (table.unitOf d) <;> simp [hm, hr]

/-! ## Two runs -/

/-- As far as a deployment goes, the world is steady: reports are of the same trial whenever the
time is asked for, and each call about the deployment has its one answer. Calls about others may be
answered in any way. -/
structure World.Steady (w : World) (p : Pipeline) (d : DeploymentId) (t : Trial)
    (answer : Answers) : Prop where
  trial : ∀ j, Trial.at p.trialNumber (w.now j) = t
  answer : ∀ j call, call.concerns d → (w.call j call).2 = answer call

/-- What an observer of a deployment sees of a report, in a world that is steady. -/
theorem World.Steady.about_run {w : World} {d : DeploymentId} (h : w.Steady p d t answer)
    {j : Journal} {reference : String} {table : Table}
    (hload : (w.load j reference).2 = .ok table) :
    Journal.about d ((processReport p c reference).run w j).1 =
      if table.rowsOf d = [] then []
      else unitDeeds p c t answer reference (table.unitOf d) := by
  obtain ⟨i, f, hf, hdeeds, -⟩ := processReport_run (p := p) (c := c) hload
  -- of the answers that the world gave, those that matter are the ones it always gives
  have hsame : ∀ call : Call, call.concerns d → f call = answer call := by
    intro call hcall
    obtain ⟨k, hk⟩ := hf call
    rw [hk, h.answer k call hcall]
  rw [← Journal.about_deeds, hdeeds, h.trial i]
  show Journal.about d (tableDeeds p c t f reference table) = _
  rw [about_tableDeeds]
  by_cases hrows : table.rowsOf d = []
  · rw [if_pos hrows, if_pos hrows]
  · rw [if_neg hrows, if_neg hrows]
    exact unitDeeds_congr (u := table.unitOf d) hsame reference

/-- Whether a deployment is left out can be told from its rows. -/
theorem World.Steady.skips_run {w : World} {d : DeploymentId} (h : w.Steady p d t answer)
    {j : Journal} {reference column : String} {table : Table}
    (hload : (w.load j reference).2 = .ok table) :
    ((processReport p c reference).run w j).1.Skips d column ↔
      (table.unitOf d).missingIdentity? = some column := by
  rw [← Journal.skips_about, h.about_run hload]
  by_cases hrows : table.rowsOf d = []
  · have hnone : (table.unitOf d).missingIdentity? = none := by
      unfold DeploymentUnit.missingIdentity?
      rw [Table.rows_unitOf, hrows]
      rfl
    rw [if_pos hrows, hnone]
    simp [Journal.Skips]
  · rw [if_neg hrows]
    exact skips_unitDeeds (u := table.unitOf d)

/-- **Deployments do not see each other.** Two reports with the same rows for a deployment, each
loaded in a world that is steady as far as the deployment goes, lead to the same calls about it with
the same answers, and it is left out of both, because of the same column, or of neither. -/
theorem processReport_isolated {w₁ w₂ : World} {j₁ j₂ : Journal} {reference₁ reference₂ : String}
    {table₁ table₂ : Table} {d : DeploymentId}
    (hload₁ : (w₁.load j₁ reference₁).2 = .ok table₁)
    (hload₂ : (w₂.load j₂ reference₂).2 = .ok table₂)
    (hrows : table₁.rowsOf d = table₂.rowsOf d)
    (hw₁ : w₁.Steady p d t answer) (hw₂ : w₂.Steady p d t answer) :
    ((processReport p c reference₁).run w₁ j₁).1.answeredCalls.filter (·.1.concerns d) =
        ((processReport p c reference₂).run w₂ j₂).1.answeredCalls.filter (·.1.concerns d) ∧
      ∀ column, ((processReport p c reference₁).run w₁ j₁).1.Skips d column ↔
        ((processReport p c reference₂).run w₂ j₂).1.Skips d column := by
  have hunit : table₁.unitOf d = table₂.unitOf d := congrArg (DeploymentUnit.mk d.1 d.2) hrows
  constructor
  · rw [← Journal.answeredCalls_about, ← Journal.answeredCalls_about, hw₁.about_run hload₁,
      hw₂.about_run hload₂, hrows, hunit]
    split
    · rfl
    · exact answeredCalls_unitDeeds _ _ _
  · intro column
    rw [hw₁.skips_run hload₁, hw₂.skips_run hload₂, hunit]

/-- A deployment that has a report to itself, and one in which it comes after a deployment that is
left out and before one that lacks a figure and whose calls the service refuses. -/
theorem processReport_isolated_among_faults :
    let own : Row := Metric.all.foldl (fun r m => r.setMeasure m ⟨some 2, some 1⟩)
      { ns := "shop", deployment := "cart", container := "web", image := "web:1" }
    let unnamed : Row := { ns := "bank", deployment := "cart", container := "api" }
    let refused : Row := { own with deployment := "till", memoryRss := {} }
    let d : DeploymentId := ("shop", "cart")
    let alone := World.still ⟨[own, own]⟩ fun _ => .ok ⟨201, ""⟩
    let among := World.still ⟨[unnamed, own, refused, own]⟩ fun call =>
      .ok ⟨if call.concerns d then 201 else 503, ""⟩
    let before := (processReport {} ⟨"", none, "org", "cluster", none⟩ "a.csv").run alone []
    let after := (processReport {} ⟨"", none, "org", "cluster", none⟩ "b.csv").run among []
    before.1.answeredCalls.filter (·.1.concerns d) = after.1.answeredCalls.filter (·.1.concerns d) ∧
      ∀ column, before.1.Skips d column ↔ after.1.Skips d column := by
  intro own unnamed refused d alone among before after
  have hrows : Table.rowsOf ⟨[own, own]⟩ d = Table.rowsOf ⟨[unnamed, own, refused, own]⟩ d := rfl
  have halone : alone.Steady {} d (.at 98 ⟨0, 0⟩) fun _ => .ok ⟨201, ""⟩ :=
    ⟨fun _ => rfl, fun _ _ _ => rfl⟩
  have hamong : among.Steady {} d (.at 98 ⟨0, 0⟩) fun _ => .ok ⟨201, ""⟩ := by
    refine ⟨fun _ => rfl, fun _ call hcall => ?_⟩
    show Except.ok (⟨if call.concerns d then 201 else 503, ""⟩ : Response) = _
    rw [if_pos hcall]
  exact processReport_isolated rfl rfl hrows halone hamong

end UsageFeed
