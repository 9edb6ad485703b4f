import Mathlib.Data.List.Nodup
import UsageFeed.Pipeline
import UsageFeed.Proofs.Conversation
import UsageFeed.Proofs.Grouping

/-!
# `UsageFeed.Proofs.Phases` — what the phases of a report come to

Each phase is run in an arbitrary world. Within one report no call is made twice, so what the world
answered is a function of the call (`Answers`), and the deeds and the result of a phase are functions
of those answers.

## Contents
- **Distinct calls.** The calls for deployments that differ are different.
- **The phases.** `dispatchAll_yields`, which serves the first and the last phase, and
  `updateAll_yields`.
- **A report.** `Report.Visit`, what one report met with, its deeds and its outcome;
  `processReport_run`.
- **An event.** `processEvent_yields`: one visit for each file, in order.
-/

namespace UsageFeed

open Service (Call Response)
open Report (DeploymentUnit DeploymentId Hierarchy Table)

variable {w : World} {p : Pipeline} {c : Context} {t : Trial}

/-! ## Distinct calls -/

/-- The deployments that a call is about. -/
def Service.Call.ids : Call → List DeploymentId
  | .create q => [(q.ns, q.deployment)]
  | .update r => r.deployments.map fun d => (d.ns, d.deployment)
  | .list q => [(q.ns, q.deployment)]

/-- Results of a deployment are made of the figures of all its rows. -/
theorem eq_of_updateFor {u : DeploymentUnit} {r : UpdateResults} (h : updateFor p c t u = .ok r) :
    ∃ metrics, Report.containerMetricsOf u.rows = .ok metrics ∧
      r = .of c p.separator t u.ns u.deployment metrics := by
  unfold updateFor at h
  cases hm : Report.containerMetricsOf u.rows with
  | error f => simp [hm, Except.map] at h
  | ok metrics =>
    have hr : UpdateResults.of c p.separator t u.ns u.deployment metrics = r := by
      simpa [hm, Except.map] using h
    exact ⟨metrics, rfl, hr.symm⟩

theorem ids_update {u : DeploymentUnit} {r : UpdateResults} (h : updateFor p c t u = .ok r) :
    (Call.update r).ids = [u.id] := by
  obtain ⟨metrics, -, rfl⟩ := eq_of_updateFor h
  rfl

/-- Calls made of deployments that differ are different. -/
theorem nodup_map_of_ids {units : List DeploymentUnit} {f : DeploymentUnit → Call}
    (hf : ∀ u, (f u).ids = [u.id]) (h : (units.map DeploymentUnit.id).Nodup) :
    (units.map f).Nodup := by
  refine List.Nodup.of_map (fun call => call.ids) ?_
  have hids : (units.map f).map (fun call => call.ids) =
      (units.map DeploymentUnit.id).map fun d => [d] := by
    simp only [List.map_map]
    exact List.map_congr_left fun u _ => hf u
  rw [hids]
  exact h.map fun a b hab => List.singleton_inj.mp hab

/-! ## The phases -/

/-- What is noted about a call and its answer. -/
def Answers.called (answer : Answers) (call : Call) : Occurrence := .called call (answer call)

/-- The tally with one more answer. -/
def Tally.note (t : Tally) (a : Except Failure Response) : Tally :=
  t.record (Service.outcome a == .success)

/-- Makes calls one after another. -/
def dispatchAll (t : Tally) : List Call → Episode Tally
  | [] => return t
  | call :: more => do
    let ok ← dispatch call
    dispatchAll (t.record ok) more

theorem createAll_eq (t : Tally) (units : List DeploymentUnit) :
    createAll p c t units = dispatchAll t (units.map fun u => .create (createFor p c u)) := by
  induction units generalizing t with
  | nil => rfl
  | cons u more ih => simp only [createAll, List.map_cons, dispatchAll, ih]

theorem listAll_eq (t : Tally) (experiments : List Experiment) :
    listAll t experiments = dispatchAll t (experiments.map fun e => .list (.of e)) := by
  induction experiments generalizing t with
  | nil => rfl
  | cons e more ih => simp only [listAll, List.map_cons, dispatchAll, ih]

theorem dispatch_yields (call : Call) :
    (dispatch call).Yields w fun d ok => ∃ i,
      d = [.called call (w.call i call).2] ∧
      ok = (Service.outcome (w.call i call).2 == .success) := by
  refine (Episode.yields_askService call).bind ?_
  rintro _ a ⟨rfl, i, rfl⟩
  exact Episode.yields_pure ⟨i, rfl, rfl⟩

open Classical in
/-- **Calls that are all different, one after another.** -/
theorem dispatchAll_yields {calls : List Call} (h : calls.Nodup) (t : Tally) :
    (dispatchAll t calls).Yields w fun d r => ∃ answer, w.Gives answer ∧
      d = calls.map answer.called ∧ r = (calls.map answer).foldl Tally.note t := by
  induction calls generalizing t with
  | nil => exact Episode.yields_pure ⟨_, w.gives_at [], rfl, rfl⟩
  | cons call more ih =>
    obtain ⟨hnot, h⟩ := List.nodup_cons.mp h
    refine (dispatch_yields call).bind ?_
    rintro _ _ ⟨i, rfl, rfl⟩
    refine (ih h _).mono ?_
    rintro _ _ ⟨answer, hw, rfl, rfl⟩
    -- the first call does not come again, so its answer can be put into those for the rest
    have hsame : ∀ d ∈ more, Function.update answer call (w.call i call).2 d = answer d := by
      intro d hd
      exact Function.update_of_ne (fun he : d = call => hnot (he ▸ hd)) _ _
    refine ⟨Function.update answer call (w.call i call).2, hw.update i call, ?_, ?_⟩
    · have hmore : more.map (Answers.called (Function.update answer call (w.call i call).2)) =
          more.map answer.called :=
        List.map_congr_left fun d hd => by simp only [Answers.called, hsame d hd]
      rw [List.map_cons, hmore]
      simp [Answers.called]
    · rw [List.map_cons, List.foldl_cons, List.map_congr_left hsame, Function.update_self]
      rfl

/-! ### The second phase -/

section Update

variable (p c t) (answer : Answers)

/-- What the second phase does about a deployment. -/
def updateDeed (u : DeploymentUnit) : Occurrence :=
  match updateFor p c t u with
  | .ok results => answer.called (.update results)
  | .error f => .updateSkipped (experimentFor p c u) f

/-- Whether a deployment's experiment is kept for the last phase. -/
def isRecorded (u : DeploymentUnit) : Bool :=
  match updateFor p c t u with
  | .ok results =>
    Service.outcome (answer (.update results)) == .success || p.listAfterFailedUpdate
  | .error _ => p.listAfterFailedUpdate

/-- What the second phase comes to with one more deployment. -/
def Updates.visit (s : Updates) (u : DeploymentUnit) : Updates :=
  match updateFor p c t u with
  | .ok results =>
    { s with tally := s.tally.note (answer (.update results)) }.keep
      (isRecorded p c t answer u) (experimentFor p c u)
  | .error f =>
    { s with skipped := s.skipped + 1, errors := s.errors ++ [f.message] }.keep
      (isRecorded p c t answer u) (experimentFor p c u)

theorem keep_experiments (s : Updates) (kept : Bool) (e : Experiment) :
    (s.keep kept e).experiments = s.experiments ++ if kept then [e] else [] := by
  cases kept with
  | false => exact (List.append_nil _).symm
  | true => rfl

@[simp] theorem keep_tally (s : Updates) (kept : Bool) (e : Experiment) :
    (s.keep kept e).tally = s.tally := by
  cases kept <;> rfl

@[simp] theorem keep_skipped (s : Updates) (kept : Bool) (e : Experiment) :
    (s.keep kept e).skipped = s.skipped := by
  cases kept <;> rfl

@[simp] theorem keep_errors (s : Updates) (kept : Bool) (e : Experiment) :
    (s.keep kept e).errors = s.errors := by
  cases kept <;> rfl

theorem experiments_foldl_visit (s : Updates) (units : List DeploymentUnit) :
    (units.foldl (Updates.visit p c t answer) s).experiments =
      s.experiments ++ (units.filter (isRecorded p c t answer)).map (experimentFor p c) := by
  induction units generalizing s with
  | nil => exact (List.append_nil _).symm
  | cons u more ih =>
    have hvisit : (s.visit p c t answer u).experiments =
        s.experiments ++ if isRecorded p c t answer u then [experimentFor p c u] else [] := by
      unfold Updates.visit
      split <;> rw [keep_experiments]
    rw [List.foldl_cons, ih, hvisit]
    by_cases h : isRecorded p c t answer u <;> simp [h]

/-- Of the answers, the second phase reads for a deployment the one to its own update. -/
theorem update_congr {f g : Answers} {u : DeploymentUnit}
    (h : ∀ results, updateFor p c t u = .ok results → f (.update results) = g (.update results)) :
    updateDeed p c t f u = updateDeed p c t g u ∧
      isRecorded p c t f u = isRecorded p c t g u ∧
      ∀ s, Updates.visit p c t f s u = Updates.visit p c t g s u := by
  cases hu : updateFor p c t u with
  | error e => simp [updateDeed, Updates.visit, isRecorded, hu]
  | ok results => simp [updateDeed, Updates.visit, isRecorded, Answers.called, hu, h results hu]

end Update

/-- One deployment in the second phase: `answer` holds what the world said of its results. -/
theorem updateAll_cons_yields {s : Updates} {u : DeploymentUnit} {more : List DeploymentUnit}
    {Q : Journal → Updates → Prop}
    (h : ∀ i, (updateAll p c t (s.visit p c t (fun call => (w.call i call).2) u) more).Yields w
      fun d r => Q (updateDeed p c t (fun call => (w.call i call).2) u :: d) r) :
    (updateAll p c t s (u :: more)).Yields w Q := by
  rw [updateAll]
  cases hu : updateFor p c t u with
  | error f =>
    refine Episode.yields_happen_bind ?_
    have hi := h []
    simp only [updateDeed, Updates.visit, isRecorded, hu] at hi
    exact hi
  | ok results =>
    refine (dispatch_yields _).bind ?_
    rintro _ _ ⟨i, rfl, rfl⟩
    have hi := h i
    simp only [updateDeed, Updates.visit, isRecorded, hu] at hi
    exact hi

open Classical in
/-- Answers for the deployments of `more` leave the answer to another one's update open. -/
theorem exists_answers_cons {answer : Answers} (hw : w.Gives answer) (p : Pipeline) (c : Context)
    (t : Trial) {u : DeploymentUnit} {more : List DeploymentUnit}
    (hu : u.id ∉ more.map DeploymentUnit.id) (i : Journal) :
    ∃ f, w.Gives f ∧
      (∀ results, updateFor p c t u = .ok results →
        f (.update results) = (w.call i (.update results)).2) ∧
      ∀ v ∈ more, ∀ results, updateFor p c t v = .ok results →
        f (.update results) = answer (.update results) := by
  cases hok : updateFor p c t u with
  | error e => exact ⟨answer, hw, by simp, fun _ _ _ _ => rfl⟩
  | ok results =>
    refine ⟨Function.update answer (.update results) (w.call i (.update results)).2,
      hw.update i _, ?_, ?_⟩
    · intro results' he
      cases he
      exact Function.update_self ..
    · intro v hv results' hok'
      refine Function.update_of_ne ?_ _ _
      intro he
      -- both calls would be about the same deployment
      have hids : [v.id] = [u.id] := by rw [← ids_update hok', ← ids_update hok, he]
      exact hu (List.singleton_inj.mp hids ▸ List.mem_map_of_mem hv)

/-- **The second phase over deployments that are all different.** -/
theorem updateAll_yields {units : List DeploymentUnit} (h : (units.map DeploymentUnit.id).Nodup)
    (s : Updates) :
    (updateAll p c t s units).Yields w fun d r => ∃ answer, w.Gives answer ∧
      d = units.map (updateDeed p c t answer) ∧
      r = units.foldl (Updates.visit p c t answer) s := by
  induction units generalizing s with
  | nil => exact Episode.yields_pure ⟨_, w.gives_at [], rfl, rfl⟩
  | cons u more ih =>
    obtain ⟨hnot, h⟩ := List.nodup_cons.mp h
    refine updateAll_cons_yields fun i => (ih h _).mono ?_
    rintro _ _ ⟨answer, hw, rfl, rfl⟩
    -- `f` answers the first update as the world did and the others as `answer` does
    obtain ⟨f, hf, hu, hmore⟩ := exists_answers_cons hw p c t hnot i
    obtain ⟨hdu, -, hvu⟩ := update_congr p c t (g := fun call => (w.call i call).2) hu
    have hdm : more.map (updateDeed p c t f) = more.map (updateDeed p c t answer) :=
      List.map_congr_left fun v hv => (update_congr p c t (hmore v hv)).1
    have hvm : ∀ s, more.foldl (Updates.visit p c t f) s =
        more.foldl (Updates.visit p c t answer) s :=
      fun s => List.foldl_ext _ _ _ fun s v hv => (update_congr p c t (hmore v hv)).2.2 s
    refine ⟨f, hf, ?_, ?_⟩
    · rw [List.map_cons, hdm, hdu]
    · rw [List.foldl_cons, hvm, hvu]

/-! ## A report -/

/-- The first call for a deployment. -/
def createCall (p : Pipeline) (c : Context) (u : DeploymentUnit) : Call := .create (createFor p c u)

/-- The last call for a deployment. -/
def listCall (p : Pipeline) (c : Context) (u : DeploymentUnit) : Call :=
  .list (.of (experimentFor p c u))

/-- Answers to each operation from elsewhere. -/
def Answers.byOperation (create update list : Answers) : Answers
  | .create q => create (.create q)
  | .update r => update (.update r)
  | .list q => list (.list q)

theorem World.Gives.byOperation {create update list : Answers} (hc : w.Gives create)
    (hu : w.Gives update) (hl : w.Gives list) : w.Gives (create.byOperation update list) := by
  intro call
  cases call with
  | create q => exact hc _
  | update r => exact hu _
  | list q => exact hl _

theorem nodup_kept {units : List DeploymentUnit} (h : (units.map DeploymentUnit.id).Nodup) :
    ((kept units).map DeploymentUnit.id).Nodup :=
  h.sublist (List.filter_sublist.map _)

/-- The deployments that are left out, each with the column that it does not fill. -/
theorem noteSkipped_eq (reference : String) (units : List DeploymentUnit) :
    noteSkipped reference units =
      units.filterMap fun u =>
        u.missingIdentity?.map (.deploymentSkipped reference u.ns u.deployment) := by
  induction units with
  | nil => rfl
  | cons u more ih =>
    rw [noteSkipped, List.filterMap_cons, ih]
    cases u.missingIdentity? <;> rfl

/-- A deployment is either left out or kept. -/
theorem length_noteSkipped (reference : String) (units : List DeploymentUnit) :
    (noteSkipped reference units).length + (kept units).length = units.length := by
  have hkept : (fun u : DeploymentUnit => u.missingIdentity?.isNone) =
      fun u => decide ¬u.missingIdentity?.isSome := by
    funext u
    cases u.missingIdentity? <;> rfl
  have hskipped : (noteSkipped reference units).length =
      units.countP (·.missingIdentity?.isSome) := by
    rw [noteSkipped_eq, List.length_filterMap_eq_countP]
    simp only [Option.isSome_map]
  rw [hskipped, kept, hkept, ← List.countP_eq_length_filter, ← List.length_eq_countP_add_countP]

theorem mem_noteSkipped {reference : String} {units : List DeploymentUnit} {o : Occurrence}
    (h : o ∈ noteSkipped reference units) :
    ∃ u ∈ units, ∃ column, o = .deploymentSkipped reference u.ns u.deployment column := by
  rw [noteSkipped_eq] at h
  obtain ⟨u, hu, ho⟩ := List.mem_filterMap.mp h
  obtain ⟨column, _, rfl⟩ := Option.map_eq_some_iff.mp ho
  exact ⟨u, hu, column, rfl⟩

theorem deeds_noteSkipped (reference : String) (units : List DeploymentUnit) :
    Journal.deeds (noteSkipped reference units) = noteSkipped reference units := by
  refine List.filter_eq_self.mpr fun o ho => ?_
  obtain ⟨u, _, column, rfl⟩ := mem_noteSkipped ho
  rfl

section Table

variable (p c t) (answer : Answers) (reference : String) (table : Table)

/-- What a report comes to, once it is loaded. -/
def tableOutcome : ReportOutcome :=
  let units := (Hierarchy.ofTable table).units
  let left := kept units
  let updates := left.foldl (Updates.visit p c t answer) {}
  { reference := reference, phase := .done, deployments := units.length,
    skippedDeployments := (noteSkipped reference units).length,
    created := ((left.map (createCall p c)).map answer).foldl Tally.note {},
    updated := updates.tally, skippedUpdates := updates.skipped, updateErrors := updates.errors,
    listed := ((updates.experiments.map fun e => Call.list (.of e)).map answer).foldl Tally.note {},
    experiments := updates.experiments }

/-- What is done about a report, once it is loaded. -/
def tableDeeds : Journal :=
  let units := (Hierarchy.ofTable table).units
  let left := kept units
  let o := tableOutcome p c t answer reference table
  noteSkipped reference units ++ .reportOpened reference table.rows.length left.length ::
    ((left.map (createCall p c)).map answer.called ++ left.map (updateDeed p c t answer) ++
      (o.experiments.map fun e => Call.list (.of e)).map answer.called ++
      [.reportClosed reference o.deployments o.failedCalls o.skippedUpdates])

/-- The last calls are for the deployments that are kept up to then. -/
theorem listCalls_tableOutcome :
    (tableOutcome p c t answer reference table).experiments.map (fun e => Call.list (.of e)) =
      ((kept (Hierarchy.ofTable table).units).filter (isRecorded p c t answer)).map
        (listCall p c) := by
  unfold tableOutcome
  simp only [experiments_foldl_visit, List.nil_append, List.map_map]
  rfl

variable {p c t answer reference table} in
/-- What can be among the deeds for a report. -/
theorem forall_mem_tableDeeds {P : Occurrence → Prop}
    (hskipped : ∀ ns deployment column, P (.deploymentSkipped reference ns deployment column))
    (hopened : ∀ rows deployments, P (.reportOpened reference rows deployments))
    (hcalled : ∀ call a, P (.called call a)) (hnone : ∀ e f, P (.updateSkipped e f))
    (hclosed : ∀ deployments failed skipped, P (.reportClosed reference deployments failed skipped)) :
    ∀ o ∈ tableDeeds p c t answer reference table, P o := by
  intro o ho
  simp only [tableDeeds, List.mem_append, List.mem_cons, List.mem_map] at ho
  rcases ho with ho | rfl | ((⟨_, _, rfl⟩ | ⟨u, _, rfl⟩) | ⟨_, _, rfl⟩) | rfl | ho
  · obtain ⟨u, _, column, rfl⟩ := mem_noteSkipped ho
    exact hskipped _ _ _
  · exact hopened _ _
  · exact hcalled _ _
  · unfold updateDeed
    split
    · exact hcalled _ _
    · exact hnone _ _
  · exact hcalled _ _
  · exact hclosed _ _ _
  · exact absurd ho List.not_mem_nil

end Table

/-- **A report that has been loaded**, phase by phase. -/
theorem processTable_yields (reference : String) (table : Table) :
    (processTable p c reference table).Yields w fun d o => ∃ i answer, w.Gives answer ∧
      d = tableDeeds p c (.at p.trialNumber (w.now i)) answer reference table ∧
      o = tableOutcome p c (.at p.trialNumber (w.now i)) answer reference table := by
  have hkept := nodup_kept (Hierarchy.nodup_units table)
  unfold processTable
  -- phase by phase, each with answers of its own
  simp only [createAll_eq, listAll_eq]
  refine Episode.yields_happenAll_bind ?_
  refine Episode.yields_happen_bind ?_
  refine (dispatchAll_yields (nodup_map_of_ids (f := createCall p c) (fun _ => rfl) hkept) _).bind ?_
  rintro _ _ ⟨create, hc, rfl, rfl⟩
  refine Episode.yields_askTime.bind ?_
  rintro _ _ ⟨rfl, i, rfl⟩
  refine (updateAll_yields hkept _).bind ?_
  rintro _ _ ⟨update, hu, rfl, rfl⟩
  have hlists : (((kept (Hierarchy.ofTable table).units).foldl
      (Updates.visit p c (.at p.trialNumber (w.now i)) update) {}).experiments.map
      fun e => Call.list (.of e)).Nodup := by
    rw [experiments_foldl_visit, List.nil_append, List.map_map]
    exact nodup_map_of_ids (f := listCall p c) (fun _ => rfl)
      (hkept.sublist (List.filter_sublist.map _))
  refine (dispatchAll_yields hlists _).bind ?_
  rintro _ _ ⟨list, hl, rfl, rfl⟩
  refine Episode.yields_happen_bind ?_
  -- the second phase asks for updates only, so the answers to other calls do not matter to it
  have hvisit : Updates.visit p c (.at p.trialNumber (w.now i)) (create.byOperation update list) =
      Updates.visit p c (.at p.trialNumber (w.now i)) update := by
    funext s u
    exact (update_congr p c _ fun _ _ => rfl).2.2 s
  have hdeed : updateDeed p c (.at p.trialNumber (w.now i)) (create.byOperation update list) =
      updateDeed p c (.at p.trialNumber (w.now i)) update := by
    funext u
    exact (update_congr p c _ fun _ _ => rfl).1
  refine Episode.yields_pure ⟨i, create.byOperation update list, hc.byOperation hu hl, ?_, ?_⟩
  · unfold tableDeeds tableOutcome
    rw [hvisit, hdeed, deeds_noteSkipped]
    simp only [List.map_map, List.append_assoc, List.nil_append, List.append_nil]
    rfl
  · unfold tableOutcome
    rw [hvisit]
    simp only [List.map_map]
    rfl

/-- What one report met with: what came when it was asked for, and in case it was loaded the trial
and what the service said. -/
structure Report.Visit where
  reference : String
  result : Except Failure Table
  trial : Trial
  answer : Answers

/-- What is done about a report. -/
def Report.Visit.deeds (p : Pipeline) (c : Context) (v : Report.Visit) : Journal :=
  .loaded v.reference v.result ::
    match v.result with
    | .ok table => tableDeeds p c v.trial v.answer v.reference table
    | .error _ => []

/-- What a report comes to. -/
def Report.Visit.outcome (p : Pipeline) (c : Context) (v : Report.Visit) : ReportOutcome :=
  match v.result with
  | .ok table => tableOutcome p c v.trial v.answer v.reference table
  | .error f => { reference := v.reference, loadError := some f.message }

/-- The visit is to the world: the report, the time and the answers are the world's. -/
structure Report.Visit.Of (w : World) (p : Pipeline) (v : Report.Visit) : Prop where
  result : ∃ i, v.result = (w.load i v.reference).2
  trial : ∃ i, v.trial = .at p.trialNumber (w.now i)
  answer : w.Gives v.answer

theorem processReport_yields (reference : String) :
    (processReport p c reference).Yields w fun d o => ∃ v : Report.Visit, v.Of w p ∧
      v.reference = reference ∧ d = v.deeds p c ∧ o = v.outcome p c := by
  refine (Episode.yields_askReport reference).bind ?_
  rintro _ result ⟨rfl, i, hload⟩
  cases result with
  | ok table =>
    refine (processTable_yields reference table).mono ?_
    rintro _ _ ⟨k, answer, hw, rfl, rfl⟩
    exact ⟨⟨reference, .ok table, .at p.trialNumber (w.now k), answer⟩,
      ⟨⟨i, hload⟩, ⟨k, rfl⟩, hw⟩, rfl, rfl, rfl⟩
  | error f =>
    exact Episode.yields_pure ⟨⟨reference, .error f, .at p.trialNumber (w.now i), _⟩,
      ⟨⟨i, hload⟩, ⟨i, rfl⟩, w.gives_at i⟩, rfl, rfl, rfl⟩

/-- **A report that the world has at the moment it is asked for.** -/
theorem processReport_run {reference : String} {table : Table} {j : Journal}
    (h : (w.load j reference).2 = .ok table) :
    ∃ i answer, w.Gives answer ∧
      ((processReport p c reference).run w j).1.deeds =
        .loaded reference (.ok table) ::
          tableDeeds p c (.at p.trialNumber (w.now i)) answer reference table ∧
      ((processReport p c reference).run w j).2 =
        tableOutcome p c (.at p.trialNumber (w.now i)) answer reference table := by
  obtain ⟨i, answer, hw, hd, hr⟩ := processTable_yields (w := w) (p := p) (c := c) reference table
    (j ++ ((Episode.askReport reference).run w j).1)
  refine ⟨i, answer, hw, ?_, ?_⟩
  · rw [processReport, Episode.run_bind, Journal.deeds_append, ← hd]
    simp only [Episode.run_askReport, h, Journal.deeds_append, Journal.deeds_notes]
    rfl
  · rw [processReport, Episode.run_bind, ← hr]
    simp only [Episode.run_askReport, h]

/-! ## An event -/

theorem processReports_yields (files : List String) :
    (processReports p c files).Yields w fun d os => ∃ visits : List Report.Visit,
      (∀ v ∈ visits, v.Of w p) ∧ visits.map (·.reference) = files ∧
      d = visits.flatMap (·.deeds p c) ∧ os = visits.map (·.outcome p c) := by
  induction files with
  | nil => exact Episode.yields_pure ⟨[], by simp, rfl, rfl, rfl⟩
  | cons reference more ih =>
    refine (processReport_yields reference).bind ?_
    rintro _ _ ⟨v, hv, rfl, rfl, rfl⟩
    refine ih.bind ?_
    rintro _ _ ⟨visits, hvs, rfl, rfl, rfl⟩
    refine Episode.yields_pure ⟨v :: visits, List.forall_mem_cons.mpr ⟨hv, hvs⟩, rfl, ?_, rfl⟩
    rw [List.flatMap_cons, List.append_nil]

/-- What is noted when an event is opened. -/
def openingOf (c : Context) (files : List String) : Journal :=
  .eventOpened c :: if files.isEmpty then [.eventWithoutFiles] else []

/-- **An event**: one visit for each file, in order. -/
theorem processEvent_yields (files : List String) :
    (processEvent p c files).Yields w fun d o => ∃ visits : List Report.Visit,
      (∀ v ∈ visits, v.Of w p) ∧ visits.map (·.reference) = files ∧
      d = openingOf c files ++ visits.flatMap (·.deeds p c) ++ [.eventClosed] ∧
      o = ⟨c.requestId, visits.map (·.outcome p c)⟩ := by
  have hrest : (do
      let reports ← processReports p c files
      Episode.happen .eventClosed
      return ⟨c.requestId, reports⟩ : Episode EventOutcome).Yields w fun d o =>
        ∃ visits : List Report.Visit, (∀ v ∈ visits, v.Of w p) ∧
          visits.map (·.reference) = files ∧
          d = visits.flatMap (·.deeds p c) ++ [.eventClosed] ∧
          o = ⟨c.requestId, visits.map (·.outcome p c)⟩ := by
    refine (processReports_yields files).bind ?_
    rintro _ _ ⟨visits, hvs, rfl, rfl, rfl⟩
    refine Episode.yields_happen_bind ?_
    exact Episode.yields_pure ⟨visits, hvs, rfl, rfl, rfl⟩
  refine Episode.yields_happen_bind ?_
  -- without files there is one more occurrence, and then the same
  cases hfiles : files.isEmpty with
  | true =>
    refine Episode.yields_happen_bind ?_
    refine hrest.mono ?_
    rintro _ _ ⟨visits, hvs, hrefs, rfl, rfl⟩
    refine ⟨visits, hvs, hrefs, ?_, rfl⟩
    simp only [openingOf, hfiles, List.append_assoc]
    rfl
  | false =>
    refine hrest.mono ?_
    rintro _ _ ⟨visits, hvs, hrefs, rfl, rfl⟩
    refine ⟨visits, hvs, hrefs, ?_, rfl⟩
    simp only [openingOf, hfiles, List.append_assoc]
    rfl

end UsageFeed
