import UsageFeed.Proofs.Phases

/-!
# `UsageFeed.Proofs.CallSequence` — which calls an event leads to

The calls for an event are read off the reports, one segment for each, with nothing taken from the
run but the answers to the updates. The segments are stated in terms of rows, not of the functions
that the phases are made of.

## Contents
- **What a deployment asks for.** `Row.isNamed`, `updateCall?` and `isListed`, each over the rows or
  the answers alone, with their agreement with the phases.
- **Segments.** `callsOf`, the calls for the deployments of one report, and `answeredCalls_tableDeeds`.
- **Events.** `processEvent_calls`.
-/

namespace UsageFeed

open Service (Call Response)
open Report (DeploymentUnit Hierarchy Table Row ContainerMetrics)

/-! ## What a deployment asks for -/

/-- Whether a row gives both its container and its image. -/
def Report.Row.isNamed (r : Row) : Bool := r.container ≠ "" && r.image ≠ ""

/-- Whether an answer is a response with a status from 200 to 299. -/
def isAccepted : Except Failure Response → Bool
  | .ok r => 200 ≤ r.status && r.status ≤ 299
  | .error _ => false

section Deployment

variable (p : Pipeline) (c : Context) (t : Trial) (answer : Answers)

/-- The call with the results of a deployment, if all of its rows have all of their figures. -/
def updateCall? (u : DeploymentUnit) : Option Call :=
  (u.rows.mapM fun r : Row => r.containerMetrics.toOption).map fun metrics =>
    .update (.of c p.separator t u.ns u.deployment metrics)

/-- Whether recommendations are asked for: always, or else if the results were accepted. -/
def isListed (u : DeploymentUnit) : Bool :=
  p.listAfterFailedUpdate || (updateCall? p c t u).any fun call => isAccepted (answer call)

end Deployment

variable {p : Pipeline} {c : Context} {t : Trial} {answer : Answers}

theorem outcome_eq_success (a : Except Failure Response) :
    (Service.outcome a == .success) = isAccepted a := by
  cases a with
  | error f => rfl
  | ok r =>
    unfold Service.outcome isAccepted Response.isSuccess Service.isSuccess
    by_cases h : 200 ≤ r.status ∧ r.status < 300
    · have h' : r.status ≤ 299 := Nat.le_of_lt_succ h.2
      simp [h, h']
    · have h' : ¬ (200 ≤ r.status ∧ r.status ≤ 299) :=
        fun hr => h ⟨hr.1, Nat.lt_succ_of_le hr.2⟩
      simp only [← Bool.decide_and, h, h', decide_false, Bool.false_eq_true, if_false]
      rfl

theorem missingIdentity?_isNone (r : Row) : r.missingIdentity?.isNone = r.isNamed := by
  unfold Report.Row.missingIdentity? Report.Row.isNamed
  by_cases hc : r.container = ""
  · simp [hc]
  · by_cases hi : r.image = "" <;> simp [hc, hi]

theorem unit_missingIdentity?_isNone (u : DeploymentUnit) :
    u.missingIdentity?.isNone = u.rows.all Row.isNamed := by
  unfold Report.DeploymentUnit.missingIdentity?
  induction u.rows with
  | nil => rfl
  | cons r more ih =>
    rw [List.findSome?_cons, List.all_cons, ← missingIdentity?_isNone, ← ih]
    cases r.missingIdentity? <;> rfl

/-- The deployments that are not left out are those whose rows are all named. -/
theorem kept_eq (units : List DeploymentUnit) :
    kept units = units.filter (·.rows.all Row.isNamed) := by
  unfold kept
  exact List.filter_congr fun u _ => unit_missingIdentity?_isNone u

theorem containerMetricsOf_toOption (rows : List Row) :
    (Report.containerMetricsOf rows).toOption =
      rows.mapM fun r : Row => r.containerMetrics.toOption := by
  induction rows with
  | nil => rfl
  | cons r more ih =>
    rw [List.mapM_cons, ← ih, Report.containerMetricsOf]
    cases r.containerMetrics with
    | error f => rfl
    | ok metrics => cases Report.containerMetricsOf more <;> rfl

theorem updateCall?_eq (u : DeploymentUnit) :
    updateCall? p c t u = (updateFor p c t u).toOption.map .update := by
  unfold updateCall? updateFor
  rw [← containerMetricsOf_toOption]
  cases Report.containerMetricsOf u.rows <;> rfl

theorem isRecorded_eq (u : DeploymentUnit) :
    isRecorded p c t answer u = isListed p c t answer u := by
  unfold isRecorded isListed
  rw [updateCall?_eq]
  cases updateFor p c t u with
  | error f => simp [Except.toOption]
  | ok results => simp [Except.toOption, outcome_eq_success, Bool.or_comm]

/-! ## Segments -/

/-- The calls for deployments, given what the service says: one after another the calls that create,
the calls that update and the calls that list. -/
def callsOf (p : Pipeline) (c : Context) (t : Trial) (answer : Answers)
    (units : List DeploymentUnit) : List Call :=
  let left := units.filter (·.rows.all Row.isNamed)
  left.map (createCall p c) ++ left.filterMap (updateCall? p c t) ++
    (left.filter (isListed p c t answer)).map (listCall p c)

/-- The calls that one report leads to. -/
def Report.Visit.calls (p : Pipeline) (c : Context) (v : Report.Visit) : List Call :=
  match v.result with
  | .ok table => callsOf p c v.trial v.answer (Hierarchy.ofTable table).units
  | .error _ => []

/-- Calls with what the service says to each. -/
def Answers.pairs (answer : Answers) (calls : List Call) : List (Call × Except Failure Response) :=
  calls.map fun call => (call, answer call)

theorem pairs_append (a b : List Call) :
    answer.pairs (a ++ b) = answer.pairs a ++ answer.pairs b :=
  List.map_append

theorem answeredCalls_called (calls : List Call) :
    Journal.answeredCalls (calls.map answer.called) = answer.pairs calls := by
  unfold Journal.answeredCalls Answers.pairs
  rw [List.filterMap_map, ← List.filterMap_eq_map]
  rfl

theorem answeredCalls_noteSkipped (reference : String) (units : List DeploymentUnit) :
    Journal.answeredCalls (noteSkipped reference units) = [] := by
  refine List.filterMap_eq_nil_iff.mpr fun o ho => ?_
  obtain ⟨u, _, column, rfl⟩ := mem_noteSkipped ho
  rfl

theorem answeredCalls_updateDeeds (units : List DeploymentUnit) :
    Journal.answeredCalls (units.map (updateDeed p c t answer)) =
      answer.pairs (units.filterMap (updateCall? p c t)) := by
  unfold Journal.answeredCalls Answers.pairs
  rw [List.filterMap_map, List.map_filterMap]
  congr 1
  funext u
  rw [updateCall?_eq]
  simp only [Function.comp_apply, updateDeed]
  cases updateFor p c t u <;> rfl

/-- **The calls for a report that has been loaded.** -/
theorem answeredCalls_tableDeeds (reference : String) (table : Table) :
    Journal.answeredCalls (tableDeeds p c t answer reference table) =
      answer.pairs (callsOf p c t answer (Hierarchy.ofTable table).units) := by
  have hlisted : isRecorded p c t answer = isListed p c t answer := funext isRecorded_eq
  unfold tableDeeds callsOf
  simp only [Journal.answeredCalls_append, answeredCalls_noteSkipped, Journal.answeredCalls_cons,
    answeredCalls_called, answeredCalls_updateDeeds, listCalls_tableOutcome, hlisted, pairs_append,
    kept_eq]
  exact List.append_nil _

/-! ## Loads -/

/-- No report is asked for while another is worked through. -/
theorem loads_tableDeeds (reference : String) (table : Table) :
    Journal.loads (tableDeeds p c t answer reference table) = [] := by
  refine List.filterMap_eq_nil_iff.mpr (forall_mem_tableDeeds ?_ ?_ ?_ ?_ ?_) <;> intros <;> rfl

/-! ## Events -/

theorem answeredCalls_visit (v : Report.Visit) :
    Journal.answeredCalls (v.deeds p c) = v.answer.pairs (v.calls p c) := by
  unfold Report.Visit.deeds Report.Visit.calls
  rw [Journal.answeredCalls_cons]
  cases v.result with
  | ok table => exact answeredCalls_tableDeeds _ _
  | error f => rfl

theorem loads_visit (v : Report.Visit) :
    Journal.loads (v.deeds p c) = [(v.reference, v.result)] := by
  unfold Report.Visit.deeds
  rw [Journal.loads_cons]
  cases v.result with
  | ok table =>
    rw [loads_tableDeeds]
    rfl
  | error f => rfl

theorem outcome_reference (v : Report.Visit) : (v.outcome p c).reference = v.reference := by
  unfold Report.Visit.outcome
  cases v.result <;> rfl

theorem answeredCalls_visits (visits : List Report.Visit) :
    Journal.answeredCalls (visits.flatMap (·.deeds p c)) =
      visits.flatMap fun v => v.answer.pairs (v.calls p c) := by
  induction visits with
  | nil => rfl
  | cons v more ih =>
    rw [List.flatMap_cons, Journal.answeredCalls_append, ih, answeredCalls_visit, List.flatMap_cons]

theorem loads_visits (visits : List Report.Visit) :
    Journal.loads (visits.flatMap (·.deeds p c)) =
      visits.map fun v => (v.reference, v.result) := by
  induction visits with
  | nil => rfl
  | cons v more ih =>
    rw [List.flatMap_cons, Journal.loads_append, ih, loads_visit]
    rfl

/-- **Which calls an event leads to.** In every world there is one visit for each file, in order, with
what came when the file was asked for, and the calls are those of the visits, one after another. -/
theorem processEvent_calls (w : World) (j : Journal) (p : Pipeline) (c : Context)
    (files : List String) :
    ∃ visits : List Report.Visit, (∀ v ∈ visits, v.Of w p) ∧ visits.map (·.reference) = files ∧
      ((processEvent p c files).run w j).1.loads = visits.map (fun v => (v.reference, v.result)) ∧
      ((processEvent p c files).run w j).1.answeredCalls =
        visits.flatMap (fun v => v.answer.pairs (v.calls p c)) ∧
      ((processEvent p c files).run w j).2.reports.map (·.reference) = files := by
  obtain ⟨visits, hv, hrefs, hdeeds, hresult⟩ :=
    processEvent_yields (w := w) (p := p) (c := c) files j
  have hopen : Journal.loads (openingOf c files) = [] ∧
      Journal.answeredCalls (openingOf c files) = [] := by
    unfold openingOf
    split <;> exact ⟨rfl, rfl⟩
  -- neither the opening nor the closing of the event loads or calls
  refine ⟨visits, hv, hrefs, ?_, ?_, ?_⟩
  · rw [← Journal.loads_deeds, hdeeds, Journal.loads_append, Journal.loads_append, hopen.1,
      loads_visits]
    exact List.append_nil _
  · rw [← Journal.answeredCalls_deeds, hdeeds, Journal.answeredCalls_append,
      Journal.answeredCalls_append, hopen.2, answeredCalls_visits]
    exact List.append_nil _
  · rw [hresult, List.map_map, ← hrefs]
    exact List.map_congr_left fun v _ => outcome_reference v

end UsageFeed
