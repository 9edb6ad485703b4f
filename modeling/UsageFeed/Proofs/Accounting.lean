import Mathlib.Algebra.Ring.Nat
import UsageFeed.Proofs.CallSequence

/-!
# `UsageFeed.Proofs.Accounting` — what is counted is what was done

The tallies in the outcome of a report, the metrics and the log are kept in different places. All of
them are compared with one thing, the journal: the calls that were made with what came back, and the
deployments that were left out.

## Contents
- **Tallies.** `Tally.of`, the tally of a list of calls with their answers, and `tally_visit`: the
  tallies of a report are those of its own calls.
- **Skipped deployments.** `total_tableDeeds`, what adds up over the deeds for a report;
  `leftOut_visit`: there are as many skipped deployments as were left out.
- **Balance.** `ReportOutcome.Balanced`, how the numbers of one outcome fit each other; what one
  deployment of the second phase preserves (`Updates.Balanced.visit`) and what all of them come to.
- **Metrics.** The series of calls count calls (`growth_serviceCalls`, `growth_serviceLatency`), and
  a report is counted once, as processed or as one that did not load (`growth_visit`).
- **The log.** `callRecord`, the record of a call; `filter_logRecords`, and without the remarks
  `filter_logRecords_deeds`.
- **Events.** `processEvent_accounted`.
-/

namespace UsageFeed

open Service (Call Response Operation Outcome)
open Metering (Series growth)
open Report (DeploymentUnit Hierarchy Table)

variable {p : Pipeline} {c : Context} {t : Trial} {answer : Answers}

/-! ## Tallies -/

/-- The tally of calls with what came back: a call has failed unless a response with a status from
200 to 299 came. -/
def Tally.of (answered : List (Call × Except Failure Response)) : Tally :=
  ⟨answered.length, answered.countP fun x => !isAccepted x.2⟩

/-- The calls of an operation, with what came back. -/
def Journal.callsTo (op : Operation) (j : Journal) : List (Call × Except Failure Response) :=
  j.answeredCalls.filter (·.1.operation == op)

/-- What several tallies add up to. -/
def Tally.sum (ts : List Tally) : Tally := ⟨(ts.map (·.attempted)).sum, (ts.map (·.failed)).sum⟩

/-- The tally of an operation. -/
def ReportOutcome.tally (o : ReportOutcome) : Operation → Tally
  | .createExperiment => o.created
  | .updateResults => o.updated
  | .listRecommendations => o.listed

theorem Tally.foldl_note (t : Tally) (answers : List (Except Failure Response)) :
    answers.foldl Tally.note t =
      ⟨t.attempted + answers.length, t.failed + answers.countP (!isAccepted ·)⟩ := by
  induction answers generalizing t with
  | nil => rfl
  | cons a more ih =>
    rw [List.foldl_cons, ih, Tally.note, Tally.record, outcome_eq_success, List.countP_cons,
      List.length_cons]
    cases isAccepted a <;> simp <;> omega

/-- Answers noted one by one make up the tally of the calls. -/
theorem Tally.of_pairs (calls : List Call) :
    (calls.map answer).foldl Tally.note {} = .of (answer.pairs calls) := by
  rw [Tally.foldl_note, Tally.of, Answers.pairs]
  simp [List.countP_map, Function.comp_def]

/-- The results that the second phase sends are tallied one by one. -/
theorem tally_foldl_visit (s : Updates) (units : List DeploymentUnit) :
    (units.foldl (Updates.visit p c t answer) s).tally =
      ((units.filterMap (updateCall? p c t)).map answer).foldl Tally.note s.tally := by
  induction units generalizing s with
  | nil => rfl
  | cons u more ih =>
    rw [List.foldl_cons, ih, List.filterMap_cons, updateCall?_eq, Updates.visit]
    cases updateFor p c t u with
    | ok results => simp [Except.toOption]
    | error f => simp [Except.toOption]

/-- Of calls that are all of one operation, either all are taken or none. -/
theorem filter_operation {calls : List Call} {k : Operation}
    (h : ∀ call ∈ calls, call.operation = k) (op : Operation) :
    calls.filter (·.operation == op) = if op = k then calls else [] := by
  by_cases hop : op = k
  · rw [if_pos hop]
    refine List.filter_eq_self.mpr fun call hcall => ?_
    rw [h call hcall, hop]
    exact beq_self_eq_true k
  · rw [if_neg hop]
    refine List.filter_eq_nil_iff.mpr fun call hcall => ?_
    rw [h call hcall, beq_iff_eq]
    exact fun he => hop he.symm

/-- The calls for deployments, operation by operation. -/
theorem filter_callsOf (units : List DeploymentUnit) (op : Operation) :
    (callsOf p c t answer units).filter (·.operation == op) =
      let left := units.filter (·.rows.all Report.Row.isNamed)
      match op with
      | .createExperiment => left.map (createCall p c)
      | .updateResults => left.filterMap (updateCall? p c t)
      | .listRecommendations => (left.filter (isListed p c t answer)).map (listCall p c) := by
  have hcreate : ∀ {us : List DeploymentUnit}, ∀ call ∈ us.map (createCall p c),
      call.operation = .createExperiment := by
    intro us call hcall
    obtain ⟨u, _, rfl⟩ := List.mem_map.mp hcall
    rfl
  have hupdate : ∀ {us : List DeploymentUnit}, ∀ call ∈ us.filterMap (updateCall? p c t),
      call.operation = .updateResults := by
    intro us call hcall
    obtain ⟨u, _, hu⟩ := List.mem_filterMap.mp hcall
    obtain ⟨_, _, rfl⟩ := Option.map_eq_some_iff.mp hu
    rfl
  have hlist : ∀ {us : List DeploymentUnit}, ∀ call ∈ us.map (listCall p c),
      call.operation = .listRecommendations := by
    intro us call hcall
    obtain ⟨u, _, rfl⟩ := List.mem_map.mp hcall
    rfl
  unfold callsOf
  rw [List.filter_append, List.filter_append, filter_operation hcreate, filter_operation hupdate,
    filter_operation hlist]
  cases op with
  | createExperiment => exact (List.append_nil _).trans (List.append_nil _)
  | updateResults => exact List.append_nil _
  | listRecommendations => rfl

/-- **The tallies of a report are those of its calls.** -/
theorem tally_visit (v : Report.Visit) (op : Operation) :
    (v.outcome p c).tally op = .of (Journal.callsTo op (v.deeds p c)) := by
  have hpairs : Journal.callsTo op (v.deeds p c) =
      v.answer.pairs ((v.calls p c).filter (·.operation == op)) := by
    rw [Journal.callsTo, answeredCalls_visit, Answers.pairs, List.filter_map]
    rfl
  rw [hpairs, ← Tally.of_pairs]
  unfold Report.Visit.outcome Report.Visit.calls
  cases v.result with
  | error f => cases op <;> rfl
  | ok table =>
    -- recommendations are asked for what was recorded in the second phase
    have hlisted : isRecorded p c v.trial v.answer = isListed p c v.trial v.answer :=
      funext isRecorded_eq
    dsimp only
    rw [filter_callsOf, ← kept_eq]
    cases op with
    | createExperiment => rfl
    | updateResults => exact tally_foldl_visit _ _
    | listRecommendations =>
      dsimp only
      rw [← hlisted, ← @listCalls_tableOutcome _ _ _ _ v.reference]
      rfl

/-! ## Skipped deployments -/

/-- Whether a deployment is left out. -/
def Occurrence.leavesOut : Occurrence → Bool
  | .deploymentSkipped .. => true
  | _ => false

/-- How many deployments were left out. -/
def Journal.leftOut (j : Journal) : Nat := j.countP (·.leavesOut)

/-- What adds up over a journal, where neither calls nor deployments without results count, is for a
report what its skipped deployments, its opening and its closing add. -/
theorem total_tableDeeds {f : Journal → Nat} (happend : ∀ i j, f (i ++ j) = f i + f j)
    (hcalled : ∀ call a, f [.called call a] = 0) (hnone : ∀ e g, f [.updateSkipped e g] = 0)
    (reference : String) (table : Table) :
    let units := (Hierarchy.ofTable table).units
    let o := tableOutcome p c t answer reference table
    f (tableDeeds p c t answer reference table) = f (noteSkipped reference units) +
      f [.reportOpened reference table.rows.length (kept units).length] +
      f [.reportClosed reference o.deployments o.failedCalls o.skippedUpdates] := by
  have hnil : f [] = 0 := by
    have h := happend [] []
    rw [List.append_nil] at h
    omega
  have hzero : ∀ j : Journal, (∀ o ∈ j, f [o] = 0) → f j = 0 := by
    intro j h
    induction j with
    | nil => exact hnil
    | cons o j ih =>
      obtain ⟨ho, hj⟩ := List.forall_mem_cons.mp h
      rw [← List.singleton_append, happend, ho, ih hj]
  have hcalls : ∀ calls : List Call, f (calls.map answer.called) = 0 := by
    intro calls
    refine hzero _ fun o ho => ?_
    obtain ⟨call, _, rfl⟩ := List.mem_map.mp ho
    exact hcalled _ _
  have hupdates : ∀ units : List DeploymentUnit, f (units.map (updateDeed p c t answer)) = 0 := by
    intro units
    refine hzero _ fun o ho => ?_
    obtain ⟨u, _, rfl⟩ := List.mem_map.mp ho
    unfold updateDeed
    split
    · exact hcalled _ _
    · exact hnone _ _
  unfold tableDeeds
  rw [happend, ← List.singleton_append, happend, happend, happend, happend, hcalls, hupdates,
    hcalls]
  omega

/-- **The skipped deployments of a report are those that were left out.** -/
theorem leftOut_visit (v : Report.Visit) :
    (v.outcome p c).skippedDeployments = Journal.leftOut (v.deeds p c) := by
  unfold Report.Visit.outcome Report.Visit.deeds
  cases v.result with
  | error f => rfl
  | ok table =>
    have hall : Journal.leftOut (noteSkipped v.reference (Hierarchy.ofTable table).units) =
        (noteSkipped v.reference (Hierarchy.ofTable table).units).length := by
      refine List.countP_eq_length.mpr fun o ho => ?_
      obtain ⟨u, _, column, rfl⟩ := mem_noteSkipped ho
      rfl
    refine hall.symm.trans (Eq.symm ?_)
    exact total_tableDeeds (f := Journal.leftOut) (fun _ _ => List.countP_append) (fun _ _ => rfl)
      (fun _ _ => rfl) v.reference table

/-! ## Balance -/

/-- How the numbers in the outcome of a report fit each other. -/
structure ReportOutcome.Balanced (p : Pipeline) (o : ReportOutcome) : Prop where
  created : o.created.attempted + o.skippedDeployments = o.deployments
  updated : o.updated.attempted + o.skippedUpdates = o.created.attempted
  errors : o.updateErrors.length = o.skippedUpdates
  listed : o.listed.attempted = o.experiments.length
  /-- Recommendations are asked for either always or where the results were accepted. -/
  experiments :
    if p.listAfterFailedUpdate then o.experiments.length = o.created.attempted
    else o.experiments.length + o.updated.failed = o.updated.attempted

/-- How the numbers of the second phase fit each other after `n` deployments. -/
structure Updates.Balanced (p : Pipeline) (n : Nat) (s : Updates) : Prop where
  visited : s.tally.attempted + s.skipped = n
  errors : s.errors.length = s.skipped
  experiments :
    if p.listAfterFailedUpdate then s.experiments.length = n
    else s.experiments.length + s.tally.failed = s.tally.attempted

/-- **One more deployment keeps the balance.** -/
theorem Updates.Balanced.visit {n : Nat} {s : Updates} (h : s.Balanced p n) (u : DeploymentUnit) :
    (s.visit p c t answer u).Balanced p (n + 1) := by
  obtain ⟨hvisited, herrors, hexperiments⟩ := h
  unfold Updates.visit isRecorded
  cases updateFor p c t u with
  | ok results =>
    dsimp only
    constructor
    case visited =>
      simp only [keep_tally, keep_skipped, Tally.note, Tally.record]
      omega
    case errors => simpa using herrors
    case experiments =>
      -- the experiment is kept in any case or just if the results are accepted
      simp only [keep_tally, keep_experiments, Tally.note, Tally.record, List.length_append]
      cases hflag : p.listAfterFailedUpdate with
      | true =>
        simp only [hflag, if_true, Bool.or_true] at hexperiments ⊢
        exact congrArg (· + 1) hexperiments
      | false =>
        simp only [hflag, Bool.false_eq_true, if_false, Bool.or_false] at hexperiments ⊢
        cases Service.outcome (answer (.update results)) == .success with
        | true => simp; omega
        | false => simp; omega
  | error f =>
    dsimp only
    constructor
    case visited =>
      simp only [keep_tally, keep_skipped]
      omega
    case errors => simpa using herrors
    case experiments =>
      simp only [keep_tally, keep_experiments, List.length_append]
      cases hflag : p.listAfterFailedUpdate with
      | true =>
        simp only [hflag, if_true] at hexperiments ⊢
        exact congrArg (· + 1) hexperiments
      | false =>
        simp only [hflag, Bool.false_eq_true, if_false] at hexperiments ⊢
        exact hexperiments

/-- The second phase keeps the balance, whatever the service says. -/
theorem Updates.Balanced.foldl_visit {n : Nat} {s : Updates} (h : s.Balanced p n)
    (units : List DeploymentUnit) :
    (units.foldl (Updates.visit p c t answer) s).Balanced p (n + units.length) := by
  induction units generalizing n s with
  | nil => exact h
  | cons u more ih =>
    rw [List.length_cons, Nat.add_comm more.length, ← Nat.add_assoc]
    exact ih (h.visit u)

theorem Updates.balanced_start : Updates.Balanced p 0 {} where
  visited := rfl
  errors := rfl
  experiments := by split <;> rfl

theorem balanced_tableOutcome (reference : String) (table : Table) :
    (tableOutcome p c t answer reference table).Balanced p := by
  have hupdates : Updates.Balanced p (0 + (kept (Hierarchy.ofTable table).units).length)
      ((kept (Hierarchy.ofTable table).units).foldl (Updates.visit p c t answer) {}) :=
    Updates.balanced_start.foldl_visit _
  obtain ⟨hvisited, herrors, hexperiments⟩ := hupdates
  rw [Nat.zero_add] at hvisited hexperiments
  have hcreated : (tableOutcome p c t answer reference table).created.attempted =
      (kept (Hierarchy.ofTable table).units).length := by
    unfold tableOutcome
    dsimp only
    rw [Tally.of_pairs, Tally.of, Answers.pairs, List.length_map, List.length_map]
  constructor
  case created =>
    rw [hcreated, Nat.add_comm]
    exact length_noteSkipped _ _
  case updated => rw [hcreated]; exact hvisited
  case errors => exact herrors
  case listed =>
    unfold tableOutcome
    dsimp only
    rw [Tally.of_pairs, Tally.of, Answers.pairs, List.length_map, List.length_map]
  case experiments => rw [hcreated]; exact hexperiments

/-! ## Metrics -/

/-- A series that grows with certain calls and with nothing else counts those calls. -/
theorem growth_eq_countP {s : Series} {m : Call × Except Failure Response → Bool}
    (h : ∀ o : Occurrence, growth o.observed s = o.call?.toList.countP m) (j : Journal) :
    growth j.observed s = j.answeredCalls.countP m := by
  induction j with
  | nil => rfl
  | cons o j ih =>
    have ho : Journal.observed [o] = o.observed := List.append_nil _
    rw [← List.singleton_append, Journal.growth_append, ih, ho, h, List.singleton_append,
      Journal.answeredCalls_cons, List.countP_append]

/-- A counter of calls counts the calls of its operation that ended so. -/
theorem growth_serviceCalls (j : Journal) (op : Operation) (outcome : Outcome) :
    growth j.observed (.serviceCalls op outcome) =
      (j.callsTo op).countP fun x => Service.outcome x.2 == outcome := by
  rw [Journal.callsTo, List.countP_filter]
  refine growth_eq_countP (fun o => ?_) j
  cases o with
  | called call a =>
    by_cases hop : call.operation = op <;> by_cases hout : Service.outcome a = outcome <;>
      simp [growth, Occurrence.observed, Occurrence.call?, hop, hout]
  | loaded reference result => cases result <;> rfl
  | _ => rfl

/-- A latency is observed once for each call. -/
theorem growth_serviceLatency (j : Journal) (op : Operation) :
    growth j.observed (.serviceLatency op) = (j.callsTo op).length := by
  rw [Journal.callsTo, ← List.countP_eq_length_filter]
  refine growth_eq_countP (fun o => ?_) j
  cases o with
  | called call a =>
    by_cases hop : call.operation = op <;>
      simp [growth, Occurrence.observed, Occurrence.call?, hop]
  | loaded reference result => cases result <;> rfl
  | _ => rfl

/-- How the metrics of an operation divide its calls, which have this tally. -/
structure CallMetrics (j : Journal) (op : Operation) (t : Tally) : Prop where
  success : growth j.observed (.serviceCalls op .success) + t.failed = t.attempted
  failures : growth j.observed (.serviceCalls op .rejected) +
    growth j.observed (.serviceCalls op .transportError) = t.failed
  latency : growth j.observed (.serviceLatency op) = t.attempted

/-- **The metrics divide the calls in the journal.** -/
theorem callMetrics (j : Journal) (op : Operation) : CallMetrics j op (.of (j.callsTo op)) := by
  have hsuccess : ∀ xs : List (Call × Except Failure Response),
      xs.countP (fun x => Service.outcome x.2 == .success) + (Tally.of xs).failed = xs.length := by
    intro xs
    rw [List.length_eq_countP_add_countP fun x => Service.outcome x.2 == .success]
    simp [Tally.of, outcome_eq_success]
  have hfailures : ∀ xs : List (Call × Except Failure Response),
      xs.countP (fun x => Service.outcome x.2 == .rejected) +
        xs.countP (fun x => Service.outcome x.2 == .transportError) = (Tally.of xs).failed := by
    intro xs
    simp only [Tally.of, ← outcome_eq_success]
    induction xs with
    | nil => rfl
    | cons x more ih =>
      simp only [List.countP_cons]
      cases Service.outcome x.2 <;> simp <;> omega
  constructor
  case success =>
    rw [growth_serviceCalls]
    exact hsuccess _
  case failures =>
    rw [growth_serviceCalls, growth_serviceCalls]
    exact hfailures _
  case latency => exact growth_serviceLatency j op

/-- A report that is loaded is closed once. -/
theorem growth_tableDeeds (reference : String) (table : Table) :
    growth (Journal.observed (tableDeeds p c t answer reference table)) .reportsProcessed = 1 := by
  have hskipped : growth (Journal.observed
      (noteSkipped reference (Hierarchy.ofTable table).units)) .reportsProcessed = 0 := by
    refine Journal.growth_eq_zero fun o ho => ?_
    obtain ⟨u, _, column, rfl⟩ := mem_noteSkipped ho
    exact List.not_mem_nil
  have hcalled : ∀ call a,
      growth (Journal.observed [.called call a]) .reportsProcessed = 0 := by
    intro call a
    refine Journal.growth_eq_zero (List.forall_mem_singleton.mpr ?_)
    simp [Occurrence.observed]
  refine (total_tableDeeds (f := fun j => growth j.observed .reportsProcessed)
    (fun _ _ => Journal.growth_append ..) hcalled (fun _ _ => rfl) reference table).trans ?_
  rw [hskipped]
  rfl

/-- **A report is counted once**, as processed or as one that did not load. -/
theorem growth_visit (v : Report.Visit) :
    growth (Journal.observed (v.deeds p c)) .reportsProcessed =
        (if (v.outcome p c).loadError.isNone then 1 else 0) ∧
      growth (Journal.observed (v.deeds p c)) .reportLoadErrors =
        if (v.outcome p c).loadError.isNone then 0 else 1 := by
  unfold Report.Visit.deeds Report.Visit.outcome
  cases v.result with
  | error f => exact ⟨rfl, rfl⟩
  | ok table =>
    have hload : ∀ o ∈ tableDeeds p c v.trial v.answer v.reference table,
        Series.reportLoadErrors ∉ o.observed := by
      refine forall_mem_tableDeeds ?_ ?_ ?_ ?_ ?_ <;> intros <;> simp [Occurrence.observed]
    refine ⟨growth_tableDeeds v.reference table, ?_⟩
    exact Journal.growth_eq_zero (List.forall_mem_cons.mpr ⟨List.not_mem_nil, hload⟩)

/-! ## The log -/

/-- The kind of thing that a record is about. -/
def Log.Record.kind? (r : Log.Record) : Option String :=
  match r.fields.lookup "event" with
  | some (.text kind) => some kind
  | _ => none

/-- Whether a record is about a call of the service. -/
def Log.Record.isCall (r : Log.Record) : Bool :=
  r.component == .structured && r.kind? ∈ [some "service_response", some "service_call_failed"]

/-- The record of a call: a response is recorded as such whatever its status, and a call without one
as failed. -/
def callRecord (service : String) : Call × Except Failure Response → Log.Record
  | (call, .ok r) => Log.serviceResponse service call.operation call.experiment r
  | (call, .error f) => Log.serviceFailure service call.operation call.experiment f.message

/-- An occurrence has the record of its call, if it is one, and no other such record. -/
theorem filter_occurrence_logRecords (service : String) {o : Occurrence} (h : o.isNote = false) :
    (o.logRecords service).filter (·.isCall) = o.call?.toList.map (callRecord service) := by
  cases o with
  | noted r => cases h
  | called call answer => cases answer <;> rfl
  | loaded reference result => cases result <;> rfl
  | _ => rfl

theorem logRecords_append (service : String) {event : Option Context} {i : Journal}
    (h : ∀ o ∈ i, o.eventAfter event = event) (j : Journal) :
    Journal.logRecords service event (i ++ j) =
      Journal.logRecords service event i ++ Journal.logRecords service event j := by
  induction i with
  | nil => rfl
  | cons o i ih =>
    obtain ⟨hsame, hi⟩ := List.forall_mem_cons.mp h
    rw [List.cons_append, Journal.logRecords, Journal.logRecords, hsame, ih hi, List.append_assoc]

/-- **In the log of an event there is one record for each call**, in order. -/
theorem filter_logRecords (service : String) {event : Option Context} {j : Journal}
    (hnote : ∀ o ∈ j, o.isNote = false) (hevent : ∀ o ∈ j, o.eventAfter event = event) :
    (Journal.logRecords service event j).filter (·.2.isCall) =
      j.answeredCalls.map fun x => (event, callRecord service x) := by
  induction j with
  | nil => rfl
  | cons o j ih =>
    obtain ⟨ho, hnote⟩ := List.forall_mem_cons.mp hnote
    obtain ⟨hsame, hevent⟩ := List.forall_mem_cons.mp hevent
    rw [Journal.logRecords, hsame, List.filter_append, ih hnote hevent, List.filter_map,
      Function.comp_def, filter_occurrence_logRecords service ho, Journal.answeredCalls_cons,
      List.map_append, List.map_map]
    rfl

/-- Remarks that are not about calls may be left out. -/
theorem filter_logRecords_deeds (service : String) (event : Option Context) {j : Journal}
    (h : ∀ r, .noted r ∈ j → r.isCall = false) :
    (Journal.logRecords service event j).filter (·.2.isCall) =
      (Journal.logRecords service event j.deeds).filter (·.2.isCall) := by
  induction j generalizing event with
  | nil => rfl
  | cons o j ih =>
    have hrest := fun event => ih event fun r hr => h r (List.mem_cons_of_mem _ hr)
    cases hnote : o.isNote with
    | false =>
      rw [Journal.deeds_cons hnote, Journal.logRecords, Journal.logRecords, List.filter_append,
        List.filter_append, hrest]
    | true =>
      cases o with
      | noted r =>
        have hr : (Occurrence.logRecords service (.noted r)).filter (·.isCall) = [] :=
          List.filter_cons_of_neg (by simp [h r List.mem_cons_self])
        rw [Journal.logRecords, List.filter_append, hrest, List.filter_map, Function.comp_def, hr]
        rfl
      | _ => cases hnote

/-! ## Events -/

/-- How the outcome of a report and the metrics tell of its load. Of a report that did not load
nothing else is told, and no call is made for it. -/
def LoadAccounts (j : Journal) (o : ReportOutcome) : Except Failure Table → Prop
  | .ok _ =>
    o.loadError = none ∧
      growth j.observed .reportsProcessed = 1 ∧ growth j.observed .reportLoadErrors = 0
  | .error f =>
    o = { reference := o.reference, loadError := some f.message } ∧ j.answeredCalls = [] ∧
      growth j.observed .reportsProcessed = 0 ∧ growth j.observed .reportLoadErrors = 1

/-- How the outcome of a report agrees with the part of a journal that is about it. -/
structure ReportAccounts (p : Pipeline) (j : Journal) (o : ReportOutcome) : Prop where
  balanced : o.Balanced p
  tallies : ∀ op, o.tally op = .of (j.callsTo op)
  skipped : o.skippedDeployments = j.leftOut
  load : ∃ result, j.loads = [(o.reference, result)] ∧ LoadAccounts j o result

/-- How the outcome of an event, the metrics and the log of a service agree with the journal. -/
structure EventAccounts (service : String) (p : Pipeline) (c : Context) (files : List String)
    (j : Journal) (o : EventOutcome) : Prop where
  /-- Between the opening and the closing stand the parts of the reports, one after another. -/
  reports : ∃ parts : List Journal,
    j.deeds = openingOf c files ++ parts.flatten ++ [.eventClosed] ∧
      List.Forall₂ (ReportAccounts p) parts o.reports
  references : o.reports.map (·.reference) = files
  calls : ∀ op, CallMetrics j op (.sum (o.reports.map (·.tally op)))
  processed : growth j.observed .reportsProcessed = o.reports.countP (·.loadError.isNone)
  loadErrors : growth j.observed .reportLoadErrors = o.reports.countP (·.loadError.isSome)
  total : growth j.observed .reportsProcessed + growth j.observed .reportLoadErrors = files.length
  /-- Each call has one record, be it answered or not, beside the remarks of those who answer. -/
  records : (Journal.logRecords service none j.deeds).filter (·.2.isCall) =
    j.answeredCalls.map fun x => (some c, callRecord service x)
  /-- There is no other such record, unless those who answer make one themselves. -/
  log : (∀ r, .noted r ∈ j → r.isCall = false) →
    (Journal.logRecords service none j).filter (·.2.isCall) =
      j.answeredCalls.map fun x => (some c, callRecord service x)

theorem reportAccounts (v : Report.Visit) :
    ReportAccounts p (v.deeds p c) (v.outcome p c) where
  balanced := by
    unfold Report.Visit.outcome
    cases v.result with
    | ok table => exact balanced_tableOutcome v.reference table
    | error f => exact ⟨rfl, rfl, rfl, rfl, by split <;> rfl⟩
  tallies := tally_visit v
  skipped := leftOut_visit v
  load := by
    obtain ⟨hprocessed, herrors⟩ := growth_visit (p := p) (c := c) v
    refine ⟨v.result, ?_, ?_⟩
    · rw [loads_visit, outcome_reference]
    · have hcalls := answeredCalls_visit (p := p) (c := c) v
      revert hprocessed herrors hcalls
      unfold Report.Visit.outcome Report.Visit.calls
      cases v.result with
      | ok table => exact fun hprocessed herrors _ => ⟨rfl, hprocessed, herrors⟩
      | error f => exact fun hprocessed herrors hcalls => ⟨rfl, hcalls, hprocessed, herrors⟩

/-- Nothing that is done about a report is a remark, and the event stays the same. -/
theorem plain_visit (v : Report.Visit) (event : Option Context) :
    ∀ o ∈ v.deeds p c, o.isNote = false ∧ o.eventAfter event = event := by
  unfold Report.Visit.deeds
  refine List.forall_mem_cons.mpr ⟨⟨rfl, rfl⟩, ?_⟩
  cases v.result with
  | ok table => refine forall_mem_tableDeeds ?_ ?_ ?_ ?_ ?_ <;> intros <;> exact ⟨rfl, rfl⟩
  | error f => exact fun o ho => absurd ho List.not_mem_nil

theorem tally_visits (visits : List Report.Visit) (op : Operation) :
    Tally.sum (visits.map fun v => (v.outcome p c).tally op) =
      .of (Journal.callsTo op (visits.flatMap (·.deeds p c))) := by
  induction visits with
  | nil => rfl
  | cons v more ih =>
    obtain ⟨hattempted, hfailed⟩ := Tally.mk.inj ih
    rw [List.flatMap_cons, Journal.callsTo, Journal.answeredCalls_append, List.filter_append,
      Tally.of, List.length_append, List.countP_append, Tally.sum, List.map_cons, List.map_cons,
      List.map_cons, List.sum_cons, List.sum_cons, hattempted, hfailed, tally_visit]
    rfl

theorem growth_visits (visits : List Report.Visit) :
    growth (Journal.observed (visits.flatMap (·.deeds p c))) .reportsProcessed =
        (visits.map (·.outcome p c)).countP (·.loadError.isNone) ∧
      growth (Journal.observed (visits.flatMap (·.deeds p c))) .reportLoadErrors =
        (visits.map (·.outcome p c)).countP (·.loadError.isSome) := by
  induction visits with
  | nil => exact ⟨rfl, rfl⟩
  | cons v more ih =>
    obtain ⟨hprocessed, herrors⟩ := growth_visit (p := p) (c := c) v
    rw [List.flatMap_cons, Journal.growth_append, Journal.growth_append, ih.1, ih.2, hprocessed,
      herrors, List.map_cons, List.countP_cons, List.countP_cons]
    cases (v.outcome p c).loadError <;> simp <;> omega

/-- The opening of an event makes no call, counts for nothing and is about the event. -/
theorem plain_opening (files : List String) :
    Journal.answeredCalls (openingOf c files) = [] ∧
      (∀ s, growth (Journal.observed (openingOf c files)) s = 0) := by
  unfold openingOf
  split <;> exact ⟨rfl, fun _ => rfl⟩

/-- In the log of an event stand the records of the calls for its reports. -/
theorem filter_logRecords_event (service : String) (files : List String)
    (visits : List Report.Visit) :
    (Journal.logRecords service none
        (openingOf c files ++ visits.flatMap (·.deeds p c) ++ [.eventClosed])).filter (·.2.isCall) =
      (Journal.answeredCalls (visits.flatMap (·.deeds p c))).map fun x =>
        (some c, callRecord service x) := by
  have hvisits : ∀ o ∈ visits.flatMap (·.deeds p c),
      o.isNote = false ∧ o.eventAfter (some c) = some c := by
    intro o ho
    obtain ⟨v, _, ho⟩ := List.mem_flatMap.mp ho
    exact plain_visit v _ o ho
  have hbody :=
    filter_logRecords service (fun o ho => (hvisits o ho).1) fun o ho => (hvisits o ho).2
  have hclosed : (Journal.logRecords service (some c)
      (visits.flatMap (·.deeds p c) ++ [.eventClosed])).filter (·.2.isCall) =
        (Journal.logRecords service (some c) (visits.flatMap (·.deeds p c))).filter
          (·.2.isCall) := by
    rw [logRecords_append service fun o ho => (hvisits o ho).2, List.filter_append]
    exact List.append_nil _
  rw [← hbody, ← hclosed, List.append_assoc]
  unfold openingOf
  split <;> rfl

/-- **Accounting agrees with the trace.** Whatever the loader brings and the service says, the
outcome of an event, the metrics and the log tell of the calls and the loads that there were. -/
theorem processEvent_accounted (service : String) (w : World) (j : Journal) (p : Pipeline)
    (c : Context) (files : List String) :
    EventAccounts service p c files ((processEvent p c files).run w j).1
      ((processEvent p c files).run w j).2 := by
  obtain ⟨visits, -, hrefs, hdeeds, hresult⟩ :=
    processEvent_yields (w := w) (p := p) (c := c) files j
  generalize (processEvent p c files).run w j = run at hdeeds hresult ⊢
  obtain ⟨journal, o⟩ := run
  subst hresult
  dsimp only at hdeeds ⊢
  obtain ⟨hopenCalls, hopenGrowth⟩ := plain_opening (c := c) files
  have hcalls : journal.answeredCalls =
      Journal.answeredCalls (visits.flatMap (·.deeds p c)) := by
    rw [← Journal.answeredCalls_deeds, hdeeds, Journal.answeredCalls_append,
      Journal.answeredCalls_append, hopenCalls]
    exact List.append_nil _
  have hgrowth : ∀ s : Series, growth journal.observed s =
      growth (Journal.observed (visits.flatMap (·.deeds p c))) s := by
    intro s
    rw [← Journal.observed_deeds, hdeeds, Journal.growth_append, Journal.growth_append,
      hopenGrowth, Nat.zero_add]
    rfl
  obtain ⟨hprocessed, herrors⟩ := growth_visits (p := p) (c := c) visits
  have hrecords : (Journal.logRecords service none journal.deeds).filter (·.2.isCall) =
      journal.answeredCalls.map fun x => (some c, callRecord service x) := by
    rw [hdeeds, hcalls]
    exact filter_logRecords_event service files visits
  constructor
  case reports =>
    refine ⟨visits.map (·.deeds p c), ?_, ?_⟩
    · rw [hdeeds, List.flatMap_def]
    · rw [List.forall₂_map_left_iff, List.forall₂_map_right_iff, List.forall₂_same]
      exact fun v _ => reportAccounts v
  case references =>
    rw [List.map_map, ← hrefs]
    exact List.map_congr_left fun v _ => outcome_reference v
  case calls =>
    intro op
    have h := callMetrics journal op
    rw [Journal.callsTo, hcalls, ← Journal.callsTo, ← tally_visits] at h
    rwa [List.map_map]
  case processed => rw [hgrowth, hprocessed]
  case loadErrors => rw [hgrowth, herrors]
  case total =>
    -- a report was loaded or it was not
    have hnone : (fun o : ReportOutcome => decide ¬o.loadError.isNone) = (·.loadError.isSome) := by
      funext o
      cases o.loadError <;> rfl
    rw [hgrowth, hgrowth, hprocessed, herrors, ← hnone, ← List.length_eq_countP_add_countP,
      List.length_map, ← hrefs, List.length_map]
  case records => exact hrecords
  case log => exact fun h => (filter_logRecords_deeds service none h).trans hrecords

end UsageFeed
