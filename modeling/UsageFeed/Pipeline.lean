import UsageFeed.Episode

/-!
# `UsageFeed.Pipeline` — from report files to calls

## Contents
- `Pipeline`, the settings.
- `Tally` and `ReportOutcome`, what became of one report.
- The phases of a report, each over all its deployments before the next begins: `createAll`,
  `updateAll`, `listAll`; and `processReport`.
- `processEvent`, all reports of an event one after another.
-/

namespace UsageFeed

open Service (Call Response)
open Report (DeploymentUnit Hierarchy Table)

/-! ## Settings and outcomes -/

/-- The settings of the pipeline. -/
structure Pipeline where
  /-- The number put on every set of results. -/
  trialNumber : Nat := 98
  /-- What stands between the parts of an experiment's name. -/
  separator : String := ""
  /-- Whether recommendations are asked for even where no results could be sent. -/
  listAfterFailedUpdate : Bool := true
  deriving DecidableEq, Repr

/-- The calls of one kind. -/
structure Tally where
  attempted : Nat := 0
  failed : Nat := 0
  deriving DecidableEq, Repr

/-- The tally with one more call. -/
def Tally.record (t : Tally) (ok : Bool) : Tally :=
  ⟨t.attempted + 1, if ok then t.failed else t.failed + 1⟩

/-- How far a report came. -/
inductive Phase where
  | loading
  | done
  deriving DecidableEq, Repr

/-- What became of one report. -/
structure ReportOutcome where
  reference : String
  phase : Phase := .loading
  loadError : Option String := none
  deployments : Nat := 0
  /-- Deployments left out because a container has no name or no image. -/
  skippedDeployments : Nat := 0
  created : Tally := {}
  updated : Tally := {}
  /-- Deployments whose figures are not complete. -/
  skippedUpdates : Nat := 0
  updateErrors : List String := []
  listed : Tally := {}
  experiments : List Experiment := []
  deriving DecidableEq, Repr

/-- The failed calls of every kind. -/
def ReportOutcome.failedCalls (o : ReportOutcome) : Nat :=
  o.created.failed + o.updated.failed + o.listed.failed

/-- What became of one event. -/
structure EventOutcome where
  requestId : String
  reports : List ReportOutcome
  deriving DecidableEq, Repr

/-! ## Deployments -/

/-- The first column that a deployment's containers have to fill and do not. -/
def Report.DeploymentUnit.missingIdentity? (u : DeploymentUnit) : Option String :=
  u.rows.findSome? (·.missingIdentity?)

/-- The request to track a deployment. -/
def createFor (p : Pipeline) (c : Context) (u : DeploymentUnit) : CreateExperiment :=
  .of c p.separator u.ns u.deployment (u.rows.map ContainerIdentity.ofRow)

/-- The results of a deployment in a trial, if its figures are complete. -/
def updateFor (p : Pipeline) (c : Context) (t : Trial) (u : DeploymentUnit) :
    Except Failure UpdateResults :=
  (Report.containerMetricsOf u.rows).map (.of c p.separator t u.ns u.deployment)

/-- The experiment of a deployment. -/
def experimentFor (p : Pipeline) (c : Context) (u : DeploymentUnit) : Experiment :=
  .of c u.ns u.deployment p.separator

/-! ## Phases -/

/-- Calls the service and says whether it accepted. -/
def dispatch (c : Call) : Episode Bool := do
  let answer ← Episode.askService c
  return Service.outcome answer == .success

/-- Asks to track each deployment. -/
def createAll (p : Pipeline) (c : Context) (t : Tally) : List DeploymentUnit → Episode Tally
  | [] => return t
  | u :: more => do
    let ok ← dispatch (.create (createFor p c u))
    createAll p c (t.record ok) more

/-- What the second phase comes to. -/
structure Updates where
  tally : Tally := {}
  skipped : Nat := 0
  errors : List String := []
  experiments : List Experiment := []
  deriving DecidableEq, Repr

/-- The updates with an experiment kept for the last phase, or not. -/
def Updates.keep (s : Updates) (kept : Bool) (e : Experiment) : Updates :=
  if kept then { s with experiments := s.experiments ++ [e] } else s

/-- Sends the results of each deployment whose figures are complete. -/
def updateAll (p : Pipeline) (c : Context) (t : Trial) (s : Updates) :
    List DeploymentUnit → Episode Updates
  | [] => return s
  | u :: more => do
    let e := experimentFor p c u
    match updateFor p c t u with
    | .ok results =>
      let ok ← dispatch (.update results)
      let s := { s with tally := s.tally.record ok }
      updateAll p c t (s.keep (ok || p.listAfterFailedUpdate) e) more
    | .error f =>
      Episode.happen (.updateSkipped e f)
      let s := { s with skipped := s.skipped + 1, errors := s.errors ++ [f.message] }
      updateAll p c t (s.keep p.listAfterFailedUpdate e) more

/-- Asks for the recommendations for each experiment. -/
def listAll (t : Tally) : List Experiment → Episode Tally
  | [] => return t
  | e :: more => do
    let ok ← dispatch (.list (.of e))
    listAll (t.record ok) more

/-! ## Reports -/

/-- Notes the deployments that are left out of a report. -/
def noteSkipped (reference : String) : List DeploymentUnit → List Occurrence
  | [] => []
  | u :: more =>
    match u.missingIdentity? with
    | some column =>
      .deploymentSkipped reference u.ns u.deployment column :: noteSkipped reference more
    | none => noteSkipped reference more

/-- The deployments that are not left out. -/
def kept (units : List DeploymentUnit) : List DeploymentUnit :=
  units.filter (·.missingIdentity?.isNone)

/-- Works through a report that has been loaded. -/
def processTable (p : Pipeline) (c : Context) (reference : String) (table : Table) :
    Episode ReportOutcome := do
  let units := (Hierarchy.ofTable table).units
  let skips := noteSkipped reference units
  let left := kept units
  Episode.happenAll skips
  Episode.happen (.reportOpened reference table.rows.length left.length)
  let created ← createAll p c {} left
  let trial := Trial.at p.trialNumber (← Episode.askTime)
  let updates ← updateAll p c trial {} left
  let listed ← listAll {} updates.experiments
  let outcome : ReportOutcome :=
    { reference := reference, phase := .done, deployments := units.length,
      skippedDeployments := skips.length, created := created,
      updated := updates.tally, skippedUpdates := updates.skipped, updateErrors := updates.errors,
      listed := listed, experiments := updates.experiments }
  Episode.happen
    (.reportClosed reference outcome.deployments outcome.failedCalls outcome.skippedUpdates)
  return outcome

/-- Loads a report and works through it. -/
def processReport (p : Pipeline) (c : Context) (reference : String) : Episode ReportOutcome := do
  match ← Episode.askReport reference with
  | .ok table => processTable p c reference table
  | .error f => return { reference := reference, loadError := some f.message }

/-! ## Events -/

/-- Works through reports one after another. -/
def processReports (p : Pipeline) (c : Context) : List String → Episode (List ReportOutcome)
  | [] => return []
  | reference :: more => do
    let outcome ← processReport p c reference
    return outcome :: (← processReports p c more)

/-- Works through the reports of an event. -/
def processEvent (p : Pipeline) (c : Context) (files : List String) : Episode EventOutcome := do
  Episode.happen (.eventOpened c)
  if files.isEmpty then Episode.happen .eventWithoutFiles
  let reports ← processReports p c files
  Episode.happen .eventClosed
  return ⟨c.requestId, reports⟩

end UsageFeed
