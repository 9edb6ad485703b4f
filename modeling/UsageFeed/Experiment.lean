import UsageFeed.Event
import UsageFeed.Calendar

/-!
# `UsageFeed.Experiment` — what the recommendation service tracks

## Contents
- `Experiment`, the key under which the service tracks one deployment, and `experimentName`.
- `Trial`, one round of results, and `Trial.at`.
- Their JSON forms.
-/

namespace UsageFeed

open Json (Field Decoder Shape)

/-- The key of a deployment: organisation, cluster, namespace and name, with a separator between
them. -/
def experimentName (c : Context) (ns deployment separator : String) : String :=
  separator.intercalate [c.orgId, c.clusterId, ns, deployment]

/-- The key written out. -/
theorem experimentName_eq (c : Context) (ns deployment separator : String) :
    experimentName c ns deployment separator =
      c.orgId ++ separator ++ c.clusterId ++ separator ++ ns ++ separator ++ deployment := rfl

/-- A deployment that the service tracks. -/
structure Experiment where
  name : String
  ns : String
  deployment : String
  deriving DecidableEq, Repr

/-- The experiment of a deployment. -/
def Experiment.of (c : Context) (ns deployment separator : String) : Experiment :=
  ⟨experimentName c ns deployment separator, ns, deployment⟩

/-- The document of an experiment. -/
def Experiment.toJson (e : Experiment) : Json :=
  .object [("experiment_name", .text e.name), ("namespace", .text e.ns),
    ("deployment_name", .text e.deployment)]

/-- How an experiment is read. -/
def Experiment.shape : Shape Experiment where
  name := "Experiment"
  start := ⟨"", "", ""⟩
  fields :=
    [ Field.of "experiment_name" .text fun e v => { e with name := v },
      Field.of "namespace" .text fun e v => { e with ns := v },
      Field.of "deployment_name" .text fun e v => { e with deployment := v } ]

/-- One round of results. -/
structure Trial where
  number : Nat
  timestamp : String
  deriving DecidableEq, Repr

/-- The trial of a number at an instant. -/
def Trial.at (number : Nat) (t : Calendar.Instant) : Trial := ⟨number, t.stamp⟩

/-- The document of a trial. -/
def Trial.toJson (t : Trial) : Json :=
  .object [("trial_number", .nat t.number), ("trial_timestamp", .text t.timestamp)]

/-- How a trial is read. -/
def Trial.shape : Shape Trial where
  name := "TrialInfo"
  start := ⟨0, ""⟩
  fields :=
    [ Field.of "trial_number" .count fun t v => { t with number := v },
      Field.of "trial_timestamp" .text fun t v => { t with timestamp := v } ]

end UsageFeed
