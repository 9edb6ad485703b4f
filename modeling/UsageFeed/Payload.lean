import UsageFeed.Experiment
import UsageFeed.Report.ContainerMetrics
import UsageFeed.Report.Hierarchy

/-!
# `UsageFeed.Payload` — what is sent to the recommendation service

## Contents
- `CreateExperiment`, `UpdateResults` and `ListQuery`, the contents of the three calls, with their
  JSON forms.
- Their builders for one deployment of a report.
-/

namespace UsageFeed

open Json (Field Decoder Shape)
open Report

/-! ## Registering a deployment -/

/-- A container as it is registered. -/
structure ContainerIdentity where
  container : String
  image : String
  deriving DecidableEq, Repr

/-- The identity of the container of a row. -/
def ContainerIdentity.ofRow (r : Row) : ContainerIdentity := ⟨r.container, r.image⟩

/-- A request to track a deployment. -/
structure CreateExperiment where
  performanceProfile : String
  mode : String
  targetCluster : String
  measurementDuration : String
  threshold : String
  experiment : String
  ns : String
  deployment : String
  containers : List ContainerIdentity
  deriving DecidableEq, Repr

/-- The request to track a deployment with these containers. -/
def CreateExperiment.of (c : Context) (separator ns deployment : String)
    (containers : List ContainerIdentity) : CreateExperiment where
  performanceProfile := "resource_optimization"
  mode := "monitor"
  targetCluster := "remote"
  measurementDuration := "15min"
  threshold := "0.1"
  experiment := experimentName c ns deployment separator
  ns := ns
  deployment := deployment
  containers := containers

/-- The document of a container's identity. -/
def ContainerIdentity.toJson (c : ContainerIdentity) : Json :=
  .object [("container_name", .text c.container), ("image_name", .text c.image)]

/-- How a container's identity is read. -/
def ContainerIdentity.shape : Shape ContainerIdentity where
  name := "ContainerIdentity"
  start := ⟨"", ""⟩
  fields :=
    [ Field.of "container_name" .text fun c v => { c with container := v },
      Field.of "image_name" .text fun c v => { c with image := v } ]

namespace CreateExperiment

/-- The document of a request to track a deployment. -/
def toJson (p : CreateExperiment) : Json :=
  .object [("performanceProfile", .text p.performanceProfile), ("mode", .text p.mode),
    ("targetCluster", .text p.targetCluster),
    ("trial_settings", .object [("measurement_duration", .text p.measurementDuration)]),
    ("recommendation_settings", .object [("threshold", .text p.threshold)]),
    ("experiment_name", .text p.experiment), ("namespace", .text p.ns),
    ("deployment_name", .text p.deployment),
    ("containers", .list (p.containers.map ContainerIdentity.toJson))]

/-- How the settings of a trial are read. -/
def trialSettingsShape : Shape String where
  name := "TrialSettings"
  start := ""
  fields := [Field.of "measurement_duration" .text fun _ v => v]

/-- How the settings of recommendations are read. -/
def recommendationSettingsShape : Shape String where
  name := "RecommendationSettings"
  start := ""
  fields := [Field.of "threshold" .text fun _ v => v]

/-- How a request to track a deployment is read. -/
def shape : Shape CreateExperiment where
  name := "CreateExperimentPayload"
  start := ⟨"", "", "", "", "", "", "", "", []⟩
  fields :=
    [ Field.of "performanceProfile" .text fun p v => { p with performanceProfile := v },
      Field.of "mode" .text fun p v => { p with mode := v },
      Field.of "targetCluster" .text fun p v => { p with targetCluster := v },
      Field.of "trial_settings" trialSettingsShape.decode
        fun p v => { p with measurementDuration := v },
      Field.of "recommendation_settings" recommendationSettingsShape.decode
        fun p v => { p with threshold := v },
      Field.of "experiment_name" .text fun p v => { p with experiment := v },
      Field.of "namespace" .text fun p v => { p with ns := v },
      Field.of "deployment_name" .text fun p v => { p with deployment := v },
      Field.of "containers" (.list ContainerIdentity.shape.decode)
        fun p v => { p with containers := v } ]

end CreateExperiment

/-! ## Sending results -/

/-- The results of one deployment. -/
structure DeploymentResults where
  deployment : String
  ns : String
  podMetrics : List Json
  containers : List ContainerMetrics
  deriving Repr

/-- The results of an experiment in one trial. -/
structure UpdateResults where
  experiment : String
  trial : Trial
  deployments : List DeploymentResults
  deriving Repr

/-- The results of a deployment with the statistics of its containers. -/
def UpdateResults.of (c : Context) (separator : String) (trial : Trial) (ns deployment : String)
    (containers : List ContainerMetrics) : UpdateResults where
  experiment := experimentName c ns deployment separator
  trial := trial
  deployments := [⟨deployment, ns, [], containers⟩]

/-- The document of the results of one deployment. -/
def DeploymentResults.toJson (d : DeploymentResults) : Json :=
  .object [("deployment_name", .text d.deployment), ("namespace", .text d.ns),
    ("pod_metrics", .list d.podMetrics),
    ("containers", .list (d.containers.map ContainerMetrics.toJson))]

/-- How the results of one deployment are read. -/
def DeploymentResults.shape : Shape DeploymentResults where
  name := "DeploymentResults"
  start := ⟨"", "", [], []⟩
  fields :=
    [ Field.of "deployment_name" .text fun d v => { d with deployment := v },
      Field.of "namespace" .text fun d v => { d with ns := v },
      Field.of "pod_metrics" (.list Json.readValue) fun d v => { d with podMetrics := v },
      Field.of "containers" (.list ContainerMetrics.shape.decode)
        fun d v => { d with containers := v } ]

namespace UpdateResults

/-- The document of results. -/
def toJson (p : UpdateResults) : Json :=
  .object [("experiment_name", .text p.experiment),
    ("info", .object [("trial_info", p.trial.toJson)]),
    ("deployments", .list (p.deployments.map DeploymentResults.toJson))]

/-- How the record around the trial is read. -/
def infoShape : Shape Trial where
  name := "ResultInfo"
  start := ⟨0, ""⟩
  fields := [Field.of "trial_info" Trial.shape.decode fun _ v => v]

/-- How results are read. -/
def shape : Shape UpdateResults where
  name := "UpdateResultsPayload"
  start := ⟨"", ⟨0, ""⟩, []⟩
  fields :=
    [ Field.of "experiment_name" .text fun p v => { p with experiment := v },
      Field.of "info" infoShape.decode fun p v => { p with trial := v },
      Field.of "deployments" (.list DeploymentResults.shape.decode)
        fun p v => { p with deployments := v } ]

end UpdateResults

/-! ## Asking for recommendations -/

/-- The question for the recommendations for an experiment. -/
structure ListQuery where
  experiment : String
  deployment : String
  ns : String
  deriving DecidableEq, Repr

namespace ListQuery

/-- The question for the recommendations for an experiment. -/
def of (e : Experiment) : ListQuery := ⟨e.name, e.deployment, e.ns⟩

/-- The parameters of the question, in order. -/
def parameters (q : ListQuery) : List (String × String) :=
  [("experiment_name", q.experiment), ("deployment_name", q.deployment), ("namespace", q.ns)]

/-- The document of a question. -/
def toJson (q : ListQuery) : Json := .object (q.parameters.map fun (n, v) => (n, .text v))

/-- How a question is read. -/
def shape : Shape ListQuery where
  name := "ListParams"
  start := ⟨"", "", ""⟩
  fields :=
    [ Field.of "experiment_name" .text fun q v => { q with experiment := v },
      Field.of "deployment_name" .text fun q v => { q with deployment := v },
      Field.of "namespace" .text fun q v => { q with ns := v } ]

end ListQuery
end UsageFeed
