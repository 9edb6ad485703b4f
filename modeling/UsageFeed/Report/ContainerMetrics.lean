import UsageFeed.Report.Row
import UsageFeed.Failure
import UsageFeed.Json.Record
import UsageFeed.Json.Text

/-!
# `UsageFeed.Report.ContainerMetrics` — the figures of a container as sent

## Contents
- `Statistics` and `ContainerMetrics`, what the service is told about one container.
- `Row.containerMetrics`, which takes them from a row or names the first figure that is missing.
- Their JSON forms.
-/

namespace UsageFeed.Report

open Json (Field Decoder Shape)

/-- The statistics of one metric. -/
structure Statistics where
  sum : Option Float
  mean : Float
  max : Option Float
  units : Units
  deriving Repr

/-- The statistics of a container, by metric. -/
structure ContainerMetrics where
  container : String
  image : String
  metrics : List (Metric × Statistics)
  deriving Repr

/-! ## Taking them from a row -/

/-- A figure that can be sent, or the failure that names its column. -/
def Row.figure (r : Row) (column : String) (x : Option Float) : Except Failure Float :=
  match x.filter Decimal.isFinite with
  | some x => .ok x
  | none => .error (.missingMetric r.container column)

/-- The statistics of a metric. -/
def Row.statistics (r : Row) (m : Metric) : Except Failure Statistics := do
  let peak ← r.figure m.peakColumn (r.measure m).peak
  let mean ← r.figure m.meanColumn (r.measure m).mean
  match m.peak with
  | .sum => .ok ⟨some peak, mean, none, m.units⟩
  | .max => .ok ⟨none, mean, some peak, m.units⟩

/-- The statistics of several metrics. -/
def Row.statisticsOf (r : Row) : List Metric → Except Failure (List (Metric × Statistics))
  | [] => .ok []
  | m :: more => do
    let s ← r.statistics m
    let rest ← r.statisticsOf more
    .ok ((m, s) :: rest)

/-- What the service is told about the container of a row. -/
def Row.containerMetrics (r : Row) : Except Failure ContainerMetrics := do
  let metrics ← r.statisticsOf Metric.all
  .ok ⟨r.container, r.image, metrics⟩

/-- What the service is told about the containers of several rows. -/
def containerMetricsOf : List Row → Except Failure (List ContainerMetrics)
  | [] => .ok []
  | r :: more => do
    let c ← r.containerMetrics
    let rest ← containerMetricsOf more
    .ok (c :: rest)

/-! ## JSON forms -/

/-- The members for statistics that are there. -/
def Statistics.optional (name : String) : Option Float → List (String × Json)
  | some x => [(name, .float x)]
  | none => []

/-- The document of the statistics of one metric. -/
def Statistics.toJson (s : Statistics) : Json :=
  .object [("results", .object [("general_info", .object (
    optional "sum" s.sum ++ [("mean", .float s.mean)] ++ optional "max" s.max ++
    [("units", .text s.units.name)]))])]

/-- The document of a container's statistics. -/
def ContainerMetrics.toJson (c : ContainerMetrics) : Json :=
  .object [("container_name", .text c.container), ("image_name", .text c.image),
    ("container_metrics", .object (c.metrics.map fun (m, s) => (m.name, s.toJson)))]

/-- The units by name. -/
def Units.byName : List (String × Units) := [.cores, .mebibytes].map fun u => (u.name, u)

/-- The metrics by name. -/
def Metric.byName : List (String × Metric) := Metric.all.map fun m => (m.name, m)

/-- How the innermost record of statistics is read. -/
def Statistics.infoShape : Shape Statistics where
  name := "GeneralInfo"
  start := ⟨none, 0, none, .cores⟩
  fields :=
    [ (Field.of "sum" (.option .float) fun s v => { s with sum := v }).defaulted,
      Field.of "mean" .float fun s v => { s with mean := v },
      (Field.of "max" (.option .float) fun s v => { s with max := v }).defaulted,
      Field.of "units" (.variant Units.byName) fun s v => { s with units := v } ]

/-- How the record around it is read. -/
def Statistics.resultsShape : Shape Statistics where
  name := "MetricResults"
  start := ⟨none, 0, none, .cores⟩
  fields := [Field.of "general_info" infoShape.decode fun _ v => v]

/-- How the statistics of one metric are read. -/
def Statistics.shape : Shape Statistics where
  name := "MetricEntry"
  start := ⟨none, 0, none, .cores⟩
  fields := [Field.of "results" resultsShape.decode fun _ v => v]

/-- Statistics by metric in the order of the metrics, of several for one metric the last. -/
def inMetricOrder (entries : List (Metric × Statistics)) : List (Metric × Statistics) :=
  Metric.all.filterMap fun m => (entries.reverse.lookup m).map fun s => (m, s)

/-- How a container's statistics are read. -/
def ContainerMetrics.shape : Shape ContainerMetrics where
  name := "ContainerMetrics"
  start := ⟨"", "", []⟩
  fields :=
    [ Field.of "container_name" .text fun c v => { c with container := v },
      Field.of "image_name" .text fun c v => { c with image := v },
      Field.of "container_metrics" (.map (Json.readVariant Metric.byName) Statistics.shape.decode)
        fun c v => { c with metrics := inMetricOrder v } ]

end UsageFeed.Report
