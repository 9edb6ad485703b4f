/-!
# `UsageFeed.Report.Row` — one container in a usage report

## Contents
- `Metric`, the eight kinds of figures, with the unit and the statistics of each.
- `Row`, what a report says about one container: where it runs and a `Measure` per metric.
- `Column`, the columns a report may have, their names, and `Row.put`.
-/

namespace UsageFeed.Report

/-! ## Metrics -/

/-- The units of figures. -/
inductive Units where
  | cores
  | mebibytes
  deriving DecidableEq, Repr

/-- The name of a unit. -/
def Units.name : Units → String
  | .cores => "cores"
  | .mebibytes => "MiB"

/-- The statistic that stands beside the mean. -/
inductive Peak where
  | sum
  | max
  deriving DecidableEq, Repr

/-- The kinds of figures. -/
inductive Metric where
  | cpuRequest
  | cpuLimit
  | cpuUsage
  | cpuThrottle
  | memoryRequest
  | memoryLimit
  | memoryUsage
  | memoryRss
  deriving DecidableEq, Repr

namespace Metric

/-- The metrics in order. -/
def all : List Metric :=
  [.cpuRequest, .cpuLimit, .cpuUsage, .cpuThrottle, .memoryRequest, .memoryLimit, .memoryUsage,
    .memoryRss]

/-- The name of a metric. -/
def name : Metric → String
  | cpuRequest => "cpuRequest"
  | cpuLimit => "cpuLimit"
  | cpuUsage => "cpuUsage"
  | cpuThrottle => "cpuThrottle"
  | memoryRequest => "memoryRequest"
  | memoryLimit => "memoryLimit"
  | memoryUsage => "memoryUsage"
  | memoryRss => "memoryRSS"

/-- Processor figures are in cores, memory figures in mebibytes. -/
def units : Metric → Units
  | cpuRequest | cpuLimit | cpuUsage | cpuThrottle => .cores
  | memoryRequest | memoryLimit | memoryUsage | memoryRss => .mebibytes

/-- Requests and limits are summed, the other figures have a maximum. -/
def peak : Metric → Peak
  | cpuRequest | cpuLimit | memoryRequest | memoryLimit => .sum
  | cpuUsage | cpuThrottle | memoryUsage | memoryRss => .max

/-- The part of its columns' names that stands for the metric. -/
def columnStem : Metric → String
  | cpuRequest => "cpu_request"
  | cpuLimit => "cpu_limit"
  | cpuUsage => "cpu_usage"
  | cpuThrottle => "cpu_throttle"
  | memoryRequest => "mem_request"
  | memoryLimit => "mem_limit"
  | memoryUsage => "mem_usage"
  | memoryRss => "mem-rss_usage"

/-- The column of the sums or maxima. -/
def peakColumn (m : Metric) : String :=
  m.columnStem ++ (match m.peak with | .sum => "_sum" | .max => "_max") ++ "_container"

/-- The column of the means. -/
def meanColumn (m : Metric) : String := m.columnStem ++ "_avg_container"

end Metric

/-! ## Rows -/

/-- The two figures of a metric, as far as a report gives them. -/
structure Measure where
  peak : Option Float := none
  mean : Option Float := none
  deriving Repr

/-- What a report says about one container. Texts it does not give are empty. -/
structure Row where
  ns : String := ""
  deployment : String := ""
  container : String := ""
  image : String := ""
  cpuRequest : Measure := {}
  cpuLimit : Measure := {}
  cpuUsage : Measure := {}
  cpuThrottle : Measure := {}
  memoryRequest : Measure := {}
  memoryLimit : Measure := {}
  memoryUsage : Measure := {}
  memoryRss : Measure := {}
  deriving Repr, Inhabited

namespace Row

/-- The figures of a metric. -/
def measure (r : Row) : Metric → Measure
  | .cpuRequest => r.cpuRequest
  | .cpuLimit => r.cpuLimit
  | .cpuUsage => r.cpuUsage
  | .cpuThrottle => r.cpuThrottle
  | .memoryRequest => r.memoryRequest
  | .memoryLimit => r.memoryLimit
  | .memoryUsage => r.memoryUsage
  | .memoryRss => r.memoryRss

/-- The row with the figures of a metric replaced. -/
def setMeasure (r : Row) (m : Metric) (v : Measure) : Row :=
  match m with
  | .cpuRequest => { r with cpuRequest := v }
  | .cpuLimit => { r with cpuLimit := v }
  | .cpuUsage => { r with cpuUsage := v }
  | .cpuThrottle => { r with cpuThrottle := v }
  | .memoryRequest => { r with memoryRequest := v }
  | .memoryLimit => { r with memoryLimit := v }
  | .memoryUsage => { r with memoryUsage := v }
  | .memoryRss => { r with memoryRss := v }

/-- The figures read back as they were put. -/
theorem measure_setMeasure (r : Row) (m n : Metric) (v : Measure) :
    (r.setMeasure m v).measure n = if n = m then v else r.measure n := by
  cases m <;> cases n <;> rfl

/-- The name of the first of container and image that a row does not give. -/
def missingIdentity? (r : Row) : Option String :=
  if r.container = "" then some "container_name"
  else if r.image = "" then some "image_name"
  else none

end Row

/-! ## Columns -/

/-- The columns of a report that mean something. -/
inductive Column where
  | ns
  | deployment
  | container
  | image
  | peak (m : Metric)
  | mean (m : Metric)
  deriving DecidableEq, Repr

namespace Column

/-- The name of a column. -/
def name : Column → String
  | ns => "namespace"
  | deployment => "deployment_name"
  | container => "container_name"
  | image => "image_name"
  | peak m => m.peakColumn
  | mean m => m.meanColumn

/-- The columns in order: the four texts, then the figures metric by metric. -/
def all : List Column :=
  [ns, deployment, container, image] ++ Metric.all.flatMap fun m => [peak m, mean m]

/-- The column of a name. -/
def ofName? (s : String) : Option Column := all.find? (·.name == s)

end Column

/-- What can stand in a cell. -/
inductive Cell where
  | text (s : String)
  | figure (x : Option Float)

/-- The row with a cell put under a column; a cell of the wrong kind changes nothing. -/
def Row.put (r : Row) : Column → Cell → Row
  | .ns, .text s => { r with ns := s }
  | .deployment, .text s => { r with deployment := s }
  | .container, .text s => { r with container := s }
  | .image, .text s => { r with image := s }
  | .peak m, .figure x => r.setMeasure m { r.measure m with peak := x }
  | .mean m, .figure x => r.setMeasure m { r.measure m with mean := x }
  | _, _ => r

end UsageFeed.Report
