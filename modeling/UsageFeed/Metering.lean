import UsageFeed.Service
import UsageFeed.Decimal.Layout

/-!
# `UsageFeed.Metering` — counters and latencies

## Contents
- `Family`, the measured quantities, with their names, kinds and descriptions.
- `Series`, one counter or histogram of a family, with its labels.
- `Observation`, one step of a series, and the counts that a list of them adds up to
  (`growth`, `buckets`).
-/

namespace UsageFeed.Metering

/-! ## Families -/

/-- The measured quantities, by name. -/
inductive Family where
  | eventProcessing
  | eventsMalformed
  | eventsReceived
  | reportLoadErrors
  | reportsProcessed
  | serviceLatency
  | serviceCalls
  deriving DecidableEq, Repr

namespace Family

/-- The families, sorted by name. -/
def all : List Family :=
  [eventProcessing, eventsMalformed, eventsReceived, reportLoadErrors, reportsProcessed,
    serviceLatency, serviceCalls]

/-- The name of a family. -/
def name : Family → String
  | eventProcessing => "rosocp_event_processing_seconds"
  | eventsMalformed => "rosocp_events_malformed_total"
  | eventsReceived => "rosocp_events_received_total"
  | reportLoadErrors => "rosocp_report_load_errors_total"
  | reportsProcessed => "rosocp_reports_processed_total"
  | serviceLatency => "rosocp_service_call_latency_seconds"
  | serviceCalls => "rosocp_service_calls_total"

/-- What a family measures. -/
def description : Family → String
  | eventProcessing => "Time spent processing one upload event end to end"
  | eventsMalformed => "Total number of upload events dropped as malformed"
  | eventsReceived => "Total number of upload events received"
  | reportLoadErrors => "Total number of report files that failed to load"
  | reportsProcessed => "Total number of report files processed"
  | serviceLatency => "Latency of recommendation service calls"
  | serviceCalls => "Recommendation service calls by operation and outcome"

/-- Whether a family measures durations. -/
def isHistogram : Family → Bool
  | eventProcessing | serviceLatency => true
  | _ => false

/-- The two lines that introduce a family. -/
def headLines (f : Family) : List String :=
  ["# HELP " ++ f.name ++ " " ++ f.description,
    "# TYPE " ++ f.name ++ " " ++ (if f.isHistogram then "histogram" else "counter")]

end Family

/-! ## Series -/

/-- One counter or histogram. -/
inductive Series where
  | eventProcessing
  | eventsMalformed
  | eventsReceived
  | reportLoadErrors
  | reportsProcessed
  | serviceLatency (op : Service.Operation)
  | serviceCalls (op : Service.Operation) (outcome : Service.Outcome)
  deriving DecidableEq, Repr

namespace Series

/-- Every series. -/
def all : List Series :=
  [eventProcessing, eventsMalformed, eventsReceived, reportLoadErrors, reportsProcessed] ++
  Service.Operation.all.map serviceLatency ++
  Service.Operation.all.flatMap fun op => Service.Outcome.all.map (serviceCalls op)

/-- The family of a series. -/
def family : Series → Family
  | eventProcessing => .eventProcessing
  | eventsMalformed => .eventsMalformed
  | eventsReceived => .eventsReceived
  | reportLoadErrors => .reportLoadErrors
  | reportsProcessed => .reportsProcessed
  | serviceLatency _ => .serviceLatency
  | serviceCalls _ _ => .serviceCalls

/-- The labels of a series, sorted by name. -/
def labels : Series → List (String × String)
  | serviceLatency op => [("operation", op.name)]
  | serviceCalls op outcome => [("operation", op.name), ("outcome", outcome.name)]
  | _ => []

/-- A name with labels. -/
def withLabels (name : String) (labels : List (String × String)) : String :=
  name ++ "\x7b" ++ ",".intercalate (labels.map fun (k, v) => k ++ "=" ++ v) ++ "\x7d"

/-- The name under which the count of a series is shown. -/
def countName (s : Series) : String :=
  withLabels (s.family.name ++ (if s.family.isHistogram then "_count" else "")) s.labels

/-- The name under which a bucket of a series is shown. -/
def bucketName (s : Series) (bound : String) : String :=
  withLabels (s.family.name ++ "_bucket") (s.labels ++ [("le", bound)])

end Series

/-! ## Observations -/

/-- One more of a series; for a histogram, with the seconds it took. -/
structure Observation where
  series : Series
  seconds : Float := 0
  deriving Repr

/-- How often a series was observed. -/
def growth (observed : List Series) (s : Series) : Nat := observed.count s

/-- The upper ends of the buckets of durations, in thousandths of a second. -/
def bucketBounds : List Nat := [5, 10, 25, 50, 100, 250, 500, 1000, 2500, 5000, 10000, 30000, 60000]

/-- The upper end of a bucket in seconds. -/
def boundSeconds (thousandths : Nat) : Float := Decimal.nearest false thousandths 1000

/-- How many observations of a series took no longer than a bound. -/
def within (observed : List Observation) (s : Series) (bound : Float) : Nat :=
  (observed.filter fun o => o.series == s && o.seconds ≤ bound).length

/-- The buckets of a histogram with their counts. -/
def buckets (observed : List Observation) (s : Series) : List (String × Nat) :=
  bucketBounds.map fun b =>
    let bound := boundSeconds b
    (s.bucketName (Decimal.Layout.plain.write bound), within observed s bound)

end UsageFeed.Metering
