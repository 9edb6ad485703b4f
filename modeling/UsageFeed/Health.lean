import UsageFeed.Json.Record
import UsageFeed.Json.Text

/-!
# `UsageFeed.Health` — which parts of the program work

## Contents
- `Status`, `Component` and `Registry`, what is known of each part and whether messages are being
  consumed.
- The steps that change a registry: `register`, `succeed`, `fail`, `setReady`.
- `Report` and `Readiness`, the answers drawn from it, with their JSON forms.
-/

namespace UsageFeed.Health

open Json (Field Decoder Shape)

/-! ## Parts -/

/-- How well a part works. -/
inductive Status where
  | healthy
  | degraded
  | unhealthy
  deriving DecidableEq, Repr

/-- The name of a status. -/
def Status.name : Status → String
  | healthy => "healthy"
  | degraded => "degraded"
  | unhealthy => "unhealthy"

/-- Whether a part that works so well still does its job. -/
def Status.isOperational (s : Status) : Bool := s ≠ .unhealthy

/-- The worse of two. -/
def Status.worse : Status → Status → Status
  | .unhealthy, _ | _, .unhealthy => .unhealthy
  | .degraded, _ | _, .degraded => .degraded
  | .healthy, .healthy => .healthy

/-- What is known of a part. -/
structure Component where
  status : Status
  message : Option String
  failures : Nat
  deriving DecidableEq, Repr

/-- A part of which no failure is known. -/
def Component.healthy : Component := ⟨.healthy, none, 0⟩

/-- The greatest number of failures that is counted. -/
def maxFailures : Nat := Nat.pow 2 32 - 1

/-- The part after another failure. It is degraded below the threshold, unhealthy from there on. -/
def Component.failAgain (threshold : Nat) (before : Nat) (message : String) : Component :=
  let failures := min (before + 1) maxFailures
  ⟨if threshold ≤ failures then .unhealthy else .degraded, some message, failures⟩

/-! ## The registry -/

/-- What is known of all parts. -/
structure Registry where
  /-- The failures in a row at which a part is unhealthy. -/
  threshold : Nat
  components : List (String × Component)
  ready : Bool
  deriving DecidableEq, Repr

/-- The threshold unless another is asked for. -/
def defaultThreshold : Nat := 5

namespace Registry

/-- A registry of no parts. One failure is the least that can make a part unhealthy. -/
def empty (threshold : Nat) : Registry := ⟨max threshold 1, [], false⟩

/-- A registry of no parts, with the usual threshold. -/
def new : Registry := empty defaultThreshold

/-- The part of a name. -/
def find? (r : Registry) (name : String) : Option Component := r.components.lookup name

/-- Replaces the part of a name, or adds it. -/
def put (name : String) (c : Component) : List (String × Component) → List (String × Component)
  | [] => [(name, c)]
  | (n, d) :: more => if n = name then (n, c) :: more else (n, d) :: put name c more

/-- The registry with a part replaced or added. -/
def set (r : Registry) (name : String) (c : Component) : Registry :=
  { r with components := put name c r.components }

/-- Enters a part, as healthy. -/
def register (r : Registry) (name : String) : Registry := r.set name .healthy

/-- Notes that a part has done its job. -/
def succeed (r : Registry) (name : String) : Registry := r.set name .healthy

/-- The failures in a row of a part; none for one that is not known. -/
def failuresOf (r : Registry) (name : String) : Nat := ((r.find? name).map (·.failures)).getD 0

/-- Notes that a part has failed. -/
def fail (r : Registry) (name message : String) : Registry :=
  r.set name (.failAgain r.threshold (r.failuresOf name) message)

/-- Notes whether messages are being consumed. -/
def setReady (r : Registry) (ready : Bool) : Registry := { r with ready := ready }

/-- The worst status of any part. -/
def status (r : Registry) : Status :=
  r.components.foldl (fun s c => s.worse c.2.status) .healthy

end Registry

/-- The parts of the program. -/
inductive Part where
  | consumer
  | loader
  | service
  deriving DecidableEq, Repr

/-- Every part. -/
def Part.all : List Part := [.consumer, .loader, .service]

/-- The name of a part. -/
def Part.name : Part → String
  | consumer => "consumer"
  | loader => "report_loader"
  | service => "recommendation_service"

/-! ## Answers -/

/-- The answer to the question how the program is. -/
structure Report where
  status : Status
  components : List (String × Component)
  deriving DecidableEq, Repr

/-- The report on a registry. -/
def Registry.report (r : Registry) : Report := ⟨r.status, r.components⟩

/-- The answer to the question whether the program is ready. -/
structure Readiness where
  ready : Bool
  reason : Option String
  deriving DecidableEq, Repr

/-- Whether the program is ready, and if not the first reason against it. -/
def Registry.readiness (r : Registry) : Readiness :=
  if !r.ready then ⟨false, some "Consumer not yet subscribed"⟩
  else if !r.status.isOperational then ⟨false, some "Critical component unhealthy"⟩
  else ⟨true, none⟩

/-! ## JSON forms -/

/-- The members for a text that is there. -/
def optionalText (name : String) : Option String → List (String × Json)
  | some s => [(name, .text s)]
  | none => []

/-- A part with the time of its last check, in seconds since 1970. -/
structure Checked where
  component : Component
  time : Int
  deriving DecidableEq, Repr

/-- The document of a part. -/
def Checked.toJson (c : Checked) : Json :=
  .object ([("status", .text c.component.status.name)] ++
    optionalText "message" c.component.message ++
    [("consecutive_failures", .nat c.component.failures), ("last_check_timestamp", .int c.time)])

/-- The statuses by name. -/
def Status.byName : List (String × Status) :=
  [healthy, degraded, unhealthy].map fun s => (s.name, s)

/-- How a part is read. -/
def Checked.shape : Shape Checked where
  name := "ComponentHealth"
  start := ⟨.healthy, 0⟩
  fields :=
    [ Field.of "status" (.variant Status.byName)
        fun c v => { c with component := { c.component with status := v } },
      (Field.of "message" (.option .text)
        fun c v => { c with component := { c.component with message := v } }).optional,
      Field.of "consecutive_failures" .count
        fun c v => { c with component := { c.component with failures := v } },
      Field.of "last_check_timestamp" .long fun c v => { c with time := v } ]

/-- A report with the times of the last checks. -/
structure CheckedReport where
  status : Status
  components : List (String × Checked)
  deriving DecidableEq, Repr

/-- The document of a report. -/
def CheckedReport.toJson (r : CheckedReport) : Json :=
  .object [("status", .text r.status.name),
    ("components", .object (r.components.map fun (n, c) => (n, c.toJson)))]

/-- Parts by name, of several with one name the last. -/
def distinctParts (parts : List (String × Checked)) : List (String × Checked) :=
  parts.foldl (fun kept p => kept.filter (·.1 != p.1) ++ [p]) []

/-- How a report is read. -/
def CheckedReport.shape : Shape CheckedReport where
  name := "HealthResponse"
  start := ⟨.healthy, []⟩
  fields :=
    [ Field.of "status" (.variant Status.byName) fun r v => { r with status := v },
      Field.of "components" (.map Json.readText Checked.shape.decode)
        fun r v => { r with components := distinctParts v } ]

/-- The document of a readiness. -/
def Readiness.toJson (r : Readiness) : Json :=
  .object ([("ready", .bool r.ready)] ++ optionalText "reason" r.reason)

/-- How a readiness is read. -/
def Readiness.shape : Shape Readiness where
  name := "ReadinessResponse"
  start := ⟨false, none⟩
  fields :=
    [ Field.of "ready" .bool fun r v => { r with ready := v },
      (Field.of "reason" (.option .text) fun r v => { r with reason := v }).optional ]

end UsageFeed.Health
