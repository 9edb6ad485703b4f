import UsageFeed.Event
import UsageFeed.Service

/-!
# `UsageFeed.Log` — log records

## Contents
- `Level`, `Component` with the name its records are filed under, and `Record`.
- `spanTexts` and `spanFields`, what is said of an event beside each record that belongs to it.
- **Records of the structured log**, which name the service they come from: `startup`, `shutdown`,
  `eventDropped`, `serviceResponse`, `serviceFailure`, `reportCompleted`.
-/

namespace UsageFeed.Log

/-- How grave a record is. -/
inductive Level where
  | error
  | warn
  | info
  | debug
  | trace
  deriving DecidableEq, Repr

namespace Level

/-- The name of a level. -/
def name : Level → String
  | error => "ERROR"
  | warn => "WARN"
  | info => "INFO"
  | debug => "DEBUG"
  | trace => "TRACE"

/-- How much has to be asked for to see a level. -/
def rank : Level → Nat
  | error => 1
  | warn => 2
  | info => 3
  | debug => 4
  | trace => 5

end Level

/-- The part of the program a record comes from. -/
inductive Component where
  | program
  | consumer
  | pipeline
  | structured
  | reports
  | client
  | replay
  | api
  deriving DecidableEq, Repr

/-- The name of a component, under which its records are filed. -/
def Component.target : Component → String
  | program => "rosocp_processor"
  | consumer => "processor_lib::consumer"
  | pipeline => "processor_lib::orchestrator"
  | structured => "processor_lib::observability"
  | reports => "processor_lib::report"
  | client => "processor_lib::service::client"
  | replay => "processor_lib::source::jsonl"
  | api => "rosocp_processor::api"

/-- A log record. The fields are in order, the message is one of them. -/
structure Record where
  level : Level
  component : Component
  message : String
  fields : List (String × Json) := []
  deriving Repr

/-- The document of a record's fields. -/
def Record.fieldsJson (r : Record) : Json := .object (("message", .text r.message) :: r.fields)

/-- What is said of an event beside each record that belongs to it. -/
def spanTexts (c : Context) : List (String × String) :=
  [("request_id", c.requestId), ("org_id", c.orgId), ("account", c.account.getD "-")]

/-- The same as members of a document. -/
def spanFields (c : Context) : List (String × Json) :=
  (spanTexts c).map fun (name, text) => (name, .text text)

/-- The name of what records of one event belong to. -/
def spanName : String := "event"

/-! ## Records of the structured log -/

/-- The program has begun to listen. -/
def startup (service version topic : String) : Record where
  level := .info
  component := .structured
  message := "Started listening for upload events"
  fields := [("event", .text "processor_started"), ("service", .text service),
    ("version", .text version), ("topic", .text topic)]

/-- The program is about to end. -/
def shutdown (service reason : String) : Record where
  level := .info
  component := .structured
  message := "Report processor shutting down"
  fields := [("event", .text "processor_shutdown"), ("service", .text service),
    ("reason", .text reason)]

/-- A message was no event, or lacked something. -/
def eventDropped (service reason : String) : Record where
  level := .error
  component := .structured
  message := "Incorrect event received on upload topic"
  fields := [("event", .text "event_dropped"), ("service", .text service), ("reason", .text reason)]

/-- The service has answered a call. -/
def serviceResponse (service : String) (op : Service.Operation) (experiment : String)
    (r : Service.Response) : Record where
  level := if r.isSuccess then .info else .warn
  component := .structured
  message :=
    if r.isSuccess then "Recommendation service call succeeded"
    else "Recommendation service rejected call"
  fields := [("event", .text "service_response"), ("service", .text service),
    ("operation", .text op.name), ("experiment_name", .text experiment),
    ("status", .nat r.status), ("body", .text r.body)]

/-- A call has failed. -/
def serviceFailure (service : String) (op : Service.Operation) (experiment error : String) :
    Record where
  level := .warn
  component := .structured
  message := "Recommendation service call failed"
  fields := [("event", .text "service_call_failed"), ("service", .text service),
    ("operation", .text op.name), ("experiment_name", .text experiment), ("error", .text error)]

/-- A report has been worked through. -/
def reportCompleted (service reference : String) (deployments failedCalls skippedUpdates : Nat) :
    Record where
  level := .info
  component := .structured
  message := "Processed report file"
  fields := [("event", .text "report_processed"), ("service", .text service),
    ("reference", .text reference), ("deployments", .nat deployments),
    ("failed_calls", .nat failedCalls), ("skipped_updates", .nat skippedUpdates)]

end UsageFeed.Log
