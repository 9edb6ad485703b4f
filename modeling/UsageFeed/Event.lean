import UsageFeed.Failure
import UsageFeed.Json.Record
import UsageFeed.Json.Text

/-!
# `UsageFeed.Event` — upload events

## Contents
- `Event` and `Event.Metadata`, a notice that report files have been uploaded, as received.
- Their JSON forms (`toJson`, `shape`) and `Event.decode`.
- `Context`, what processing an event needs to know about it, and `Event.context`, which refuses an
  event that does not say it.
-/

namespace UsageFeed

/-! ## Events -/

/-- Who an upload comes from. -/
structure Event.Metadata where
  orgId : Option String := none
  account : Option String := none
  clusterId : Option String := none
  deriving DecidableEq, Repr

/-- A notice that report files have been uploaded. -/
structure Event where
  requestId : Option String := none
  identity : Option String := none
  metadata : Option Event.Metadata := none
  files : List String := []
  deriving DecidableEq, Repr

namespace Event

open Json (Field Decoder Shape)

/-- The document of an event's metadata. -/
def Metadata.toJson (m : Metadata) : Json :=
  .object [("org_id", Json.ofOption .text m.orgId), ("account", Json.ofOption .text m.account),
    ("cluster_id", Json.ofOption .text m.clusterId)]

/-- The document of an event. -/
def toJson (e : Event) : Json :=
  .object [("request_id", Json.ofOption .text e.requestId),
    ("b64_identity", Json.ofOption .text e.identity),
    ("metadata", Json.ofOption Metadata.toJson e.metadata), ("files", Json.texts e.files)]

/-- How metadata is read. -/
def Metadata.shape : Shape Metadata where
  name := "EventMetadata"
  start := {}
  fields :=
    [ (Field.of "org_id" (.option .text) fun m v => { m with orgId := v }).defaulted,
      (Field.of "account" (.option .text) fun m v => { m with account := v }).defaulted,
      (Field.of "cluster_id" (.option .text) fun m v => { m with clusterId := v }).defaulted ]

/-- How an event is read. -/
def shape : Shape Event where
  name := "InboundEvent"
  start := {}
  fields :=
    [ (Field.of "request_id" (.option .text) fun e v => { e with requestId := v }).defaulted,
      (Field.of "b64_identity" (.option .text) fun e v => { e with identity := v }).defaulted,
      (Field.of "metadata" (.option Metadata.shape.decode)
        fun e v => { e with metadata := v }).defaulted,
      (Field.of "files" (.list .text) fun e v => { e with files := v }).defaulted ]

/-- Reads a message as an event. -/
def decode (payload : List UInt8) : Except Failure Event :=
  (Decoder.run shape.decode payload).mapError .undecodable

end Event

/-! ## Contexts -/

/-- What processing an event needs to know about it. -/
structure Context where
  requestId : String
  account : Option String
  orgId : String
  clusterId : String
  identity : Option String
  deriving DecidableEq, Repr

namespace Event

/-- A text that is there and not empty. -/
def nonEmpty (s : Option String) : Option String := s.filter (· ≠ "")

/-- The names of the values that are not there. -/
def absent (fields : List (String × Option String)) : List String :=
  (fields.filter fun f => f.2.isNone).map (·.1)

/-- The context of an event, or a failure that names every field it lacks. -/
def context (e : Event) : Except Failure Context :=
  match e.metadata with
  | none => .error (.incompleteEvent ["metadata"])
  | some m =>
    let org := nonEmpty m.orgId
    let request := nonEmpty e.requestId
    let cluster := nonEmpty m.clusterId
    match request, org, cluster with
    | some request, some org, some cluster =>
      .ok ⟨request, nonEmpty m.account, org, cluster, nonEmpty e.identity⟩
    | _, _, _ =>
      .error (.incompleteEvent
        (absent [("org_id", org), ("request_id", request), ("cluster_id", cluster)]))

end Event
end UsageFeed
