import UsageFeed.Source.Basic
import UsageFeed.Metering
import UsageFeed.Health

/-!
# `UsageFeed.Journal` — what happened, and what it shows

## Contents
- `Occurrence`, everything that can happen while messages are processed; a journal is a list of them
  in order.
- **Views of a journal.** The calls made and loads tried (`calls`, `loads`), the log
  (`logRecords`), the counters (`observed`) and the health of the program (`follow`).
-/

namespace UsageFeed

open Service (Call Response)

/-- Counters of one run of the consumer. -/
structure Stats where
  received : Nat := 0
  processed : Nat := 0
  dropped : Nat := 0
  committed : Nat := 0
  deriving DecidableEq, Repr

/-- Something that happened while messages were processed. -/
inductive Occurrence where
  /-- The consumer began. -/
  | consumerStarted (autoCommit : Bool)
  | pollFailed (f : Failure)
  | received (m : Message)
  /-- An event proved complete, and its files are processed from here on. -/
  | eventOpened (c : Context)
  | eventWithoutFiles
  /-- A report was asked for, and this came. -/
  | loaded (reference : String) (result : Except Failure Report.Table)
  | deploymentSkipped (reference ns deployment column : String)
  /-- The deployments of a report are known; those skipped are not counted. -/
  | reportOpened (reference : String) (rows deployments : Nat)
  /-- The service was called, and this came back. -/
  | called (c : Call) (answer : Except Failure Response)
  | updateSkipped (e : Experiment) (f : Failure)
  | reportClosed (reference : String) (deployments failedCalls skippedUpdates : Nat)
  | eventClosed
  | eventProcessed (requestId : String) (reports : Nat)
  | eventDropped (f : Failure)
  /-- An event was given up for a reason that lies outside it. -/
  | eventFailed (m : Message) (f : Failure)
  /-- Nothing more is done about the message received last. -/
  | handled
  | committed (m : Message)
  | commitFailed (m : Message) (f : Failure)
  /-- The consumer is about to end. -/
  | stopping (reason : String)
  | consumerStopped (s : Stats)
  /-- Something else was worth a log record. -/
  | noted (r : Log.Record)

/-- What happened, in order. -/
abbrev Journal := List Occurrence

namespace Occurrence

/-! ## Calls and loads -/

/-- The call that was made, with what came back. -/
def call? : Occurrence → Option (Call × Except Failure Response)
  | called c a => some (c, a)
  | _ => none

/-- The report that was asked for, with what came. -/
def load? : Occurrence → Option (String × Except Failure Report.Table)
  | loaded reference r => some (reference, r)
  | _ => none

/-! ## The log -/

/-- A record of the consumer. -/
def consumerRecord (level : Log.Level) (message : String) (fields : List (String × Json)) :
    Log.Record := ⟨level, .consumer, message, fields⟩

/-- A record of the pipeline. -/
def pipelineRecord (level : Log.Level) (message : String) (fields : List (String × Json)) :
    Log.Record := ⟨level, .pipeline, message, fields⟩

/-- What is logged about an occurrence, in the name of a service. -/
def logRecords (service : String) : Occurrence → List Log.Record
  | consumerStarted auto =>
    [consumerRecord .info "Starting upload event consumer" [("auto_commit", .bool auto)]]
  | pollFailed f =>
    [consumerRecord .error "Failed to poll event source" [("error", .text f.message)]]
  | eventWithoutFiles => [pipelineRecord .warn "Event carries no report files" []]
  | loaded reference (.error f) =>
    [pipelineRecord .warn "Unable to load report, skipping file"
      [("reference", .text reference), ("error", .text f.message)]]
  | deploymentSkipped reference ns deployment column =>
    [pipelineRecord .warn "Skipping deployment with empty container identity"
      [("reference", .text reference), ("namespace", .text ns), ("deployment", .text deployment),
        ("column", .text column)]]
  | reportOpened reference rows deployments =>
    [pipelineRecord .info "Report loaded"
      [("reference", .text reference), ("rows", .nat rows), ("deployments", .nat deployments)]]
  | called c (.ok r) => [Log.serviceResponse service c.operation c.experiment r]
  | called c (.error f) =>
    [Log.serviceFailure service c.operation c.experiment f.message,
      pipelineRecord .debug "Continuing after failed call" [("operation", .text c.operation.name)]]
  | updateSkipped e f =>
    [pipelineRecord .warn "Skipping update-results for deployment"
      [("experiment_name", .text e.name), ("namespace", .text e.ns),
        ("deployment", .text e.deployment), ("error", .text f.message)]]
  | reportClosed reference deployments failedCalls skippedUpdates =>
    [Log.reportCompleted service reference deployments failedCalls skippedUpdates]
  | eventProcessed requestId reports =>
    [consumerRecord .debug "Event handled"
      [("request_id", .text requestId), ("reports", .nat reports)]]
  | eventDropped f => [Log.eventDropped service f.message]
  | eventFailed m f =>
    [consumerRecord .error "Unknown error while handling event"
      [("error", .text f.message), ("offset", .int m.offset)]]
  | commitFailed m f =>
    [consumerRecord .warn "Failed to commit message"
      [("error", .text f.message), ("partition", .int m.partition), ("offset", .int m.offset)]]
  | stopping reason => [Log.shutdown service reason]
  | consumerStopped s =>
    [consumerRecord .info "Consumer stopped"
      [("received", .nat s.received), ("processed", .nat s.processed), ("dropped", .nat s.dropped),
        ("committed", .nat s.committed)]]
  | noted r => [r]
  | received _ | eventOpened _ | loaded _ (.ok _) | eventClosed | handled | committed _ => []

/-- The event that is being processed after an occurrence. -/
def eventAfter (event : Option Context) : Occurrence → Option Context
  | eventOpened c => some c
  | eventClosed => none
  | _ => event

/-! ## Counters -/

/-- The series that an occurrence adds one to. -/
def observed : Occurrence → List Metering.Series
  | received _ => [.eventsReceived]
  | eventDropped _ => [.eventsMalformed]
  | handled => [.eventProcessing]
  | loaded _ (.error _) => [.reportLoadErrors]
  | reportClosed _ _ _ _ => [.reportsProcessed]
  | called c a => [.serviceCalls c.operation (Service.outcome a), .serviceLatency c.operation]
  | _ => []

/-! ## Health -/

/-- The health of the program after an occurrence. Any answer shows that the service can be
reached. -/
def follow (r : Health.Registry) : Occurrence → Health.Registry
  | consumerStarted _ => (r.register Health.Part.consumer.name).setReady true
  | pollFailed f => r.fail Health.Part.consumer.name f.message
  | handled => r.succeed Health.Part.consumer.name
  | loaded _ (.ok _) => r.succeed Health.Part.loader.name
  | loaded _ (.error f) => r.fail Health.Part.loader.name f.message
  | called _ (.ok _) => r.succeed Health.Part.service.name
  | called _ (.error f) => r.fail Health.Part.service.name f.message
  | consumerStopped _ => r.setReady false
  | _ => r

end Occurrence

namespace Journal

/-- The calls made, with what came back. -/
def answeredCalls (j : Journal) : List (Call × Except Failure Response) :=
  j.filterMap Occurrence.call?

/-- The calls made. -/
def calls (j : Journal) : List Call := (answeredCalls j).map (·.1)

/-- The reports asked for, with what came. -/
def loads (j : Journal) : List (String × Except Failure Report.Table) :=
  j.filterMap Occurrence.load?

/-- The messages acknowledged. -/
def commits (j : Journal) : List Message :=
  j.filterMap fun o => match o with
    | .committed m => some m
    | _ => none

/-- The series that were observed, each as often as it was. -/
def observed (j : Journal) : List Metering.Series := j.flatMap Occurrence.observed

/-- The health of the program after a journal. -/
def follow (r : Health.Registry) (j : Journal) : Health.Registry := j.foldl Occurrence.follow r

/-- The log, each record with the event it belongs to, if any. -/
def logRecords (service : String) (event : Option Context) :
    Journal → List (Option Context × Log.Record)
  | [] => []
  | o :: rest =>
    let event := o.eventAfter event
    (o.logRecords service).map (event, ·) ++ logRecords service event rest

end Journal
end UsageFeed
