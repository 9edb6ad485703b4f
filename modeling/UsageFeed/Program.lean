import UsageFeed.Cli.Arguments
import UsageFeed.Config
import UsageFeed.Connected
import UsageFeed.Consumer
import UsageFeed.Log.Filter
import UsageFeed.Source.JsonLines

/-!
# `UsageFeed.Program` — the program as a whole

## Contents
- `Ending`, how the program ends, and `failed`, an ending with its causes.
- `Launch`, what is known before anything is done, and `Launch.read`, from arguments and an
  environment.
- `Launch.prepare`, the client and the events; `Ready.episode`, the work.
- `run`, all of it in given surroundings.
-/

namespace UsageFeed.Program

/-! ## Endings -/

/-- How the program ends. -/
structure Ending where
  exit : Nat := 0
  /-- The lines that are printed beside the log. -/
  output : List String := []
  /-- What is printed as an error. -/
  errors : String := ""
  deriving DecidableEq, Repr

/-- Causes, each on a line of its own, and numbered if there are several. -/
def causeLines : List String → String
  | [] => ""
  | [cause] => "\n\nCaused by:\n    " ++ cause
  | causes =>
    "\n\nCaused by:" ++ String.join (causes.zipIdx.map fun (cause, i) =>
      "\n" ++ String.ofList (List.replicate (5 - (toString i).length) ' ') ++ toString i ++ ": " ++
        cause)

/-- The ending after a failure, given with what caused it. -/
def failed : List String → Ending
  | [] => { exit := 1 }
  | what :: causes => { exit := 1, errors := "Error: " ++ what ++ causeLines causes ++ "\n" }

/-- A failure with the failures behind it. -/
def chainOf (f : Failure) : List String :=
  match f with
  | .url e => [f.message, e.message]
  | _ => [f.message]

/-! ## Before anything is done -/

/-- The variable that says what is logged before any setting does. -/
def logVariable : String := "RUST_LOG"

/-- What is known before anything is done. -/
structure Launch where
  command : Cli.Command
  config : Config
  filter : Log.Filter
  /-- What is printed about the settings of the log. -/
  complaints : List String := []
  deriving Repr

/-- Reads arguments and environment. -/
def Launch.read (arguments : List String) (env : Config.Environment) : Except Ending Launch :=
  match Cli.read arguments with
  | .lines l => .error { output := l }
  | .mistaken m => .error { exit := 2, errors := m.message }
  | .run command =>
    match Config.ofEnvironment env with
    | .error e => .error (failed e.chain)
    | .ok config =>
      let (filter, complaints) := Log.Filter.ofTexts (env.lookup logVariable) config.logLevel
      .ok ⟨command, config, filter, complaints⟩

/-- Logged once the settings are known. -/
def configured (c : Config) : Log.Record :=
  ⟨.info, .program, "Processor configured", [("kruize_url", .text c.serviceBase)]⟩

/-- What is logged by the service of this name. -/
def serviceName : String := "rosocp-processor"

/-! ## The work -/

/-- All that the work needs. -/
structure Ready where
  config : Config
  client : Service.Client
  /-- What the events are called. -/
  topic : String
  events : List UInt8

/-- Gets the client and the events, where `input` stands for the standard input. -/
def Launch.prepare (l : Launch) (files : Files) (input : List UInt8) : Except Ending Ready :=
  match Service.Client.ofText l.config.serviceBase with
  | .error f =>
    .error (failed ("failed to build recommendation service client" :: chainOf f))
  | .ok client =>
    match l.command with
    | .consume =>
      .error (failed
        ["built without the `kafka` feature; use `replay --events <file>` instead"])
    | .replay "-" => .ok ⟨l.config, client, "-", input⟩
    | .replay path =>
      match files path with
      | .ok events => .ok ⟨l.config, client, path, events⟩
      | .error e => .error (failed ["failed to open events file " ++ path, e.message])

/-- The consumer that the settings ask for. -/
def Ready.consumer (r : Ready) : Consumer :=
  { pipeline := r.config.pipeline, autoCommit := r.config.autoCommit }

/-- Logged at the very end. -/
def finished (s : Stats) : Log.Record :=
  ⟨.info, .program, "Shutting down",
    [("received", .nat s.received), ("processed", .nat s.processed), ("dropped", .nat s.dropped)]⟩

/-- The work: all events are consumed. -/
def Ready.episode (r : Ready) : Episode Stats := do
  Episode.happen (.noted (Log.startup serviceName Cli.version r.topic))
  let (_, _, stats) ←
    consume r.consumer JsonLines.source (JsonLines.turnsFor r.events) (JsonLines.ofFile r.events)
  Episode.happen (.noted (finished stats))
  return stats

/-! ## A whole run -/

/-- What a run of the program shows. -/
structure Run where
  ending : Ending
  /-- What happened. -/
  journal : Journal := []
  /-- The log, each record with the event that it is shown to belong to. -/
  log : List (Option Context × Log.Record) := []
  /-- The requests that were sent. -/
  requests : List Http.Request := []

/-- Runs the program with arguments and an environment, in surroundings, with a standard input. -/
def run (arguments : List String) (env : Config.Environment) (s : Surroundings)
    (input : List UInt8) : Run :=
  match Launch.read arguments env with
  | .error ending => { ending := ending }
  | .ok l =>
    let before : Journal := [.noted (configured l.config)]
    let complaints := String.join (l.complaints.map (· ++ "\n"))
    let shown := fun (j : Journal) => l.filter.apply (j.logRecords serviceName none)
    match l.prepare s.files input with
    | .error ending =>
      { ending := { ending with errors := complaints ++ ending.errors }, journal := before,
        log := shown before }
    | .ok r =>
      let (after, _) := r.episode.run (.connected r.client s) before
      let journal := before ++ after
      { ending := { errors := complaints }, journal := journal, log := shown journal,
        requests := journal.requests r.client }

end UsageFeed.Program
