import UsageFeed.Pipeline

/-!
# `UsageFeed.Consumer` — messages into events

## Contents
- `handle`, what is done about one message, and `acknowledge`.
- `Halt`, why the consumer ends, and `turns`, its loop for a number of turns.
- `consume`, a whole run.
-/

namespace UsageFeed

/-- The settings of the consumer. -/
structure Consumer where
  pipeline : Pipeline := {}
  /-- Whether the source acknowledges messages by itself. -/
  autoCommit : Bool := false
  deriving DecidableEq, Repr

/-- The event in a message with its context, if it is one and is complete. -/
def openEvent (payload : List UInt8) : Except Failure (Event × Context) := do
  let e ← Event.decode payload
  let c ← e.context
  return (e, c)

/-- Processes a message, or drops it. -/
def handle (k : Consumer) (m : Message) (s : Stats) : Episode Stats := do
  Episode.happen (.received m)
  let s := { s with received := s.received + 1 }
  match openEvent m.payload with
  | .ok (e, c) =>
    let outcome ← processEvent k.pipeline c e.files
    Episode.happenAll [.eventProcessed outcome.requestId outcome.reports.length, .handled]
    return { s with processed := s.processed + 1 }
  | .error f =>
    Episode.happenAll [if f.blamesEvent then .eventDropped f else .eventFailed m f, .handled]
    return { s with dropped := s.dropped + 1 }

/-- Acknowledges a message, unless the source does so by itself. -/
def acknowledge {σ : Type} (k : Consumer) (src : Source σ) (m : Message) (state : σ) (s : Stats) :
    Episode (σ × Stats) := do
  if k.autoCommit then return (state, s)
  else
    match src.commit state m with
    | (.ok _, state) =>
      Episode.happen (.committed m)
      return (state, { s with committed := s.committed + 1 })
    | (.error f, state) =>
      Episode.happen (.commitFailed m f)
      return (state, s)

/-- Why the consumer is not running any more, if so. -/
inductive Halt where
  | shutdown
  | exhausted
  /-- It would go on. -/
  | none
  deriving DecidableEq, Repr

/-- Asks the source for messages so many times at most, and deals with each before the next. -/
def turns {σ : Type} (k : Consumer) (src : Source σ) : Nat → σ → Stats → Episode (Halt × σ × Stats)
  | 0, state, s => return (.none, state, s)
  | fuel + 1, state, s => do
    let (polled, records, state) := src.poll state
    Episode.happenAll (records.map .noted)
    match polled with
    | .shutdown =>
      Episode.happen (.stopping "shutdown signal received")
      return (.shutdown, state, s)
    | .message m =>
      let s ← handle k m s
      let (state, s) ← acknowledge k src m state s
      turns k src fuel state s
    | .nothing =>
      if src.isExhausted state then
        Episode.happen (.stopping "event source exhausted")
        return (.exhausted, state, s)
      else turns k src fuel state s
    | .failed f =>
      Episode.happen (.pollFailed f)
      turns k src fuel state s

/-- Runs the consumer on a source, for so many turns at most. -/
def consume {σ : Type} (k : Consumer) (src : Source σ) (fuel : Nat) (state : σ) :
    Episode (Halt × σ × Stats) := do
  Episode.happen (.consumerStarted k.autoCommit)
  let (halt, state, s) ← turns k src fuel state {}
  Episode.happen (.consumerStopped s)
  return (halt, state, s)

end UsageFeed
