import UsageFeed.Source.Basic

/-!
# `UsageFeed.Source.Script` — a source that follows a script

## Contents
- `Step` and `Script`, what the source does each time it is asked, and which messages it refuses to
  have acknowledged.
- `Script.source`.
-/

namespace UsageFeed

/-- What a scripted source does when asked. -/
inductive Script.Step where
  /-- Gives a message; without an offset it follows the message before. -/
  | message (payload : List UInt8) (topic : String) (partition : Int) (offset : Option Int)
  | nothing
  | failed (f : Failure)
  | shutdown
  deriving Repr

/-- The state of a scripted source. -/
structure Script where
  steps : List Script.Step
  /-- The offset of a message that does not say its own. -/
  nextOffset : Int := 0
  /-- Whether the source stays open after the last step, and for how many polls more it has nothing
  before the program is told to stop. -/
  idle : Option Nat := none
  /-- The offsets whose acknowledgement fails. -/
  refused : List Int := []
  deriving Repr

namespace Script

/-- Carries out the next step. -/
def poll (s : Script) : Poll × List Log.Record × Script :=
  match s.steps with
  | [] =>
    match s.idle with
    | none => (.nothing, [], s)
    | some 0 => (.shutdown, [], s)
    | some (n + 1) => (.nothing, [], { s with idle := some n })
  | .message payload topic partition offset :: more =>
    let offset := offset.getD s.nextOffset
    (.message ⟨payload, topic, partition, offset⟩, [],
      { s with steps := more, nextOffset := offset + 1 })
  | .nothing :: more => (.nothing, [], { s with steps := more })
  | .failed f :: more => (.failed f, [], { s with steps := more })
  | .shutdown :: more => (.shutdown, [], { s with steps := more })

/-- A script as a source of messages. -/
def source : Source Script where
  poll := poll
  commit s m :=
    (if m.offset ∈ s.refused then .error (.source "commit refused") else .ok (), s)
  isExhausted s := s.steps.isEmpty && s.idle.isNone

/-- Enough turns to come to the end of a script. -/
def turnsFor (s : Script) : Nat := s.steps.length + s.idle.getD 0 + 1

end Script
end UsageFeed
