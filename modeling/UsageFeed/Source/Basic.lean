import UsageFeed.Log

/-!
# `UsageFeed.Source.Basic` — where messages come from

## Contents
- `Message`, a payload and its place at the source.
- `Poll`, what asking for a message can bring, and `Source`, something that can be asked.
-/

namespace UsageFeed

/-- A message and its place at the source. -/
structure Message where
  payload : List UInt8
  topic : String
  partition : Int
  offset : Int
  deriving DecidableEq, Repr

/-- What asking for a message can bring. -/
inductive Poll where
  | message (m : Message)
  /-- No message has come in time. -/
  | nothing
  | failed (f : Failure)
  /-- The program was told to stop while waiting. -/
  | shutdown

/-- A source of messages whose state is of type `σ`. -/
structure Source (σ : Type) where
  /-- Asks for a message: what came, what the source has to log about it, and its new state. -/
  poll : σ → Poll × List Log.Record × σ
  /-- Acknowledges a message. -/
  commit : σ → Message → Except Failure Unit × σ
  /-- Whether no message will ever come again. -/
  isExhausted : σ → Bool

end UsageFeed
