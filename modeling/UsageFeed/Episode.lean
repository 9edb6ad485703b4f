import UsageFeed.Journal

/-!
# `UsageFeed.Episode` — processing as a conversation

## Contents
- `Episode`, a computation that may ask for reports, call the service, ask the time and note what
  happens, one step after another; a monad.
- `World`, who answers: every answer may depend on all that happened before.
- `Episode.run`, the journal and the result of an episode in a world.
-/

namespace UsageFeed

open Service (Call Response)
open Calendar (Instant)

/-! ## Episodes -/

/-- A computation that talks to the world step by step. -/
inductive Episode (α : Type) : Type where
  | done (a : α)
  /-- Asks for the report behind a reference. -/
  | load (reference : String) (next : Except Failure Report.Table → Episode α)
  /-- Calls the service. -/
  | call (c : Call) (next : Except Failure Response → Episode α)
  /-- Asks the time. -/
  | clock (next : Instant → Episode α)
  /-- Notes that something happened. -/
  | note (o : Occurrence) (next : Episode α)

namespace Episode

variable {α β : Type}

/-- Goes on with what `f` makes of the result. -/
def andThen (f : α → Episode β) : Episode α → Episode β
  | done a => f a
  | load reference next => load reference fun r => (next r).andThen f
  | call c next => call c fun r => (next r).andThen f
  | clock next => clock fun t => (next t).andThen f
  | note o next => note o (next.andThen f)

/-- One step after another. -/
instance : Monad Episode where
  pure := done
  bind e f := e.andThen f

/-- Asks for the report behind a reference. -/
def askReport (reference : String) : Episode (Except Failure Report.Table) := load reference done

/-- Calls the service. -/
def askService (c : Call) : Episode (Except Failure Response) := call c done

/-- Asks the time. -/
def askTime : Episode Instant := clock done

/-- Notes that something happened. -/
def happen (o : Occurrence) : Episode Unit := note o (done ())

/-- Notes several things in order. -/
def happenAll : List Occurrence → Episode Unit
  | [] => done ()
  | o :: rest => note o (happenAll rest)

end Episode

/-! ## Worlds -/

/-- Who answers an episode. Each answer may depend on the journal so far, and comes with what the
one who answers has to log. -/
structure World where
  load : Journal → String → List Log.Record × Except Failure Report.Table
  call : Journal → Call → List Log.Record × Except Failure Response
  now : Journal → Instant

namespace Episode

variable {α β : Type}

/-- Carries out an episode after a journal: what happens, and the result. -/
def run (w : World) : Journal → Episode α → Journal × α
  | _, done a => ([], a)
  | j, load reference next =>
    let (records, result) := w.load j reference
    let new := records.map .noted ++ [.loaded reference result]
    let (more, a) := (next result).run w (j ++ new)
    (new ++ more, a)
  | j, call c next =>
    let (records, answer) := w.call j c
    let new := records.map .noted ++ [.called c answer]
    let (more, a) := (next answer).run w (j ++ new)
    (new ++ more, a)
  | j, clock next => (next (w.now j)).run w j
  | j, note o next =>
    let (more, a) := next.run w (j ++ [o])
    (o :: more, a)

/-- One episode after another: the second begins where the first has ended. -/
theorem run_andThen (w : World) (j : Journal) (e : Episode α) (f : α → Episode β) :
    (e.andThen f).run w j =
      ((e.run w j).1 ++ ((f (e.run w j).2).run w (j ++ (e.run w j).1)).1,
        ((f (e.run w j).2).run w (j ++ (e.run w j).1)).2) := by
  induction e generalizing j with
  | done a => simp [andThen, run]
  | load reference next ih => simp [andThen, run, ih, List.append_assoc]
  | call c next ih => simp [andThen, run, ih, List.append_assoc]
  | clock next ih => simp [andThen, run, ih]
  | note o next ih => simp [andThen, run, ih, List.append_assoc]

end Episode
end UsageFeed
