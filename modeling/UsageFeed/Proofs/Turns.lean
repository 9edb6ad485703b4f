import UsageFeed.Consumer
import UsageFeed.Proofs.Phases

/-!
# `UsageFeed.Proofs.Turns` — the turns of the consumer

A run of the consumer is a list of turns. What a turn adds to the journal, what it asks of the source
and what it counts can all be read off the turn, and a run is the sum of its turns.

## Contents
- **Inside an event.** `Occurrence.isInner` and `processEvent_inner`.
- **One message.** `openEvent_blames` and `handle_yields`.
- **The source.** `SourceOp`, what a source is asked, and `Source.traced`, which records it.
- **Turns.** `Turn` with its deeds, its questions and its counts; `turns_yields` and
  `consume_yields`.
-/

namespace UsageFeed

variable {w : World} {k : Consumer}

/-! ## Inside an event -/

/-- Whether an occurrence is part of the work on an event that is complete. -/
def Occurrence.isInner : Occurrence → Bool
  | eventOpened _ | eventWithoutFiles | loaded _ _ | deploymentSkipped _ _ _ _
  | reportOpened _ _ _ | called _ _ | updateSkipped _ _ | reportClosed _ _ _ _ | eventClosed
  | eventProcessed _ _ => true
  | _ => false

theorem inner_visit {p : Pipeline} {c : Context} (v : Report.Visit) :
    ∀ o ∈ v.deeds p c, o.isInner := by
  unfold Report.Visit.deeds
  refine List.forall_mem_cons.mpr ⟨rfl, ?_⟩
  cases v.result with
  | ok table => refine forall_mem_tableDeeds ?_ ?_ ?_ ?_ ?_ <;> intros <;> rfl
  | error f => exact fun o ho => absurd ho List.not_mem_nil

/-- All that is done about an event is part of the work on it. -/
theorem processEvent_inner (p : Pipeline) (c : Context) (files : List String) :
    (processEvent p c files).Yields w fun d _ => ∀ o ∈ d, o.isInner := by
  refine (processEvent_yields files).mono ?_
  rintro _ _ ⟨visits, -, -, rfl, -⟩ o ho
  simp only [List.mem_append, List.mem_flatMap, List.mem_singleton] at ho
  rcases ho with (ho | ⟨v, _, ho⟩) | rfl
  · unfold openingOf at ho
    rcases List.mem_cons.mp ho with rfl | ho
    · rfl
    · split at ho
      · rw [List.mem_singleton.mp ho]
        rfl
      · exact absurd ho List.not_mem_nil
  · exact inner_visit v o ho
  · rfl

/-! ## One message -/

theorem decode_blames {payload : List UInt8} {f : Failure}
    (h : Event.decode payload = .error f) : f.blamesEvent := by
  unfold Event.decode at h
  cases hread : Json.Decoder.run Event.shape.decode payload with
  | ok e => simp [hread, Except.mapError] at h
  | error e =>
    have hf : .undecodable e = f := by simpa [hread, Except.mapError] using h
    rw [← hf]
    rfl

theorem context_blames {e : Event} {f : Failure} (h : e.context = .error f) : f.blamesEvent := by
  unfold Event.context at h
  split at h
  · cases h
    rfl
  · simp only at h
    split at h
    · cases h
    · cases h
      rfl

/-- If a message is not opened, the message is to blame. -/
theorem openEvent_blames {payload : List UInt8} {f : Failure} (h : openEvent payload = .error f) :
    f.blamesEvent := by
  unfold openEvent at h
  cases hdecode : Event.decode payload with
  | error g =>
    rw [hdecode] at h
    cases h
    exact decode_blames hdecode
  | ok e =>
    rw [hdecode] at h
    cases hcontext : e.context with
    | error g =>
      have hg : g = f := by simpa [hcontext, bind, Except.bind] using h
      rw [← hg]
      exact context_blames hcontext
    | ok c => simp [hcontext, bind, Except.bind, pure, Except.pure] at h

/-- The counters with one more message that has been handled. -/
def Stats.handled (s : Stats) (m : Message) : Stats :=
  match openEvent m.payload with
  | .ok _ => { s with received := s.received + 1, processed := s.processed + 1 }
  | .error _ => { s with received := s.received + 1, dropped := s.dropped + 1 }

@[simp] theorem Stats.received_handled (s : Stats) (m : Message) :
    (s.handled m).received = s.received + 1 := by
  unfold Stats.handled
  cases openEvent m.payload <;> rfl

@[simp] theorem Stats.committed_handled (s : Stats) (m : Message) :
    (s.handled m).committed = s.committed := by
  unfold Stats.handled
  cases openEvent m.payload <;> rfl

/-- What happens while a message is handled: an event that is complete is worked on, and any other
message is dropped. -/
def Handles (m : Message) (d : Journal) : Prop :=
  ∃ inner, d = .received m :: inner ++ [.handled] ∧
    match openEvent m.payload with
    | .ok _ => ∀ o ∈ inner, o.isInner
    | .error f => inner = [.eventDropped f]

/-- **A message is handled from its receipt to its end.** -/
theorem handle_yields (m : Message) (s : Stats) :
    (handle k m s).Yields w fun d r => Handles m d ∧ r = s.handled m := by
  refine Episode.yields_happen_bind ?_
  unfold Handles Stats.handled
  cases hopen : openEvent m.payload with
  | ok opened =>
    obtain ⟨e, c⟩ := opened
    -- between the receipt and the end stands the work on the event, with a note of it
    refine (processEvent_inner k.pipeline c e.files).bind ?_
    intro d outcome hd
    refine Episode.yields_happenAll_bind ?_
    refine Episode.yields_pure ⟨⟨d ++ [.eventProcessed outcome.requestId outcome.reports.length],
      ?_, ?_⟩, rfl⟩
    · simp [Journal.deeds, Occurrence.isNote]
    · intro o ho
      rcases List.mem_append.mp ho with ho | ho
      · exact hd o ho
      · rw [List.mem_singleton.mp ho]
        rfl
  | error f =>
    refine Episode.yields_happenAll_bind ?_
    -- no failure of another kind can come out of opening a message
    rw [if_pos (openEvent_blames hopen)]
    exact Episode.yields_pure ⟨⟨[.eventDropped f], rfl, rfl⟩, rfl⟩

/-! ## The source -/

/-- What a source is asked, with what it says. -/
inductive SourceOp where
  | polled (p : Poll)
  | commit (m : Message) (result : Except Failure Unit)

/-- A source that records what it is asked. -/
def Source.traced {σ : Type} (src : Source σ) : Source (σ × List SourceOp) where
  poll s :=
    let (p, records, state) := src.poll s.1
    (p, records, state, s.2 ++ [.polled p])
  commit s m :=
    let (result, state) := src.commit s.1 m
    (result, state, s.2 ++ [.commit m result])
  isExhausted s := src.isExhausted s.1

variable {σ : Type} {src : Source σ}

theorem Source.traced_poll (state : σ) (ops : List SourceOp) :
    src.traced.poll (state, ops) = ((src.poll state).1, (src.poll state).2.1, (src.poll state).2.2,
      ops ++ [.polled (src.poll state).1]) := rfl

theorem Source.traced_commit (state : σ) (ops : List SourceOp) (m : Message) :
    src.traced.commit (state, ops) m = ((src.commit state m).1, (src.commit state m).2,
      ops ++ [.commit m (src.commit state m).1]) := rfl

theorem acknowledge_traced (m : Message) (state : σ) (ops : List SourceOp) (s : Stats) :
    (acknowledge k src.traced m (state, ops) s).Mirrors (fun r => (r.1.1, r.2))
      (acknowledge k src m state s) := by
  unfold acknowledge
  by_cases hauto : k.autoCommit
  · rw [if_pos hauto, if_pos hauto]
    exact Episode.mirrors_pure ((state, ops), s)
  · rw [if_neg hauto, if_neg hauto, Source.traced_commit]
    obtain ⟨result, state'⟩ := src.commit state m
    cases result with
    | ok _ => exact (Episode.Mirrors.refl _).bind fun _ => Episode.mirrors_pure _
    | error f => exact (Episode.Mirrors.refl _).bind fun _ => Episode.mirrors_pure _

/-- What the consumer does with a source does not depend on the record. -/
theorem turns_traced (fuel : Nat) (state : σ) (ops : List SourceOp) (s : Stats) :
    (turns k src.traced fuel (state, ops) s).Mirrors (fun r => (r.1, r.2.1.1, r.2.2))
      (turns k src fuel state s) := by
  induction fuel generalizing state ops s with
  | zero => exact Episode.mirrors_pure (Halt.none, (state, ops), s)
  | succ fuel ih =>
    rw [turns, turns, Source.traced_poll]
    obtain ⟨polled, records, state'⟩ := src.poll state
    refine (Episode.Mirrors.refl _).bind fun _ => ?_
    cases polled with
    | shutdown => exact (Episode.Mirrors.refl _).bind fun _ => Episode.mirrors_pure _
    | message m =>
      -- handling a message does not touch the source
      refine (Episode.Mirrors.refl _).bind fun s => ?_
      exact (acknowledge_traced m _ _ s).bind fun r => ih r.1.1 r.1.2 r.2
    | nothing =>
      show Episode.Mirrors _ (if src.isExhausted state' then _ else _) _
      by_cases hexhausted : src.isExhausted state'
      · rw [if_pos hexhausted]
        simp only [if_pos hexhausted]
        exact (Episode.Mirrors.refl _).bind fun _ => Episode.mirrors_pure _
      · rw [if_neg hexhausted]
        simp only [if_neg hexhausted]
        exact ih _ _ _
    | failed f => exact (Episode.Mirrors.refl _).bind fun _ => ih _ _ _

/-- So it is for a whole run. -/
theorem consume_traced (fuel : Nat) (state : σ) (ops : List SourceOp) :
    (consume k src.traced fuel (state, ops)).Mirrors (fun r => (r.1, r.2.1.1, r.2.2))
      (consume k src fuel state) := by
  refine (Episode.Mirrors.refl _).bind fun _ => ?_
  refine (turns_traced fuel state ops {}).bind fun r => ?_
  exact (Episode.Mirrors.refl _).bind fun _ => Episode.mirrors_pure _

/-! ## Turns -/

/-- One turn of the consumer. -/
inductive Turn where
  /-- No message came, and one may yet come. -/
  | idle
  /-- No message came, and none will. -/
  | exhausted
  | failed (f : Failure)
  | stopped
  /-- A message came, this was done about it, and this is what the source said to its
  acknowledgement, if it was asked. -/
  | served (m : Message) (handling : Journal) (answer : Option (Except Failure Unit))

/-- What is noted of the acknowledgement of a message. -/
def acknowledgement (m : Message) : Except Failure Unit → Occurrence
  | .ok _ => .committed m
  | .error f => .commitFailed m f

/-- The counters with the acknowledgement of a message. -/
def Stats.acknowledged (s : Stats) : Option (Except Failure Unit) → Stats
  | some (.ok _) => { s with committed := s.committed + 1 }
  | _ => s

@[simp] theorem Stats.received_acknowledged (s : Stats) (a : Option (Except Failure Unit)) :
    (s.acknowledged a).received = s.received := by
  unfold Stats.acknowledged
  split <;> rfl

@[simp] theorem Stats.processed_acknowledged (s : Stats) (a : Option (Except Failure Unit)) :
    (s.acknowledged a).processed = s.processed := by
  unfold Stats.acknowledged
  split <;> rfl

@[simp] theorem Stats.dropped_acknowledged (s : Stats) (a : Option (Except Failure Unit)) :
    (s.acknowledged a).dropped = s.dropped := by
  unfold Stats.acknowledged
  split <;> rfl

namespace Turn

/-- What is done in a turn. -/
def deeds : Turn → Journal
  | idle => []
  | exhausted => [.stopping "event source exhausted"]
  | failed f => [.pollFailed f]
  | stopped => [.stopping "shutdown signal received"]
  | served m handling answer => handling ++ answer.toList.map (acknowledgement m)

/-- What the source is asked in a turn. -/
def ops : Turn → List SourceOp
  | idle | exhausted => [.polled .nothing]
  | failed f => [.polled (.failed f)]
  | stopped => [.polled .shutdown]
  | served m _ answer => .polled (.message m) :: answer.toList.map (.commit m)

/-- The counters after a turn. -/
def count (s : Stats) : Turn → Stats
  | served m _ answer => (s.handled m).acknowledged answer
  | _ => s

/-- The turn is one of the consumer: it deals with a message as the consumer does, and asks for an
acknowledgement unless the source acknowledges by itself. -/
inductive Of (k : Consumer) (w : World) : Turn → Prop
  | idle : Of k w idle
  | exhausted : Of k w exhausted
  | failed (f : Failure) : Of k w (failed f)
  | stopped : Of k w stopped
  | served {m : Message} {handling : Journal} {answer : Option (Except Failure Unit)}
      (handled : ∃ j s, handling = ((handle k m s).run w j).1.deeds)
      (asked : answer.isSome = !k.autoCommit) : Of k w (served m handling answer)

end Turn

/-- A message is acknowledged by asking the source, unless the source does so by itself. -/
theorem acknowledge_yields (m : Message) (state : σ) (ops : List SourceOp) (s : Stats) :
    (acknowledge k src.traced m (state, ops) s).Yields w fun d r =>
      ∃ answer : Option (Except Failure Unit), answer.isSome = !k.autoCommit ∧
        d = answer.toList.map (acknowledgement m) ∧
        r.1.2 = ops ++ answer.toList.map (.commit m) ∧ r.2 = s.acknowledged answer := by
  unfold acknowledge
  cases hauto : k.autoCommit with
  | true => exact Episode.yields_pure ⟨none, rfl, rfl, (List.append_nil _).symm, rfl⟩
  | false =>
    rw [if_neg Bool.false_ne_true, Source.traced_commit]
    cases (src.commit state m).1 with
    | ok _ =>
      refine Episode.yields_happen_bind ?_
      exact Episode.yields_pure ⟨some (.ok ()), rfl, rfl, rfl, rfl⟩
    | error f =>
      refine Episode.yields_happen_bind ?_
      exact Episode.yields_pure ⟨some (.error f), rfl, rfl, rfl, rfl⟩

/-- What a run comes to: the journal, the questions and the counts of its turns. -/
def IsRun (k : Consumer) (w : World) (ops : List SourceOp) (s : Stats) (d : Journal)
    (r : Halt × (σ × List SourceOp) × Stats) : Prop :=
  ∃ ts : List Turn, (∀ t ∈ ts, t.Of k w) ∧ d = ts.flatMap Turn.deeds ∧
    r.2.1.2 = ops ++ ts.flatMap Turn.ops ∧ r.2.2 = ts.foldl Turn.count s

theorem IsRun.nil {ops : List SourceOp} {s : Stats} {halt : Halt} {state : σ} :
    IsRun k w ops s [] (halt, (state, ops), s) :=
  ⟨[], by simp, rfl, (List.append_nil ops).symm, rfl⟩

/-- A turn before a run. -/
theorem IsRun.cons {t : Turn} (ht : t.Of k w) {ops : List SourceOp} {s : Stats} {d : Journal}
    {r : Halt × (σ × List SourceOp) × Stats} (h : IsRun k w (ops ++ t.ops) (t.count s) d r) :
    IsRun k w ops s (t.deeds ++ d) r := by
  obtain ⟨ts, hts, rfl, hops, hs⟩ := h
  refine ⟨t :: ts, List.forall_mem_cons.mpr ⟨ht, hts⟩, rfl, ?_, hs⟩
  rw [hops, List.flatMap_cons, List.append_assoc]

/-- **A run of the consumer is a list of turns**, however many it takes. -/
theorem turns_yields (fuel : Nat) (state : σ) (ops : List SourceOp) (s : Stats) :
    (turns k src.traced fuel (state, ops) s).Yields w (IsRun k w ops s) := by
  induction fuel generalizing state ops s with
  | zero => exact Episode.yields_pure IsRun.nil
  | succ fuel ih =>
    rw [turns, Source.traced_poll]
    refine Episode.yields_happenAll_bind ?_
    simp only [Journal.deeds_notes, List.nil_append]
    cases (src.poll state).1 with
    | shutdown =>
      refine Episode.yields_happen_bind ?_
      exact Episode.yields_pure (IsRun.nil.cons Turn.Of.stopped)
    | message m =>
      -- what is done about the message, then its acknowledgement, then the turns that are left
      have hhandle : (handle k m s).Yields w fun d r =>
          (∃ j s, d = ((handle k m s).run w j).1.deeds) ∧ r = s.handled m :=
        fun j => ⟨⟨j, s, rfl⟩, (handle_yields m s j).2⟩
      refine hhandle.bind ?_
      rintro handling _ ⟨hhandled, rfl⟩
      refine (acknowledge_yields m _ _ _).bind ?_
      rintro _ ⟨⟨state', ops'⟩, s'⟩ ⟨answer, hasked, rfl, rfl, rfl⟩
      refine (ih state' _ _).mono ?_
      intro d r hrun
      rw [← List.append_assoc]
      refine IsRun.cons (Turn.Of.served hhandled hasked) ?_
      rw [Turn.ops, ← List.singleton_append, ← List.append_assoc]
      exact hrun
    | nothing =>
      show Episode.Yields w (if src.isExhausted (src.poll state).2.2 then _ else _) _
      by_cases hexhausted : src.isExhausted (src.poll state).2.2
      · rw [if_pos hexhausted]
        refine Episode.yields_happen_bind ?_
        exact Episode.yields_pure (IsRun.nil.cons Turn.Of.exhausted)
      · rw [if_neg hexhausted]
        exact (ih _ _ _).mono fun d r hrun => hrun.cons Turn.Of.idle
    | failed f =>
      refine Episode.yields_happen_bind ?_
      exact (ih _ _ _).mono fun d r hrun => hrun.cons (Turn.Of.failed f)

/-- A whole run: its turns between a beginning and an end. -/
theorem consume_yields (fuel : Nat) (state : σ) :
    (consume k src.traced fuel (state, [])).Yields w fun d r =>
      ∃ ts : List Turn, (∀ t ∈ ts, t.Of k w) ∧
        d = .consumerStarted k.autoCommit :: ts.flatMap Turn.deeds ++ [.consumerStopped r.2.2] ∧
        r.2.1.2 = ts.flatMap Turn.ops ∧ r.2.2 = ts.foldl Turn.count {} := by
  refine Episode.yields_happen_bind ?_
  refine (turns_yields fuel state [] {}).bind ?_
  rintro _ ⟨halt, ⟨state', ops⟩, s⟩ ⟨ts, hts, rfl, hops, hs⟩
  refine Episode.yields_happen_bind ?_
  exact Episode.yields_pure ⟨ts, hts, rfl, hops, hs⟩

end UsageFeed
