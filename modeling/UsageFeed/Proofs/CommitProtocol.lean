import Mathlib.Data.List.Induction
import UsageFeed.Proofs.Turns

/-!
# `UsageFeed.Proofs.CommitProtocol` — messages, acknowledgements and counters

Whatever a source brings, every message is handled before it is acknowledged and acknowledged before
the next one is asked for, and the counters and the metrics agree on how many there were.

## Contents
- **Views.** What is polled and acknowledged in the questions to a source; the steps of the protocol
  in a journal (`Journal.protocol`).
- **Order.** `Orderly`, polls, handling and acknowledgements in the right order.
- **Counts.** `Counted`, how counters and metrics go with what the source was asked.
- **Runs.** One turn preserves both (`Orderly.turn`, `Counted.turn`), and so do all turns
  (`orderly_counted_turns`); `CommitProtocol` and `consume_commitProtocol`.
-/

namespace UsageFeed

open Metering (Series growth)

variable {w : World} {k : Consumer}

/-! ## Views -/

namespace SourceOp

/-- The message that a poll brought. -/
def polled? : SourceOp → Option Message
  | polled (.message m) => some m
  | _ => none

/-- The message whose acknowledgement was tried. -/
def attempted? : SourceOp → Option Message
  | commit m _ => some m
  | _ => none

/-- Whether an acknowledgement failed. -/
def isRefused : SourceOp → Bool
  | commit _ (.error _) => true
  | _ => false

end SourceOp

/-- The message that was received. -/
def Occurrence.received? : Occurrence → Option Message
  | received m => some m
  | _ => none

/-- Whether an occurrence is a step of a message through the consumer. -/
def Occurrence.isProtocol : Occurrence → Bool
  | received _ | handled | committed _ | commitFailed _ _ => true
  | _ => false

/-- Whether a series counts messages, not what is done about an event. -/
def Metering.Series.countsMessages : Series → Bool
  | eventsReceived | eventProcessing | eventsMalformed => true
  | _ => false

namespace Journal

/-- The steps of messages through the consumer. -/
def protocol (j : Journal) : Journal := j.filter (·.isProtocol)

@[simp] theorem protocol_append (i j : Journal) : protocol (i ++ j) = protocol i ++ protocol j :=
  List.filter_append i j

theorem protocol_deeds (j : Journal) : protocol j.deeds = protocol j := by
  unfold protocol deeds
  rw [List.filter_filter]
  apply List.filter_congr
  intro o _
  cases o <;> rfl

/-- The messages received are found among the steps of the protocol. -/
theorem filterMap_protocol (j : Journal) :
    j.protocol.filterMap Occurrence.received? = j.filterMap Occurrence.received? := by
  unfold protocol
  rw [List.filterMap_filter]
  congr 1
  funext o
  cases o <;> rfl

end Journal

theorem isProtocol_of_isInner {o : Occurrence} (h : o.isInner) : o.isProtocol = false := by
  revert h
  cases o <;> simp [Occurrence.isInner, Occurrence.isProtocol]

theorem countsMessages_of_isInner {o : Occurrence} (h : o.isInner) :
    ∀ s ∈ o.observed, s.countsMessages = false := by
  revert h
  cases o with
  | loaded reference result =>
    cases result <;> simp [Occurrence.observed, Series.countsMessages]
  | _ => simp [Occurrence.isInner, Occurrence.observed, Series.countsMessages]

/-- The work on an event moves no message along. -/
theorem protocol_inner {j : Journal} (h : ∀ o ∈ j, o.isInner) : j.protocol = [] :=
  List.filter_eq_nil_iff.mpr fun o ho => by simp [isProtocol_of_isInner (h o ho)]

/-- The work on an event counts no message. -/
theorem growth_inner {j : Journal} (h : ∀ o ∈ j, o.isInner) {s : Series} (hs : s.countsMessages) :
    growth j.observed s = 0 := by
  refine Journal.growth_eq_zero fun o ho hseries => ?_
  rw [countsMessages_of_isInner (h o ho) s hseries] at hs
  exact Bool.false_ne_true hs

theorem protocol_handles {m : Message} {d : Journal} (h : Handles m d) :
    d.protocol = [.received m, .handled] := by
  obtain ⟨inner, rfl, hinner⟩ := h
  have hnone : Journal.protocol inner = [] := by
    cases hopen : openEvent m.payload with
    | ok opened =>
      rw [hopen] at hinner
      exact protocol_inner hinner
    | error f =>
      rw [hopen] at hinner
      rw [hinner]
      rfl
  rw [List.cons_append, ← List.singleton_append, Journal.protocol_append, Journal.protocol_append,
    hnone]
  rfl

/-- A message counts as received and as handled once, and as malformed if it is dropped. -/
theorem growth_handles {m : Message} {d : Journal} (h : Handles m d) {s : Series}
    (hs : s.countsMessages) :
    growth d.observed s =
      if s = .eventsMalformed then (match openEvent m.payload with | .ok _ => 0 | .error _ => 1)
      else 1 := by
  obtain ⟨inner, rfl, hinner⟩ := h
  rw [List.cons_append, ← List.singleton_append, Journal.growth_append, Journal.growth_append]
  cases hopen : openEvent m.payload with
  | ok opened =>
    rw [hopen] at hinner
    rw [growth_inner hinner hs]
    cases s with
    | eventsReceived => rfl
    | eventProcessing => rfl
    | eventsMalformed => rfl
    | _ => cases hs
  | error f =>
    rw [hopen] at hinner
    rw [hinner]
    cases s with
    | eventsReceived => rfl
    | eventProcessing => rfl
    | eventsMalformed => rfl
    | _ => cases hs

/-! ## Order -/

/-- Polls, handling and acknowledgements in the right order. On the left stands what the source is
asked, on the right what happens to messages. -/
inductive Orderly (auto : Bool) : List SourceOp → Journal → Prop
  | start : Orderly auto [] []
  /-- A poll brings no message. -/
  | waited {ops : List SourceOp} {j : Journal} {p : Poll} (before : Orderly auto ops j)
      (none : (SourceOp.polled p).polled? = none) : Orderly auto (ops ++ [.polled p]) j
  /-- A poll brings a message, which is handled; the source acknowledges it by itself. -/
  | handled {ops : List SourceOp} {j : Journal} {m : Message} (before : Orderly auto ops j)
      (byItself : auto = true) :
      Orderly auto (ops ++ [.polled (.message m)]) (j ++ [.received m, .handled])
  /-- A poll brings a message, which is handled and after that acknowledged, with whatever
  success. -/
  | answered {ops : List SourceOp} {j : Journal} {m : Message} {answer : Except Failure Unit}
      (before : Orderly auto ops j) (asked : auto = false) :
      Orderly auto (ops ++ [.polled (.message m), .commit m answer])
        (j ++ [.received m, .handled, acknowledgement m answer])

namespace Orderly

variable {auto : Bool} {ops : List SourceOp} {j : Journal}

/-- The messages that came are those that were handled, in order. -/
theorem handled_eq (h : Orderly auto ops j) :
    j.filterMap Occurrence.received? = ops.filterMap SourceOp.polled? := by
  induction h with
  | start => rfl
  | waited _ hnone ih =>
    rw [List.filterMap_append, ← ih, List.filterMap_cons_none hnone]
    exact (List.append_nil _).symm
  | handled _ _ ih =>
    rw [List.filterMap_append, List.filterMap_append, ih]
    rfl
  | @answered _ _ _ answer _ _ ih =>
    rw [List.filterMap_append, List.filterMap_append, ih]
    cases answer <;> rfl

/-- Each message is acknowledged once, or none if the source does so by itself. -/
theorem attempted_eq (h : Orderly auto ops j) :
    ops.filterMap SourceOp.attempted? =
      if auto then [] else ops.filterMap SourceOp.polled? := by
  induction h with
  | start => cases auto <;> rfl
  | waited _ hnone ih =>
    rw [List.filterMap_append, List.filterMap_append, ih, List.filterMap_cons_none hnone,
      List.filterMap_nil, List.append_nil]
    exact List.append_nil _
  | handled _ hauto ih =>
    rw [List.filterMap_append, ih, if_pos hauto, if_pos hauto]
    rfl
  | answered _ hauto ih =>
    subst hauto
    rw [List.filterMap_append, List.filterMap_append, ih]
    rfl

/-- **One more turn keeps the order.** -/
theorem turn {t : Turn} (ht : t.Of k w) (h : Orderly k.autoCommit ops j.protocol) :
    Orderly k.autoCommit (ops ++ t.ops) (j ++ t.deeds).protocol := by
  rw [Journal.protocol_append]
  -- a turn without a message adds a poll and nothing that the protocol speaks of
  have hwaited : ∀ {p : Poll} {d : Journal}, (SourceOp.polled p).polled? = none →
      d.protocol = [] → Orderly k.autoCommit (ops ++ [.polled p]) (j.protocol ++ d.protocol) := by
    intro p d hp hd
    rw [hd, List.append_nil]
    exact h.waited hp
  cases ht with
  | idle => exact hwaited rfl rfl
  | exhausted => exact hwaited rfl rfl
  | failed f => exact hwaited rfl rfl
  | stopped => exact hwaited rfl rfl
  | @served m handling answer hhandled hasked =>
    obtain ⟨i, s, rfl⟩ := hhandled
    have hprotocol := protocol_handles (handle_yields (k := k) (w := w) m s i).1
    rw [Turn.deeds, Journal.protocol_append, hprotocol]
    -- the source is asked if and only if it does not acknowledge by itself
    cases answer with
    | none =>
      have hauto : k.autoCommit = true := by simpa using hasked.symm
      exact h.handled hauto
    | some a =>
      have hauto : k.autoCommit = false := by simpa using hasked.symm
      have hack : Journal.protocol ((some a).toList.map (acknowledgement m)) =
          [acknowledgement m a] := by
        cases a <;> rfl
      rw [hack]
      exact h.answered hauto

end Orderly

/-! ## Counts -/

/-- The counters agree with the questions to the source, with each other and with the metrics. -/
structure Counted (auto : Bool) (ops : List SourceOp) (journal : Journal) (s : Stats) : Prop where
  received : s.received = (ops.filterMap SourceOp.polled?).length
  outcomes : s.received = s.processed + s.dropped
  committed :
    if auto then s.committed = 0 else s.received = s.committed + ops.countP (·.isRefused)
  eventsReceived : growth journal.observed .eventsReceived = s.received
  eventProcessing : growth journal.observed .eventProcessing = s.received
  eventsMalformed : growth journal.observed .eventsMalformed = s.dropped

namespace Counted

variable {auto : Bool} {ops : List SourceOp} {j : Journal} {s : Stats}

theorem start : Counted auto [] [] {} where
  received := rfl
  outcomes := rfl
  committed := by cases auto <;> rfl
  eventsReceived := rfl
  eventProcessing := rfl
  eventsMalformed := rfl

/-- A poll without a message changes no counter. -/
theorem wait (h : Counted auto ops j s) {p : Poll} {d : Journal}
    (hp : (SourceOp.polled p).polled? = none)
    (hd : ∀ x : Series, x.countsMessages → growth d.observed x = 0) :
    Counted auto (ops ++ [.polled p]) (j ++ d) s where
  received := by
    rw [List.filterMap_append, List.filterMap_cons_none hp, h.received]
    exact congrArg List.length (List.append_nil _).symm
  outcomes := h.outcomes
  committed := by
    rw [List.countP_append]
    exact h.committed
  eventsReceived := by
    rw [Journal.growth_append, hd _ rfl, h.eventsReceived, Nat.add_zero]
  eventProcessing := by
    rw [Journal.growth_append, hd _ rfl, h.eventProcessing, Nat.add_zero]
  eventsMalformed := by
    rw [Journal.growth_append, hd _ rfl, h.eventsMalformed, Nat.add_zero]

/-- A message is counted once, as processed or as dropped, and its acknowledgement is counted if it
is tried and succeeds. -/
theorem serve (h : Counted auto ops j s) {m : Message} {d : Journal} (hd : Handles m d)
    {answer : Option (Except Failure Unit)} (hasked : answer.isSome = !auto) :
    Counted auto (ops ++ .polled (.message m) :: answer.toList.map (.commit m))
      (j ++ (d ++ answer.toList.map (acknowledgement m))) ((s.handled m).acknowledged answer) := by
  have hcommit : (answer.toList.map (SourceOp.commit m)).filterMap SourceOp.polled? = [] := by
    cases answer <;> rfl
  have hack : Journal.observed (answer.toList.map (acknowledgement m)) = [] := by
    rcases answer with _ | _ | _ <;> rfl
  have hgrowth : ∀ x : Series,
      growth (j ++ (d ++ answer.toList.map (acknowledgement m))).observed x =
        growth j.observed x + growth d.observed x := by
    intro x
    rw [Journal.growth_append, Journal.observed_append, hack, List.append_nil]
  constructor
  case received =>
    have hpolled : (SourceOp.polled (.message m) :: answer.toList.map (.commit m)).filterMap
        SourceOp.polled? = [m] := by
      show m :: (answer.toList.map (SourceOp.commit m)).filterMap SourceOp.polled? = [m]
      rw [hcommit]
    rw [List.filterMap_append, hpolled, List.length_append, ← h.received,
      Stats.received_acknowledged, Stats.received_handled, List.length_singleton]
  case outcomes =>
    have houtcomes := h.outcomes
    rw [Stats.received_acknowledged, Stats.processed_acknowledged, Stats.dropped_acknowledged]
    unfold Stats.handled
    cases openEvent m.payload with
    | ok opened =>
      show s.received + 1 = s.processed + 1 + s.dropped
      omega
    | error f =>
      show s.received + 1 = s.processed + (s.dropped + 1)
      omega
  case committed =>
    have hcommitted := h.committed
    cases answer with
    | none =>
      have hauto : auto = true := by simpa using hasked.symm
      rw [if_pos hauto] at hcommitted ⊢
      show (s.handled m).committed = 0
      rw [Stats.committed_handled, hcommitted]
    | some a =>
      have hauto : auto = false := by simpa using hasked.symm
      subst hauto
      rw [if_neg Bool.false_ne_true] at hcommitted ⊢
      rw [Stats.received_acknowledged, Stats.received_handled, List.countP_append]
      cases a with
      | ok _ =>
        show s.received + 1 = (s.handled m).committed + 1 + (ops.countP (·.isRefused) + 0)
        rw [Stats.committed_handled]
        omega
      | error f =>
        show s.received + 1 = (s.handled m).committed + (ops.countP (·.isRefused) + 1)
        rw [Stats.committed_handled]
        omega
  case eventsReceived =>
    rw [hgrowth, growth_handles hd rfl, h.eventsReceived, Stats.received_acknowledged,
      Stats.received_handled]
    rfl
  case eventProcessing =>
    rw [hgrowth, growth_handles hd rfl, h.eventProcessing, Stats.received_acknowledged,
      Stats.received_handled]
    rfl
  case eventsMalformed =>
    rw [hgrowth, growth_handles hd rfl, h.eventsMalformed, Stats.dropped_acknowledged]
    unfold Stats.handled
    cases openEvent m.payload <;> rfl

/-- **One more turn keeps the counts.** -/
theorem turn (h : Counted k.autoCommit ops j s) {t : Turn} (ht : t.Of k w) :
    Counted k.autoCommit (ops ++ t.ops) (j ++ t.deeds) (t.count s) := by
  have hstopping : ∀ (reason : String) (x : Series), x.countsMessages →
      growth (Journal.observed [.stopping reason]) x = 0 := fun _ _ _ => rfl
  cases ht with
  | idle => exact h.wait rfl fun _ _ => rfl
  | exhausted => exact h.wait rfl (hstopping _)
  | failed f => exact h.wait rfl fun _ _ => rfl
  | stopped => exact h.wait rfl (hstopping _)
  | @served m handling answer hhandled hasked =>
    obtain ⟨i, s', rfl⟩ := hhandled
    exact h.serve (handle_yields m s' i).1 hasked

end Counted

/-! ## Runs -/

/-- What a consumer owes to its source after so many turns. `ops` is what the source was asked. -/
structure CommitProtocol (auto : Bool) (ops : List SourceOp) (journal : Journal) (s : Stats) :
    Prop where
  /-- Each message is handled, then acknowledged, and then the next one is asked for. -/
  order : Orderly auto ops journal.protocol
  /-- The messages that came are those that were handled, in order. -/
  handled : journal.filterMap Occurrence.received? = ops.filterMap SourceOp.polled?
  /-- Each of them was acknowledged once, or none if the source does so by itself. -/
  attempted : ops.filterMap SourceOp.attempted? =
    if auto then [] else ops.filterMap SourceOp.polled?
  counted : Counted auto ops journal s

/-- Order and counts are kept turn by turn. -/
theorem orderly_counted_turns {ts : List Turn} (h : ∀ t ∈ ts, t.Of k w) :
    Orderly k.autoCommit (ts.flatMap Turn.ops) (Journal.protocol (ts.flatMap Turn.deeds)) ∧
      Counted k.autoCommit (ts.flatMap Turn.ops) (ts.flatMap Turn.deeds)
        (ts.foldl Turn.count {}) := by
  induction ts using List.reverseRecOn with
  | nil => exact ⟨Orderly.start, Counted.start⟩
  | append_singleton ts t ih =>
    obtain ⟨hbefore, ht⟩ := List.forall_mem_append.mp h
    obtain ⟨horder, hcounted⟩ := ih hbefore
    have hof := ht t (List.mem_singleton_self t)
    rw [List.flatMap_append, List.flatMap_append, List.flatMap_singleton, List.flatMap_singleton,
      List.foldl_concat]
    exact ⟨horder.turn hof, hcounted.turn hof⟩

/-- Of a journal, the counts depend on what it adds to the metrics. -/
theorem Counted.congr {auto : Bool} {ops : List SourceOp} {i j : Journal} {s : Stats}
    (h : Counted auto ops i s) (hij : j.observed = i.observed) : Counted auto ops j s where
  received := h.received
  outcomes := h.outcomes
  committed := h.committed
  eventsReceived := hij ▸ h.eventsReceived
  eventProcessing := hij ▸ h.eventProcessing
  eventsMalformed := hij ▸ h.eventsMalformed

/-- **The consumer keeps to the protocol.** Whatever the source brings and says, after any number of
turns, be it that the consumer would go on or that it has ended: what the source was asked, what
happened to messages, the counters and the metrics are in order. A record of what the source is
asked changes nothing else in the run. -/
theorem consume_commitProtocol {σ : Type} (k : Consumer) (src : Source σ) (fuel : Nat) (state : σ)
    (w : World) (j : Journal) :
    ∃ ops : List SourceOp,
      let (journal, halt, rest, s) := (consume k src fuel state).run w j
      (consume k src.traced fuel (state, [])).run w j = (journal, halt, (rest, ops), s) ∧
        CommitProtocol k.autoCommit ops journal s := by
  have hyields : (consume k src.traced fuel (state, [])).Yields w _ := consume_yields fuel state
  obtain ⟨ts, hts, hdeeds, hops, hs⟩ := hyields j
  obtain ⟨horder, hcounted⟩ := orderly_counted_turns hts
  have hplain : (consume k src fuel state).run w j = _ := consume_traced fuel state [] w j
  rw [hplain]
  generalize (consume k src.traced fuel (state, [])).run w j = run at hdeeds hops hs
  obtain ⟨journal, halt, ⟨rest, ops⟩, s⟩ := run
  -- the beginning and the end of a run neither move messages along nor count them
  have hprotocol : journal.protocol = Journal.protocol (ts.flatMap Turn.deeds) := by
    rw [← Journal.protocol_deeds, hdeeds, Journal.protocol_append]
    exact List.append_nil _
  have hobserved : journal.observed = Journal.observed (ts.flatMap Turn.deeds) := by
    rw [← Journal.observed_deeds, hdeeds, Journal.observed_append]
    exact List.append_nil _
  refine ⟨ops, rfl, ?_⟩
  subst hops hs
  rw [← hprotocol] at horder
  refine ⟨horder, ?_, horder.attempted_eq, hcounted.congr hobserved⟩
  rw [← Journal.filterMap_protocol]
  exact horder.handled_eq

end UsageFeed
