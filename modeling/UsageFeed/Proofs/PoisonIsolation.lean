import UsageFeed.Proofs.Contexts
import UsageFeed.Proofs.Polls
import UsageFeed.Source.Script

/-!
# `UsageFeed.Proofs.PoisonIsolation` — bad messages leave no trace

Two runs of the consumer are compared: one over some messages, and one in which messages that hold
no complete event, failed polls and idle polls stand anywhere among them. What either run asks of
the loader and of the service is what processing the complete events one after another asks
(`turns_alike`), so the runs cannot be told apart by it.

## Contents
- **Events.** `openEvent_eq_error_iff`, which messages hold no complete event.
- **Exchanges.** `Journal.exchanges`, what is asked and answered; `World.Responsive`, a world that
  answers by nothing else; `Episode.Alike`, two episodes with the same exchanges.
- **Outcomes.** `consumeWithOutcomes`, a run that keeps what became of each event.
- **Two runs.** `Poisoned`, `turns_alike` and `consume_poisonIsolated`.
-/

namespace UsageFeed

open Service (Call Response)

/-! ## Events -/

/-- A message is not opened just if it does not decode as an event or the event is incomplete. -/
theorem openEvent_eq_error_iff (payload : List UInt8) :
    (∃ f, openEvent payload = .error f) ↔
      (∃ f, Event.decode payload = .error f) ∨
        ∃ e, Event.decode payload = .ok e ∧ e.IsIncomplete := by
  unfold openEvent
  cases Event.decode payload with
  | error f => simp [bind, Except.bind]
  | ok e =>
    simp only [← context_eq_error_iff]
    cases he : e.context <;> simp [he, bind, Except.bind, pure, Except.pure]

/-! ## Exchanges -/

/-- Whether an occurrence is a question to the loader or to the service with its answer. -/
def Occurrence.isExchange : Occurrence → Bool
  | loaded _ _ | called _ _ => true
  | _ => false

/-- The reports asked for and the calls made, in order, with what came back. -/
def Journal.exchanges (j : Journal) : Journal := j.filter (·.isExchange)

@[simp] theorem Journal.exchanges_append (i j : Journal) :
    (i ++ j).exchanges = i.exchanges ++ j.exchanges :=
  List.filter_append i j

@[simp] theorem Journal.exchanges_notes (records : List Log.Record) :
    Journal.exchanges (records.map .noted) = [] := by
  unfold Journal.exchanges
  simp [List.filter_eq_nil_iff, Occurrence.isExchange]

/-- The world answers by what it has been asked so far, and its clock stands still. -/
structure World.Responsive (w : World) : Prop where
  load : ∀ {i j : Journal} (reference : String), i.exchanges = j.exchanges →
    (w.load i reference).2 = (w.load j reference).2
  call : ∀ {i j : Journal} (c : Call), i.exchanges = j.exchanges →
    (w.call i c).2 = (w.call j c).2
  now : ∀ i j : Journal, w.now i = w.now j

namespace Episode

variable {α β γ δ : Type} {w : World}

/-- Begun after the same exchanges, both episodes lead to the same exchanges, and to results of
which `Q` holds. -/
def Alike (w : World) (e : Episode α) (e' : Episode β) (Q : α → β → Prop) : Prop :=
  ∀ i j : Journal, i.exchanges = j.exchanges →
    (e.run w i).1.exchanges = (e'.run w j).1.exchanges ∧ Q (e.run w i).2 (e'.run w j).2

theorem alike_pure {a : α} {b : β} {Q : α → β → Prop} (h : Q a b) :
    (pure a : Episode α).Alike w (pure b) Q :=
  fun _ _ _ => ⟨rfl, h⟩

theorem Alike.bind {e : Episode α} {e' : Episode β} {f : α → Episode γ} {f' : β → Episode δ}
    {Q : α → β → Prop} {R : γ → δ → Prop} (he : e.Alike w e' Q)
    (hf : ∀ a b, Q a b → (f a).Alike w (f' b) R) : (e >>= f).Alike w (e' >>= f') R := by
  intro i j h
  obtain ⟨hexchanges, hq⟩ := he i j h
  obtain ⟨hmore, hr⟩ := hf _ _ hq (i ++ (e.run w i).1) (j ++ (e'.run w j).1)
    (by rw [Journal.exchanges_append, Journal.exchanges_append, h, hexchanges])
  rw [run_bind, run_bind, Journal.exchanges_append, Journal.exchanges_append, hexchanges, hmore]
  exact ⟨rfl, hr⟩

/-- What exchanges nothing can be left out. -/
theorem Alike.quiet_bind {e : Episode α} {f : α → Episode γ} {e' : Episode δ}
    {Q : α → Unit → Prop} {R : γ → δ → Prop} (he : e.Alike w (pure ()) Q)
    (hf : ∀ a, Q a () → (f a).Alike w e' R) : (e >>= f).Alike w e' R := by
  show (e >>= f).Alike w (pure () >>= fun _ => e') R
  exact he.bind fun a _ => hf a

theorem Alike.bind_quiet {e : Episode α} {f : α → Episode γ} {e' : Episode β}
    {Q : α → β → Prop} {R : γ → β → Prop} (he : e.Alike w e' Q)
    (hf : ∀ a b, Q a b → (f a).Alike w (pure b) R) : (e >>= f).Alike w e' R := by
  intro i j h
  have hbind := he.bind hf i j h
  rwa [run_bind w j e', run_pure, List.append_nil] at hbind

/-- Notes are no exchanges. -/
theorem alike_happenAll_bind {os : List Occurrence} {f : Unit → Episode α} {e' : Episode β}
    {Q : α → β → Prop} (hos : Journal.exchanges os = []) (h : (f ()).Alike w e' Q) :
    (happenAll os >>= f).Alike w e' Q := by
  intro i j hij
  rw [run_bind, run_happenAll, Journal.exchanges_append, hos, List.nil_append]
  refine h _ _ ?_
  rw [Journal.exchanges_append, hos, List.append_nil, hij]

theorem alike_happen_bind {o : Occurrence} {f : Unit → Episode α} {e' : Episode β}
    {Q : α → β → Prop} (ho : Journal.exchanges [o] = []) (h : (f ()).Alike w e' Q) :
    (happen o >>= f).Alike w e' Q :=
  alike_happenAll_bind ho h

theorem alike_askReport (hw : w.Responsive) (reference : String) :
    (askReport reference).Alike w (askReport reference) Eq := by
  intro i j h
  rw [run_askReport, run_askReport, hw.load reference h]
  simp

theorem alike_askService (hw : w.Responsive) (c : Call) :
    (askService c).Alike w (askService c) Eq := by
  intro i j h
  rw [run_askService, run_askService, hw.call c h]
  simp

/-- **In a responsive world an episode has the same exchanges and the same result**, whatever else
is in the journal before it. -/
theorem alike_refl (hw : w.Responsive) (e : Episode α) : e.Alike w e Eq := by
  induction e with
  | done a => exact alike_pure rfl
  | load reference next ih =>
    show (askReport reference >>= next).Alike w (askReport reference >>= next) Eq
    refine (alike_askReport hw reference).bind ?_
    rintro result _ rfl
    exact ih result
  | call c next ih =>
    show (askService c >>= next).Alike w (askService c >>= next) Eq
    refine (alike_askService hw c).bind ?_
    rintro answer _ rfl
    exact ih answer
  | clock next ih =>
    intro i j h
    rw [run, run, hw.now i j]
    exact ih _ i j h
  | note o next ih =>
    show (happen o >>= fun _ => next).Alike w (happen o >>= fun _ => next) Eq
    exact Alike.bind (Q := Eq) (fun _ _ _ => ⟨rfl, rfl⟩) fun _ _ _ => ih

/-- Something kept beside the result does not show in it. -/
theorem Mirrors.bind_pure {e : Episode α} {e' : Episode β} {g : γ → β} {f : α → γ}
    (h : e.Mirrors (g ∘ f) e') : (e >>= fun a => pure (f a)).Mirrors g e' := by
  intro w j
  rw [h w j, run_bind, run_pure, List.append_nil]
  rfl

end Episode

/-! ## Outcomes -/

/-- Handles a message, and keeps the outcome of its event if there is one. -/
def handleWithOutcome (k : Consumer) (m : Message) (s : Stats) :
    Episode (Stats × Option EventOutcome) := do
  Episode.happen (.received m)
  let s := { s with received := s.received + 1 }
  match openEvent m.payload with
  | .ok (e, c) =>
    let outcome ← processEvent k.pipeline c e.files
    Episode.happenAll [.eventProcessed outcome.requestId outcome.reports.length, .handled]
    return ({ s with processed := s.processed + 1 }, some outcome)
  | .error f =>
    Episode.happenAll [if f.blamesEvent then .eventDropped f else .eventFailed m f, .handled]
    return ({ s with dropped := s.dropped + 1 }, none)

/-- The turns of the consumer, with the outcomes of the events in order. -/
def turnsWithOutcomes {σ : Type} (k : Consumer) (src : Source σ) :
    Nat → σ → Stats → Episode ((Halt × σ × Stats) × List EventOutcome)
  | 0, state, s => return ((.none, state, s), [])
  | fuel + 1, state, s => do
    let (polled, records, state) := src.poll state
    Episode.happenAll (records.map .noted)
    match polled with
    | .shutdown =>
      Episode.happen (.stopping "shutdown signal received")
      return ((.shutdown, state, s), [])
    | .message m =>
      let (s, outcome) ← handleWithOutcome k m s
      let (state, s) ← acknowledge k src m state s
      let (r, more) ← turnsWithOutcomes k src fuel state s
      return (r, outcome.toList ++ more)
    | .nothing =>
      if src.isExhausted state then
        Episode.happen (.stopping "event source exhausted")
        return ((.exhausted, state, s), [])
      else turnsWithOutcomes k src fuel state s
    | .failed f =>
      Episode.happen (.pollFailed f)
      turnsWithOutcomes k src fuel state s

/-- A whole run, with the outcomes of the events in order. -/
def consumeWithOutcomes {σ : Type} (k : Consumer) (src : Source σ) (fuel : Nat) (state : σ) :
    Episode ((Halt × σ × Stats) × List EventOutcome) := do
  Episode.happen (.consumerStarted k.autoCommit)
  let ((halt, state, s), outcomes) ← turnsWithOutcomes k src fuel state {}
  Episode.happen (.consumerStopped s)
  return ((halt, state, s), outcomes)

variable {σ : Type} {src : Source σ} {k : Consumer} {w : World}

theorem handle_withOutcome (m : Message) (s : Stats) :
    (handleWithOutcome k m s).Mirrors Prod.fst (handle k m s) := by
  refine (Episode.Mirrors.refl _).bind fun _ => ?_
  simp only
  cases openEvent m.payload with
  | ok opened =>
    obtain ⟨e, c⟩ := opened
    refine (Episode.Mirrors.refl _).bind fun outcome => ?_
    exact (Episode.Mirrors.refl _).bind fun _ => Episode.mirrors_pure _
  | error f => exact (Episode.Mirrors.refl _).bind fun _ => Episode.mirrors_pure _

/-- Keeping the outcomes changes nothing else in the turns. -/
theorem turns_withOutcomes (fuel : Nat) (state : σ) (s : Stats) :
    (turnsWithOutcomes k src fuel state s).Mirrors Prod.fst (turns k src fuel state s) := by
  induction fuel generalizing state s with
  | zero => exact Episode.mirrors_pure ((Halt.none, state, s), [])
  | succ fuel ih =>
    rw [turnsWithOutcomes, turns]
    obtain ⟨polled, records, state'⟩ := src.poll state
    refine (Episode.Mirrors.refl _).bind fun _ => ?_
    cases polled with
    | shutdown => exact (Episode.Mirrors.refl _).bind fun _ => Episode.mirrors_pure _
    | message m =>
      refine (handle_withOutcome m s).bind fun r => ?_
      refine (Episode.Mirrors.refl _).bind ?_
      rintro ⟨state, s⟩
      exact Episode.Mirrors.bind_pure
        (f := fun x : (Halt × σ × Stats) × List EventOutcome => (x.1, r.2.toList ++ x.2))
        (ih state s)
    | nothing =>
      show Episode.Mirrors _ (if src.isExhausted state' then _ else _)
        (if src.isExhausted state' then _ else _)
      by_cases hexhausted : src.isExhausted state'
      · rw [if_pos hexhausted, if_pos hexhausted]
        exact (Episode.Mirrors.refl _).bind fun _ => Episode.mirrors_pure _
      · rw [if_neg hexhausted, if_neg hexhausted]
        exact ih _ _
    | failed f => exact (Episode.Mirrors.refl _).bind fun _ => ih _ _

/-- So it is for a whole run. -/
theorem consume_withOutcomes (fuel : Nat) (state : σ) :
    (consumeWithOutcomes k src fuel state).Mirrors Prod.fst (consume k src fuel state) := by
  refine (Episode.Mirrors.refl _).bind fun _ => ?_
  refine (turns_withOutcomes fuel state {}).bind fun r => ?_
  exact (Episode.Mirrors.refl _).bind fun _ => Episode.mirrors_pure _

/-! ## Two runs -/

/-- The event in the message that a poll brings, if there is one and it is complete. -/
def Poll.opened? : Poll → Option (Event × Context)
  | message m => (openEvent m.payload).toOption
  | _ => none

/-- The complete events among the messages that polls bring. -/
def openedEvents (ps : List Poll) : List (Event × Context) := ps.filterMap Poll.opened?

/-- Processes events one after another. -/
def processAll (p : Pipeline) : List (Event × Context) → Episode (List EventOutcome)
  | [] => return []
  | (e, c) :: more => do
    let outcome ← processEvent p c e.files
    return outcome :: (← processAll p more)

theorem handle_alike_ok {m : Message} {e : Event} {c : Context}
    (hopen : openEvent m.payload = .ok (e, c)) (hw : w.Responsive) (s : Stats) :
    (handleWithOutcome k m s).Alike w (processEvent k.pipeline c e.files) fun r outcome =>
      r.2 = some outcome ∧ r.1.processed = s.processed + 1 := by
  refine Episode.alike_happen_bind rfl ?_
  simp only [hopen]
  refine (Episode.alike_refl hw _).bind_quiet ?_
  rintro outcome _ rfl
  exact Episode.alike_happenAll_bind rfl (Episode.alike_pure ⟨rfl, rfl⟩)

theorem handle_alike_error {m : Message} {f : Failure} (hopen : openEvent m.payload = .error f)
    (s : Stats) :
    (handleWithOutcome k m s).Alike w (pure ()) fun r _ =>
      r.2 = none ∧ r.1.processed = s.processed := by
  refine Episode.alike_happen_bind rfl ?_
  simp only [hopen]
  refine Episode.alike_happenAll_bind ?_ (Episode.alike_pure ⟨rfl, rfl⟩)
  cases f.blamesEvent <;> rfl

theorem acknowledge_alike (m : Message) (state : σ) (s : Stats) :
    (acknowledge k src m state s).Alike w (pure ()) fun r _ =>
      r.1 = src.settle k.autoCommit m state ∧ r.2.processed = s.processed := by
  unfold acknowledge Source.settle
  by_cases hauto : k.autoCommit
  · rw [if_pos hauto, if_pos hauto]
    exact Episode.alike_pure ⟨rfl, rfl⟩
  · rw [if_neg hauto, if_neg hauto]
    obtain ⟨result, state'⟩ := src.commit state m
    cases result with
    | ok _ => exact Episode.alike_happen_bind rfl (Episode.alike_pure ⟨rfl, rfl⟩)
    | error f => exact Episode.alike_happen_bind rfl (Episode.alike_pure ⟨rfl, rfl⟩)

/-- **The turns exchange what processing the complete events exchanges**, and come to the same
outcomes. -/
theorem turns_alike (hw : w.Responsive) {last state : σ} {ps : List Poll}
    (h : src.Brings k.autoCommit last state ps) {fuel : Nat} (hfuel : ps.length < fuel)
    (s : Stats) :
    (turnsWithOutcomes k src fuel state s).Alike w (processAll k.pipeline (openedEvents ps))
      fun r outcomes =>
        r.2 = outcomes ∧ r.1.2.2.processed = s.processed + (openedEvents ps).length := by
  induction h generalizing fuel s with
  | exhausted hpoll hended =>
    obtain ⟨fuel, rfl⟩ := Nat.exists_eq_add_one.mpr hfuel
    rw [turnsWithOutcomes, hpoll]
    refine Episode.alike_happenAll_bind (Journal.exchanges_notes _) ?_
    simp only [if_pos hended]
    exact Episode.alike_happen_bind rfl (Episode.alike_pure ⟨rfl, rfl⟩)
  | idle hpoll hended _ ih =>
    obtain ⟨fuel, rfl⟩ := Nat.exists_eq_add_one.mpr (Nat.zero_lt_of_lt hfuel)
    rw [turnsWithOutcomes, hpoll]
    refine Episode.alike_happenAll_bind (Journal.exchanges_notes _) ?_
    simp only [hended, Bool.false_eq_true, if_false]
    exact ih (Nat.lt_of_succ_lt_succ hfuel) s
  | failed hpoll _ ih =>
    obtain ⟨fuel, rfl⟩ := Nat.exists_eq_add_one.mpr (Nat.zero_lt_of_lt hfuel)
    rw [turnsWithOutcomes, hpoll]
    refine Episode.alike_happenAll_bind (Journal.exchanges_notes _) ?_
    exact Episode.alike_happen_bind rfl (ih (Nat.lt_of_succ_lt_succ hfuel) s)
  | @message _ _ _ ps m hpoll _ ih =>
    obtain ⟨fuel, rfl⟩ := Nat.exists_eq_add_one.mpr (Nat.zero_lt_of_lt hfuel)
    rw [turnsWithOutcomes, hpoll]
    refine Episode.alike_happenAll_bind (Journal.exchanges_notes _) ?_
    have hmore := ih (Nat.lt_of_succ_lt_succ hfuel)
    cases hopen : openEvent m.payload with
    | ok opened =>
      obtain ⟨e, c⟩ := opened
      have hevents : openedEvents (.message m :: ps) = (e, c) :: openedEvents ps :=
        List.filterMap_cons_some (by rw [Poll.opened?, hopen]; rfl)
      rw [hevents, processAll]
      refine (handle_alike_ok hopen hw s).bind ?_
      rintro ⟨s', _⟩ outcome ⟨rfl, hs⟩
      refine (acknowledge_alike m _ s').quiet_bind ?_
      rintro ⟨state', s''⟩ ⟨rfl, hs'⟩
      refine (hmore s'').bind ?_
      rintro ⟨r, outcomes⟩ _ ⟨rfl, hr⟩
      refine Episode.alike_pure ⟨rfl, ?_⟩
      rw [hr, List.length_cons]
      simp only at hs hs'
      omega
    | error f =>
      have hevents : openedEvents (.message m :: ps) = openedEvents ps :=
        List.filterMap_cons_none (by rw [Poll.opened?, hopen]; rfl)
      rw [hevents]
      refine (handle_alike_error hopen s).quiet_bind ?_
      rintro ⟨s', _⟩ ⟨rfl, hs⟩
      refine (acknowledge_alike m _ s').quiet_bind ?_
      rintro ⟨state', s''⟩ ⟨rfl, hs'⟩
      refine (hmore s'').bind_quiet ?_
      rintro ⟨r, outcomes⟩ _ ⟨rfl, hr⟩
      refine Episode.alike_pure ⟨rfl, ?_⟩
      rw [hr]
      simp only at hs hs'
      omega

/-- Whether a poll brings nothing that can be worked on: no message in time, a failure, or a message
that does not decode as an event or whose event is incomplete. -/
def Poll.IsPoison : Poll → Prop
  | nothing | failed _ => True
  | message m => (∃ f, Event.decode m.payload = .error f) ∨
      ∃ e, Event.decode m.payload = .ok e ∧ e.IsIncomplete
  | shutdown => False

/-- The polls bring the messages in order, by their payloads, with poison anywhere among them. -/
inductive Poisoned : List Message → List Poll → Prop
  | nil : Poisoned [] []
  | keep {m m' : Message} {ms : List Message} {ps : List Poll} (payload : m'.payload = m.payload)
      (more : Poisoned ms ps) : Poisoned (m :: ms) (.message m' :: ps)
  | insert {p : Poll} {ms : List Message} {ps : List Poll} (poison : p.IsPoison)
      (more : Poisoned ms ps) : Poisoned ms (p :: ps)

theorem opened?_of_isPoison {p : Poll} (h : p.IsPoison) : p.opened? = none := by
  cases p with
  | message m =>
    obtain ⟨f, hf⟩ := (openEvent_eq_error_iff m.payload).mpr h
    rw [Poll.opened?, hf]
    rfl
  | nothing => rfl
  | failed f => rfl
  | shutdown => rfl

/-- Poison holds no complete events. -/
theorem Poisoned.openedEvents_eq {ms : List Message} {ps : List Poll} (h : Poisoned ms ps) :
    openedEvents ps = openedEvents (ms.map .message) := by
  induction h with
  | nil => rfl
  | @keep m m' ms ps hpayload _ ih =>
    have hopened : Poll.opened? (.message m') = Poll.opened? (.message m) := by
      rw [Poll.opened?, Poll.opened?, hpayload]
    unfold openedEvents at ih ⊢
    rw [List.map_cons, List.filterMap_cons, List.filterMap_cons, hopened, ih]
  | insert hpoison _ ih =>
    rw [← ih]
    exact List.filterMap_cons_none (opened?_of_isPoison hpoison)

/-- **A whole run exchanges what processing the complete events exchanges.** -/
theorem consume_alike (hw : w.Responsive) {last state : σ} {ps : List Poll}
    (h : src.Brings k.autoCommit last state ps) {fuel : Nat} (hfuel : ps.length < fuel) :
    (consumeWithOutcomes k src fuel state).Alike w (processAll k.pipeline (openedEvents ps))
      fun r outcomes => r.2 = outcomes ∧ r.1.2.2.processed = (openedEvents ps).length := by
  refine Episode.alike_happen_bind rfl ?_
  refine (turns_alike hw h hfuel {}).bind_quiet ?_
  rintro ⟨⟨halt, state', s⟩, outcomes⟩ _ ⟨rfl, hs⟩
  refine Episode.alike_happen_bind rfl (Episode.alike_pure ⟨rfl, ?_⟩)
  simpa using hs

/-- **Poison leaves no trace.** In a world that answers by what it has been asked so far, the run of
a consumer over some messages and its run over the same messages with poison among them make the
same exchanges with the loader and the service, in the same order, come to the same outcomes, and
count as many events as processed. The second run, too, ends where its source is exhausted. -/
theorem consume_poisonIsolated {σ τ : Type} {k : Consumer} {w : World} (hw : w.Responsive)
    {src : Source σ} {src' : Source τ} {state last : σ} {state' last' : τ} {ms : List Message}
    {ps : List Poll} (hpoisoned : Poisoned ms ps)
    (hclean : src.Brings k.autoCommit last state (ms.map .message))
    (hbrings : src'.Brings k.autoCommit last' state' ps) {fuel fuel' : Nat}
    (hfuel : ms.length < fuel) (hfuel' : ps.length < fuel') (j : Journal) :
    let clean := (consume k src fuel state).run w j
    let poisoned := (consume k src' fuel' state').run w j
    poisoned.1.exchanges = clean.1.exchanges ∧
      poisoned.2.2.2.processed = clean.2.2.2.processed ∧
      clean.2.1 = .exhausted ∧ clean.2.2.1 = last ∧
      poisoned.2.1 = .exhausted ∧ poisoned.2.2.1 = last' ∧
      ∃ outcomes : List EventOutcome,
        (consumeWithOutcomes k src fuel state).run w j = (clean.1, clean.2, outcomes) ∧
        (consumeWithOutcomes k src' fuel' state').run w j =
          (poisoned.1, poisoned.2, outcomes) := by
  intro clean poisoned
  have hrun : clean = _ := consume_withOutcomes fuel state w j
  have hrun' : poisoned = _ := consume_withOutcomes fuel' state' w j
  -- both runs do what processing the events does
  have hlength : (ms.map Poll.message).length < fuel := by rwa [List.length_map]
  obtain ⟨hexchanges, houtcomes, hprocessed⟩ := consume_alike hw hclean hlength j j rfl
  obtain ⟨hexchanges', houtcomes', hprocessed'⟩ := consume_alike hw hbrings hfuel' j j rfl
  rw [hpoisoned.openedEvents_eq] at hexchanges' houtcomes' hprocessed'
  obtain ⟨hhalt, hlast⟩ := consume_exhausts (w := w) hclean hlength j
  obtain ⟨hhalt', hlast'⟩ := consume_exhausts (w := w) hbrings hfuel' j
  have hsame := houtcomes'.trans houtcomes.symm
  refine ⟨?_, ?_, hhalt, hlast, hhalt', hlast',
    ((consumeWithOutcomes k src fuel state).run w j).2.2, ?_, ?_⟩
  · rw [hrun, hrun']
    exact hexchanges'.trans hexchanges.symm
  · rw [hrun, hrun']
    exact hprocessed'.trans hprocessed.symm
  · rw [hrun]
  · rw [hrun', ← hsame]

/-- Two uploads, and the same with bytes that are no text, a truth value in place of an event, an
event without metadata, a failed poll and idle polls among them. The loader loses its report and the
service turns calls down, by how often they have been asked. -/
theorem consume_poisonIsolated_scripts :
    let upload (files : List String) : List UInt8 := Text.Utf8.encode <| Json.write <| Event.toJson
      { requestId := some "r", metadata := some ⟨some "org", none, some "cluster"⟩, files := files }
    let step (payload : List UInt8) : Script.Step := .message payload "uploads" 0 none
    let row : Report.Row := { ns := "shop", deployment := "cart", container := "web", image := "w" }
    let w : World :=
      { load := fun j reference =>
          ([], if j.exchanges.length < 4 then .ok ⟨[row]⟩
            else .error (.unreadableReport reference "gone"))
        call := fun j _ => ([], .ok ⟨if j.exchanges.length % 2 = 0 then 201 else 503, ""⟩)
        now := fun _ => ⟨0, 0⟩ }
    let clean := (consume {} Script.source 3
      { steps := [step (upload ["a.csv"]), step (upload ["b.csv", "c.csv"])] }).run w []
    let poisoned := (consume {} Script.source 9
      { steps := [step [0xFF], .failed (.source "down"), step (upload ["a.csv"]), .nothing,
          step [0x74, 0x72, 0x75, 0x65], step [0x7B, 0x7D], .nothing,
          step (upload ["b.csv", "c.csv"])] }).run w []
    w.Responsive ∧ poisoned.1.exchanges = clean.1.exchanges ∧
      poisoned.2.2.2.processed = clean.2.2.2.processed ∧ poisoned.2.1 = .exhausted := by
  intro upload step row w
  have hw : w.Responsive := by
    refine ⟨fun reference h => ?_, fun c h => ?_, fun _ _ => rfl⟩ <;> simp only [w, h]
  have hbytes : ∃ f, Event.decode [0xFF] = .error f := ⟨_, rfl⟩
  have htruth : ∃ f, Event.decode [0x74, 0x72, 0x75, 0x65] = .error f := ⟨_, rfl⟩
  have hempty : Event.decode [0x7B, 0x7D] = .ok {} := rfl
  let message (payload : List UInt8) (offset : Int) : Message := ⟨payload, "uploads", 0, offset⟩
  -- what the scripts bring does not depend on what the uploads say
  have hclean : ∀ a b, Script.source.Brings false ⟨[], 2, none, []⟩ { steps := [step a, step b] }
      ([message a 0, message b 1].map .message) :=
    fun a b => .message rfl <| .message rfl <| .exhausted rfl rfl
  have hbrings : ∀ a b, Script.source.Brings false ⟨[], 5, none, []⟩
      { steps := [step [0xFF], .failed (.source "down"), step a, .nothing,
          step [0x74, 0x72, 0x75, 0x65], step [0x7B, 0x7D], .nothing, step b] }
      [.message (message [0xFF] 0), .failed (.source "down"), .message (message a 1), .nothing,
        .message (message [0x74, 0x72, 0x75, 0x65] 2), .message (message [0x7B, 0x7D] 3), .nothing,
        .message (message b 4)] :=
    fun a b => .message rfl <| .failed rfl <| .message rfl <| .idle rfl rfl <| .message rfl <|
      .message rfl <| .idle rfl rfl <| .message rfl <| .exhausted rfl rfl
  have hpoisoned : ∀ a b, Poisoned [message a 0, message b 1]
      [.message (message [0xFF] 0), .failed (.source "down"), .message (message a 1), .nothing,
        .message (message [0x74, 0x72, 0x75, 0x65] 2), .message (message [0x7B, 0x7D] 3), .nothing,
        .message (message b 4)] :=
    fun a b => .insert (.inl hbytes) <| .insert trivial <| .keep rfl <| .insert trivial <|
      .insert (.inl htruth) <| .insert (.inr ⟨_, hempty, trivial⟩) <| .insert trivial <|
      .keep rfl .nil
  obtain ⟨hexchanges, hprocessed, -, -, hhalt, -⟩ :=
    consume_poisonIsolated (k := {}) hw (hpoisoned _ _) (hclean (upload ["a.csv"]) _)
      (hbrings _ (upload ["b.csv", "c.csv"])) (show 2 < 3 by decide)
      (show 8 < 9 by decide) []
  exact ⟨hw, hexchanges, hprocessed, hhalt⟩

end UsageFeed
