import UsageFeed.Proofs.CommitProtocol
import UsageFeed.Proofs.HealthHistory

/-!
# `UsageFeed.Proofs.RunHealth` — the health of the program follows the run

Three parts are spoken of in different layers: the consumer turn by turn, the loader report by
report, the service call by call. The failures in a row of each are counted here by what the source,
the loader and the service did, with nothing taken from the registry.

## Contents
- **Rows of failures.** `inARow`, the bad entries since the last good one, and its equation as a
  fold.
- **Steps.** `Occurrence.healthSteps`, the steps that an occurrence takes in a registry, and
  `failuresOf_after`, which counts the failures of a part by the steps.
- **Parts.** The loader and the service by the journal (`foldl_loads`, `foldl_calls`), the consumer
  by the polls, turn by turn (`foldl_turn`).
- **Readiness.** `Turn.Of.silent`: no turn says whether messages are being consumed.
- **Runs.** `FollowsRun` and `consume_health`.
-/

namespace UsageFeed

open Service (Call Response)
open Health (Part Registry Step)

variable {w : World} {k : Consumer}

/-! ## Rows of failures -/

section InARow

variable {α : Type} (good bad : α → Bool)

/-- How many entries since the last good one are bad, on top of `start` if none is good. -/
def inARow (start : Nat) (xs : List α) : Nat :=
  (xs.reverse.takeWhile (!good ·)).countP bad + if xs.any good then 0 else start

/-- The row after one more entry. -/
def countOn (n : Nat) (x : α) : Nat := if good x then 0 else if bad x then n + 1 else n

theorem foldl_countOn (start : Nat) (xs : List α) :
    xs.foldl (countOn good bad) start = inARow good bad start xs := by
  induction xs using List.reverseRecOn with
  | nil => exact (Nat.zero_add start).symm
  | append_singleton xs x ih =>
    rw [List.foldl_concat, ih]
    unfold inARow countOn
    rw [List.reverse_append, List.reverse_singleton, List.singleton_append, List.takeWhile_cons,
      List.any_append]
    cases hgood : good x with
    | true => simp [hgood]
    | false =>
      cases hbad : bad x <;> simp [hgood, hbad, Nat.add_right_comm]

end InARow

/-! ## Steps -/

/-- The steps that an occurrence takes in a registry. -/
def Occurrence.healthSteps : Occurrence → List Step
  | consumerStarted _ => [.register Part.consumer.name, .setReady true]
  | pollFailed f => [.fail Part.consumer.name f.message]
  | handled => [.succeed Part.consumer.name]
  | loaded _ (.ok _) => [.succeed Part.loader.name]
  | loaded _ (.error f) => [.fail Part.loader.name f.message]
  | called _ (.ok _) => [.succeed Part.service.name]
  | called _ (.error f) => [.fail Part.service.name f.message]
  | consumerStopped _ => [.setReady false]
  | _ => []

/-- The steps that a journal takes in a registry. -/
def Journal.healthSteps (j : Journal) : List Step := j.flatMap Occurrence.healthSteps

theorem Occurrence.follow_eq (r : Registry) (o : Occurrence) :
    o.follow r = r.after o.healthSteps := by
  cases o with
  | loaded reference result => cases result <;> rfl
  | called call answer => cases answer <;> rfl
  | _ => rfl

/-- A registry follows a journal step by step. -/
theorem Journal.follow_eq (r : Registry) (j : Journal) : j.follow r = r.after j.healthSteps := by
  induction j generalizing r with
  | nil => rfl
  | cons o j ih =>
    rw [Journal.healthSteps, List.flatMap_cons, Registry.after, List.foldl_append]
    exact (ih _).trans (by rw [Occurrence.follow_eq]; rfl)

/-- Whether a step is a failure of a part. -/
def Health.Step.fails (name : String) (s : Step) : Bool := (s.failure? name).isSome

/-- The failures in a row of a part after one more step. -/
def tick (name : String) : Nat → Step → Nat := countOn (Step.clears name) (Step.fails name)

theorem failuresOf_set (r : Registry) (n name : String) (c : Health.Component) :
    (r.set n c).failuresOf name = if name = n then c.failures else r.failuresOf name := by
  unfold Registry.failuresOf
  rw [Registry.find?_set]
  by_cases h : name = n <;> simp [h]

/-- A step goes on with the row of failures, up to the greatest number that is counted. -/
theorem failuresOf_step (r : Registry) (name : String) (s : Step) :
    (r.step s).failuresOf name = if s.clears name then 0
      else if s.fails name then min (r.failuresOf name + 1) Health.maxFailures
      else r.failuresOf name := by
  cases s with
  | register n | succeed n =>
    refine (failuresOf_set r n name _).trans ?_
    by_cases h : name = n
    · simp [h, Step.clears, Health.Component.healthy]
    · simp [h, Step.clears, Step.fails, Step.failure?, Ne.symm h]
  | fail n message =>
    refine (failuresOf_set r n name _).trans ?_
    by_cases h : name = n
    · simp [h, Step.clears, Step.fails, Step.failure?, Health.Component.failAgain]
    · simp [h, Step.clears, Step.fails, Step.failure?, Ne.symm h]
  | setReady ready => rfl

/-- **The failures of a part are counted by the steps.** -/
theorem failuresOf_after {r : Registry} {name : String} (h : r.failuresOf name ≤ Health.maxFailures)
    (steps : List Step) :
    (r.after steps).failuresOf name =
      min (steps.foldl (tick name) (r.failuresOf name)) Health.maxFailures := by
  induction steps using List.reverseRecOn with
  | nil => exact (Nat.min_eq_left h).symm
  | append_singleton steps s ih =>
    rw [Registry.after_concat, failuresOf_step, ih, List.foldl_concat, tick, countOn]
    split
    · rfl
    · split <;> omega

/-! ## Parts -/

/-- Whether a report came. -/
def hasLoaded (x : String × Except Failure Report.Table) : Bool := x.2.isOk

/-- Whether the service answered, with whatever status. -/
def hasAnswered (x : Call × Except Failure Response) : Bool := x.2.isOk

namespace SourceOp

/-- Whether a poll brought a message. -/
def bringsMessage : SourceOp → Bool
  | polled (.message _) => true
  | _ => false

/-- Whether a poll failed. -/
def isFailedPoll : SourceOp → Bool
  | polled (.failed _) => true
  | _ => false

end SourceOp

theorem healthSteps_append (i j : Journal) :
    (i ++ j).healthSteps = i.healthSteps ++ j.healthSteps :=
  List.flatMap_append

/-- The steps of a journal count the failures of a part as a view of the journal has them, if those
of one occurrence do. -/
theorem foldl_view {α : Type} {view : Occurrence → Option α} {name : String} {good bad : α → Bool}
    (h : ∀ (o : Occurrence) (n : Nat),
      o.healthSteps.foldl (tick name) n = (view o).toList.foldl (countOn good bad) n)
    (n : Nat) (j : Journal) :
    j.healthSteps.foldl (tick name) n = (j.filterMap view).foldl (countOn good bad) n := by
  rw [List.filterMap_eq_flatMap_toList]
  induction j generalizing n with
  | nil => rfl
  | cons o j ih =>
    rw [Journal.healthSteps, List.flatMap_cons, List.flatMap_cons, List.foldl_append,
      List.foldl_append, h]
    exact ih _

/-- The loader fails as often in a row as the loads in the journal do. -/
theorem foldl_loads (n : Nat) (j : Journal) :
    j.healthSteps.foldl (tick Part.loader.name) n =
      j.loads.foldl (countOn hasLoaded fun x => !hasLoaded x) n := by
  refine foldl_view (fun o n => ?_) n j
  cases o with
  | loaded reference result => cases result <;> rfl
  | called call answer => cases answer <;> rfl
  | _ => rfl

/-- The service fails as often in a row as the calls in the journal get no answer. -/
theorem foldl_calls (n : Nat) (j : Journal) :
    j.healthSteps.foldl (tick Part.service.name) n =
      j.answeredCalls.foldl (countOn hasAnswered fun x => !hasAnswered x) n := by
  refine foldl_view (fun o n => ?_) n j
  cases o with
  | loaded reference result => cases result <;> rfl
  | called call answer => cases answer <;> rfl
  | _ => rfl

/-- **A turn goes on with the row of failures of the consumer as its poll has it.** -/
theorem foldl_turn {t : Turn} (ht : t.Of k w) (n : Nat) :
    (Journal.healthSteps t.deeds).foldl (tick Part.consumer.name) n =
      t.ops.foldl (countOn SourceOp.bringsMessage SourceOp.isFailedPoll) n := by
  cases ht with
  | idle => rfl
  | exhausted => rfl
  | failed f => rfl
  | stopped => rfl
  | @served m handling answer hhandled hasked =>
    obtain ⟨i, s, rfl⟩ := hhandled
    obtain ⟨inner, hinner, -⟩ := (handle_yields (k := k) (w := w) m s i).1
    -- whatever is done about the message, its end clears the consumer
    have hack : Journal.healthSteps (answer.toList.map (acknowledgement m)) = [] := by
      rcases answer with _ | _ | _ <;> rfl
    rw [Turn.deeds, healthSteps_append, hack, List.append_nil, hinner, healthSteps_append,
      List.foldl_append]
    rcases answer with _ | _ | _ <;> rfl

theorem foldl_turns {ts : List Turn} (h : ∀ t ∈ ts, t.Of k w) (n : Nat) :
    (Journal.healthSteps (ts.flatMap Turn.deeds)).foldl (tick Part.consumer.name) n =
      (ts.flatMap Turn.ops).foldl (countOn SourceOp.bringsMessage SourceOp.isFailedPoll) n := by
  induction ts generalizing n with
  | nil => rfl
  | cons t ts ih =>
    obtain ⟨ht, hts⟩ := List.forall_mem_cons.mp h
    rw [List.flatMap_cons, List.flatMap_cons, healthSteps_append, List.foldl_append,
      List.foldl_append, foldl_turn ht, ih hts]

/-! ## Readiness -/

/-- Whether an occurrence says nothing on whether messages are being consumed. -/
def Occurrence.isSilent : Occurrence → Bool
  | consumerStarted _ | consumerStopped _ => false
  | _ => true

theorem ready_step {o : Occurrence} (h : o.isSilent) (r : Registry) :
    (o.follow r).ready = r.ready := by
  cases o with
  | consumerStarted auto => cases h
  | consumerStopped s => cases h
  | loaded reference result => cases result <;> rfl
  | called call answer => cases answer <;> rfl
  | _ => rfl

theorem ready_follow {j : Journal} (h : ∀ o ∈ j, o.isSilent) (r : Registry) :
    (j.follow r).ready = r.ready := by
  induction j generalizing r with
  | nil => rfl
  | cons o j ih =>
    obtain ⟨ho, hj⟩ := List.forall_mem_cons.mp h
    exact (ih hj _).trans (ready_step ho r)

theorem isSilent_of_isInner {o : Occurrence} (h : o.isInner) : o.isSilent := by
  revert h
  cases o <;> simp [Occurrence.isInner, Occurrence.isSilent]

/-- **No turn says whether messages are being consumed.** -/
theorem Turn.Of.silent {t : Turn} (ht : t.Of k w) : ∀ o ∈ t.deeds, o.isSilent := by
  cases ht with
  | idle => simp [Turn.deeds]
  | exhausted => simp [Turn.deeds, Occurrence.isSilent]
  | failed f => simp [Turn.deeds, Occurrence.isSilent]
  | stopped => simp [Turn.deeds, Occurrence.isSilent]
  | @served m handling answer hhandled hasked =>
    obtain ⟨i, s, rfl⟩ := hhandled
    obtain ⟨inner, hdeeds, hinner⟩ := (handle_yields (k := k) (w := w) m s i).1
    have hsilent : ∀ o ∈ inner, o.isSilent := by
      cases hopen : openEvent m.payload with
      | ok opened =>
        rw [hopen] at hinner
        exact fun o ho => isSilent_of_isInner (hinner o ho)
      | error f =>
        rw [hopen] at hinner
        simp [hinner, Occurrence.isSilent]
    have hack : ∀ o ∈ answer.toList.map (acknowledgement m), o.isSilent := by
      rcases answer with _ | _ | _ <;> simp [acknowledgement, Occurrence.isSilent]
    rw [Turn.deeds, hdeeds]
    intro o ho
    simp only [List.mem_append, List.mem_cons, List.not_mem_nil, or_false] at ho
    rcases ho with ((rfl | ho) | rfl) | ho
    · rfl
    · exact hsilent o ho
    · rfl
    · exact hack o ho

/-! ## Runs -/

/-- Remarks take no step. -/
theorem healthSteps_deeds (j : Journal) : j.deeds.healthSteps = j.healthSteps :=
  Journal.flatMap_deeds (fun _ => rfl) j

/-- Remarks are silent, so a journal is if its deeds are. -/
theorem silent_of_deeds {j : Journal} (h : ∀ o ∈ j.deeds, o.isSilent) : ∀ o ∈ j, o.isSilent := by
  intro o ho
  cases hnote : o.isNote with
  | false => exact h o (List.mem_filter.mpr ⟨ho, by simp [hnote]⟩)
  | true =>
    cases o with
    | noted r => rfl
    | _ => cases hnote

/-- The failures in a row that a registry knows of, `r` before the run and `now` after the turns so
far. `ops` is what the source was asked, `body` what happened in the turns. -/
structure FollowsRun (r : Registry) (ops : List SourceOp) (body : Journal) (now : Registry) :
    Prop where
  /-- The consumer begins anew: neither idle polls nor what became of a message matter. -/
  consumer : now.failuresOf Part.consumer.name =
    min (inARow SourceOp.bringsMessage SourceOp.isFailedPoll 0 ops) Health.maxFailures
  loader : now.failuresOf Part.loader.name =
    min (inARow hasLoaded (fun x => !hasLoaded x) (r.failuresOf Part.loader.name) body.loads)
      Health.maxFailures
  /-- An answer is an answer, whatever its status. -/
  service : now.failuresOf Part.service.name =
    min (inARow hasAnswered (fun x => !hasAnswered x) (r.failuresOf Part.service.name)
      body.answeredCalls) Health.maxFailures

/-- The beginning of a run clears the consumer and touches no other part. -/
theorem followsRun {r : Registry} (hr : ∀ name, r.failuresOf name ≤ Health.maxFailures)
    (auto : Bool) {ops : List SourceOp} {body : Journal}
    (hbody : ∀ n, body.healthSteps.foldl (tick Part.consumer.name) n =
      ops.foldl (countOn SourceOp.bringsMessage SourceOp.isFailedPoll) n) :
    FollowsRun r ops body (Journal.follow r (.consumerStarted auto :: body)) := by
  -- to register the consumer clears it, and its name is none of the other two
  have hstart : Journal.healthSteps (.consumerStarted auto :: body) =
      [.register Part.consumer.name, .setReady true] ++ body.healthSteps :=
    List.flatMap_cons
  constructor
  case consumer =>
    rw [Journal.follow_eq, failuresOf_after (hr _), hstart, List.foldl_append, hbody,
      foldl_countOn]
    rfl
  case loader =>
    rw [Journal.follow_eq, failuresOf_after (hr _), hstart, List.foldl_append, foldl_loads,
      foldl_countOn]
    rfl
  case service =>
    rw [Journal.follow_eq, failuresOf_after (hr _), hstart, List.foldl_append, foldl_calls,
      foldl_countOn]
    rfl

/-- The end of a run touches no part. -/
theorem FollowsRun.stopped {r now : Registry} {ops : List SourceOp} {body : Journal}
    (h : FollowsRun r ops body now) (s : Stats) :
    FollowsRun r ops body (Occurrence.follow now (.consumerStopped s)) :=
  ⟨h.consumer, h.loader, h.service⟩

/-- A run is its turns between a beginning and an end. -/
theorem consume_run {σ : Type} (src : Source σ) (fuel : Nat) (state : σ) (j : Journal) :
    let (body, halt, rest, s) :=
      (turns k src fuel state {}).run w (j ++ [.consumerStarted k.autoCommit])
    (consume k src fuel state).run w j =
      (.consumerStarted k.autoCommit :: body ++ [.consumerStopped s], halt, rest, s) := by
  unfold consume
  rw [Episode.run_bind, Episode.run_happen, Episode.run_bind]
  rfl

/-- **Health follows the run.** Whatever happened before the run, whatever the source, the loader
and the service do, the registry counts after any number of turns what they did, and it has messages
being consumed from the first turn to the end of the run and not beyond it. -/
theorem consume_health {σ : Type} (k : Consumer) (src : Source σ) (fuel : Nat) (state : σ)
    (w : World) (j : Journal) (threshold : UInt32) (history : List Step) :
    let before := (Registry.empty threshold.toNat).after history
    let start := Occurrence.consumerStarted k.autoCommit
    let (body, halt, rest, s) := (turns k src fuel state {}).run w (j ++ [start])
    ∃ ops : List SourceOp,
      (turns k src.traced fuel (state, []) {}).run w (j ++ [start]) =
        (body, halt, (rest, ops), s) ∧
      (consume k src fuel state).run w j =
        (start :: body ++ [.consumerStopped s], halt, rest, s) ∧
      FollowsRun before ops body (Journal.follow before (start :: body)) ∧
      (∀ part, part <+: body → (Journal.follow before (start :: part)).ready = true) ∧
      FollowsRun before ops body
        (Journal.follow before (start :: body ++ [.consumerStopped s])) ∧
      (Journal.follow before (start :: body ++ [.consumerStopped s])).ready = false := by
  intro before start
  have hthreshold : threshold.toNat ≤ Health.maxFailures := Nat.le_of_lt_succ threshold.toNat_lt
  have hbefore : ∀ name, before.failuresOf name ≤ Health.maxFailures := by
    intro name
    rw [(Registry.tells_after hthreshold history).failuresOf]
    exact Nat.min_le_right _ _
  have hyields : (turns k src.traced fuel (state, []) {}).Yields w _ :=
    turns_yields fuel state [] {}
  obtain ⟨ts, hts, hdeeds, hops, -⟩ := hyields (j ++ [start])
  have hplain : (turns k src fuel state {}).run w (j ++ [start]) = _ :=
    turns_traced fuel state [] {} w _
  have hrun := consume_run (w := w) (k := k) src fuel state j
  rw [hplain] at hrun ⊢
  generalize (turns k src.traced fuel (state, []) {}).run w (j ++ [start]) = run
    at hdeeds hops hrun ⊢
  obtain ⟨body, halt, ⟨rest, ops⟩, s⟩ := run
  have hconsumer : ∀ n, body.healthSteps.foldl (tick Part.consumer.name) n =
      ops.foldl (countOn SourceOp.bringsMessage SourceOp.isFailedPoll) n := by
    intro n
    have hturns : ops = ts.flatMap Turn.ops := hops
    rw [← healthSteps_deeds, hdeeds, hturns]
    exact foldl_turns hts n
  -- between the beginning and the end nothing is said on readiness
  have hsilent : ∀ o ∈ body, o.isSilent := by
    refine silent_of_deeds fun o ho => ?_
    rw [hdeeds] at ho
    obtain ⟨t, ht, hmem⟩ := List.mem_flatMap.mp ho
    exact (hts t ht).silent o hmem
  have hfollows := followsRun hbefore k.autoCommit hconsumer
  refine ⟨ops, rfl, hrun, hfollows, ?_, ?_, ?_⟩
  · intro part hpart
    exact ready_follow (fun o ho => hsilent o (hpart.subset ho)) _
  · rw [Journal.follow, List.foldl_append]
    exact hfollows.stopped s
  · rw [Journal.follow, List.foldl_append]
    rfl

end UsageFeed
