import UsageFeed.Proofs.Turns

/-!
# `UsageFeed.Proofs.Polls` — a source as the polls it brings

## Contents
- **Polls.** `Source.settle`, a source after one of its messages has been dealt with, and
  `Source.Brings`, the polls that a source brings until it is exhausted.
- **Runs.** A run with a turn for each of the polls, and one more, ends because the source is
  exhausted, where `Source.Brings` says (`turns_exhausts`, `consume_exhausts`).
-/

namespace UsageFeed

variable {σ : Type} {src : Source σ} {k : Consumer} {w : World}

/-! ## Polls -/

/-- The source after a message has been dealt with: it is asked to acknowledge the message, unless
it does so by itself. -/
def Source.settle (src : Source σ) (auto : Bool) (m : Message) (state : σ) : σ :=
  if auto then state else (src.commit state m).2

/-- From a state on, the source brings these polls one after another, each message being dealt with
before the next poll. After them it is exhausted, and its state is `last`. -/
inductive Source.Brings (src : Source σ) (auto : Bool) (last : σ) : σ → List Poll → Prop
  | exhausted {state : σ} {records : List Log.Record}
      (poll : src.poll state = (.nothing, records, last)) (ended : src.isExhausted last = true) :
      Brings src auto last state []
  | idle {state next : σ} {records : List Log.Record} {ps : List Poll}
      (poll : src.poll state = (.nothing, records, next)) (ended : src.isExhausted next = false)
      (more : Brings src auto last next ps) : Brings src auto last state (.nothing :: ps)
  | failed {state next : σ} {records : List Log.Record} {ps : List Poll} {f : Failure}
      (poll : src.poll state = (.failed f, records, next))
      (more : Brings src auto last next ps) : Brings src auto last state (.failed f :: ps)
  | message {state next : σ} {records : List Log.Record} {ps : List Poll} {m : Message}
      (poll : src.poll state = (.message m, records, next))
      (more : Brings src auto last (src.settle auto m next) ps) :
      Brings src auto last state (.message m :: ps)

/-! ## Runs -/

theorem acknowledge_settles (m : Message) (state : σ) (s : Stats) :
    (acknowledge k src m state s).Yields w fun _ r => r.1 = src.settle k.autoCommit m state := by
  unfold acknowledge Source.settle
  by_cases hauto : k.autoCommit
  · rw [if_pos hauto, if_pos hauto]
    exact Episode.yields_pure rfl
  · rw [if_neg hauto, if_neg hauto]
    obtain ⟨result, state'⟩ := src.commit state m
    cases result with
    | ok _ => exact Episode.yields_happen_bind (Episode.yields_pure rfl)
    | error f => exact Episode.yields_happen_bind (Episode.yields_pure rfl)

/-- **With a turn for each poll and one more, the turns end where the polls do.** -/
theorem turns_exhausts {last state : σ} {ps : List Poll}
    (h : src.Brings k.autoCommit last state ps) {fuel : Nat} (hfuel : ps.length < fuel)
    (s : Stats) :
    (turns k src fuel state s).Yields w fun _ r => r.1 = .exhausted ∧ r.2.1 = last := by
  induction h generalizing fuel s with
  | exhausted hpoll hended =>
    obtain ⟨fuel, rfl⟩ := Nat.exists_eq_add_one.mpr hfuel
    rw [turns, hpoll]
    refine Episode.yields_happenAll_bind ?_
    simp only [if_pos hended]
    exact Episode.yields_happen_bind (Episode.yields_pure ⟨rfl, rfl⟩)
  | idle hpoll hended _ ih =>
    obtain ⟨fuel, rfl⟩ := Nat.exists_eq_add_one.mpr (Nat.zero_lt_of_lt hfuel)
    rw [turns, hpoll]
    refine Episode.yields_happenAll_bind ?_
    simp only [hended, Bool.false_eq_true, if_false]
    exact (ih (Nat.lt_of_succ_lt_succ hfuel) s).mono fun _ _ hr => hr
  | failed hpoll _ ih =>
    obtain ⟨fuel, rfl⟩ := Nat.exists_eq_add_one.mpr (Nat.zero_lt_of_lt hfuel)
    rw [turns, hpoll]
    refine Episode.yields_happenAll_bind ?_
    refine Episode.yields_happen_bind ?_
    exact (ih (Nat.lt_of_succ_lt_succ hfuel) s).mono fun _ _ hr => hr
  | message hpoll _ ih =>
    obtain ⟨fuel, rfl⟩ := Nat.exists_eq_add_one.mpr (Nat.zero_lt_of_lt hfuel)
    rw [turns, hpoll]
    refine Episode.yields_happenAll_bind ?_
    refine (handle_yields _ s).bind ?_
    rintro _ s' -
    -- dealing with the message leaves the source where the next poll begins
    refine (acknowledge_settles _ _ s').bind ?_
    rintro _ ⟨state', s''⟩ rfl
    exact (ih (Nat.lt_of_succ_lt_succ hfuel) s'').mono fun _ _ hr => hr

/-- So it is for a whole run. -/
theorem consume_exhausts {last state : σ} {ps : List Poll}
    (h : src.Brings k.autoCommit last state ps) {fuel : Nat} (hfuel : ps.length < fuel) :
    (consume k src fuel state).Yields w fun _ r => r.1 = .exhausted ∧ r.2.1 = last := by
  refine Episode.yields_happen_bind ?_
  refine (turns_exhausts h hfuel {}).bind ?_
  rintro _ ⟨halt, state', s⟩ hr
  exact Episode.yields_happen_bind (Episode.yields_pure hr)

end UsageFeed
