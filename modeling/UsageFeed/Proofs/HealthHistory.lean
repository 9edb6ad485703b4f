import Mathlib.Algebra.Ring.Nat
import Mathlib.Data.List.Nodup
import Mathlib.Data.List.Induction
import UsageFeed.Api

/-!
# `UsageFeed.Proofs.HealthHistory` — a registry is what happened to it

A registry keeps one number and one message for each part. Both can be read off the steps that were
taken: they are the number of failures since the part was last cleared, and the message of the last
of them.

## Contents
- **Steps.** `Step`, a step of a registry, and `Registry.after`, what a list of steps makes of one.
- **Streaks.** `streak`, the failures of a part since it was last cleared, with the equation for one
  more step (`streak_concat`).
- **One part.** `Component.ofStreak`; what one step preserves (`Registry.Tells.step`) and what a
  history comes to (`tells_after`).
- **All parts.** The worst status (`status_eq_unhealthy_iff`, `status_eq_healthy_iff`).
- **Answers.** `HealthLaw` and `registry_law`.
-/

namespace UsageFeed.Health

/-! ## Steps -/

/-- A step of a registry. -/
inductive Step where
  | register (name : String)
  | succeed (name : String)
  | fail (name message : String)
  | setReady (ready : Bool)
  deriving DecidableEq, Repr

namespace Step

/-- The part that a step is about. -/
def name? : Step → Option String
  | register n | succeed n | fail n _ => some n
  | setReady _ => none

/-- Whether a step clears the failures of a part. -/
def clears (name : String) : Step → Bool
  | register n | succeed n => n == name
  | _ => false

/-- The message of a failure of a part. -/
def failure? (name : String) : Step → Option String
  | fail n message => if n = name then some message else none
  | _ => none

/-- What a step says on whether messages are being consumed. -/
def ready? : Step → Option Bool
  | setReady ready => some ready
  | _ => none

end Step

namespace Registry

/-- The registry after a step. -/
def step (r : Registry) : Step → Registry
  | .register name => r.register name
  | .succeed name => r.succeed name
  | .fail name message => r.fail name message
  | .setReady ready => r.setReady ready

/-- The registry after a history, first step first. -/
def after (r : Registry) (history : List Step) : Registry := history.foldl step r

theorem after_concat (r : Registry) (history : List Step) (s : Step) :
    r.after (history ++ [s]) = (r.after history).step s :=
  List.foldl_concat ..

end Registry

/-! ## Streaks -/

/-- The messages of the failures of a part since it was last cleared, first one first. -/
def streak (name : String) (history : List Step) : List String :=
  (history.reverse.takeWhile (!·.clears name)).reverse.filterMap (·.failure? name)

/-- Whether the last word on it was that messages are being consumed. -/
def isReady (history : List Step) : Bool := (history.filterMap (·.ready?)).getLast? == some true

theorem streak_concat (name : String) (history : List Step) (s : Step) :
    streak name (history ++ [s]) =
      if s.clears name then [] else streak name history ++ (s.failure? name).toList := by
  unfold streak
  rw [List.reverse_append, List.reverse_singleton, List.singleton_append, List.takeWhile_cons]
  cases s.clears name with
  | true => rfl
  | false =>
    simp only [Bool.not_false, if_true, Bool.false_eq_true, if_false, List.reverse_cons,
      List.filterMap_append]
    cases hs : s.failure? name <;> simp [hs]

/-- A step about another part, or about none, leaves the streak of a part as it is. -/
theorem streak_concat_of_ne {name : String} {s : Step} (h : s.name? ≠ some name)
    (history : List Step) : streak name (history ++ [s]) = streak name history := by
  have hname : ∀ n, s.name? = some n → n ≠ name := by
    rintro n hn rfl
    exact h hn
  rw [streak_concat]
  cases s with
  | setReady ready => simp [Step.clears, Step.failure?]
  | _ =>
    have hne := hname _ rfl
    simp [Step.clears, Step.failure?, hne]

/-- So the streak of a part depends on the steps about it alone. -/
theorem streak_filter (name : String) (history : List Step) :
    streak name (history.filter (·.name? == some name)) = streak name history := by
  induction history using List.reverseRecOn with
  | nil => rfl
  | append_singleton history s ih =>
    rw [List.filter_append]
    by_cases hs : s.name? = some name
    · have hkeep : [s].filter (·.name? == some name) = [s] := by simp [hs]
      rw [hkeep, streak_concat, streak_concat, ih]
    · have hdrop : [s].filter (·.name? == some name) = [] := by simp [hs]
      rw [hdrop, List.append_nil, ih, streak_concat_of_ne hs]

/-- Whether a step of the history is about the part. -/
def isNamed (name : String) (history : List Step) : Bool :=
  history.any (·.name? == some name)

theorem isNamed_concat (name : String) (history : List Step) (s : Step) :
    isNamed name (history ++ [s]) = (isNamed name history || s.name? == some name) := by
  simp [isNamed]

theorem streak_eq_nil {name : String} {history : List Step} (h : isNamed name history = false) :
    streak name history = [] := by
  rw [← streak_filter]
  have hnone : history.filter (·.name? == some name) = [] := by
    simpa [isNamed, List.filter_eq_nil_iff] using h
  rw [hnone]
  rfl

/-! ## One part -/

/-- A part that has failed with these messages since it was last cleared. -/
def Component.ofStreak (threshold : Nat) (messages : List String) : Component where
  status :=
    if messages = [] then .healthy
    else if threshold ≤ messages.length then .unhealthy
    else .degraded
  message := messages.getLast?
  failures := min messages.length maxFailures

/-- One more failure, counted on. -/
theorem Component.ofStreak_concat {threshold : Nat} (h : threshold ≤ maxFailures)
    (messages : List String) (message : String) :
    Component.ofStreak threshold (messages ++ [message]) =
      .failAgain threshold (Component.ofStreak threshold messages).failures message := by
  have hcount : min (min messages.length maxFailures + 1) maxFailures =
      min (messages.length + 1) maxFailures := by omega
  -- the count stops at a number that no threshold exceeds
  have hreach : threshold ≤ min (messages.length + 1) maxFailures ↔
      threshold ≤ messages.length + 1 := by omega
  simp [Component.ofStreak, Component.failAgain, hcount, hreach]

namespace Registry

theorem lookup_cons (n m : String) (c : Component) (parts : List (String × Component)) :
    ((m, c) :: parts).lookup n = if n = m then some c else parts.lookup n := by
  rw [List.lookup_cons]
  by_cases hn : n = m
  · simp [hn]
  · rw [if_neg hn, beq_eq_false_iff_ne.mpr hn]

theorem lookup_put (name n : String) (c : Component) (parts : List (String × Component)) :
    (put name c parts).lookup n = if n = name then some c else parts.lookup n := by
  induction parts with
  | nil => exact lookup_cons n name c []
  | cons part more ih =>
    obtain ⟨m, d⟩ := part
    unfold put
    by_cases hm : m = name
    · rw [if_pos hm, lookup_cons, lookup_cons, hm]
      by_cases hn : n = name
      · rw [if_pos hn, if_pos hn]
      · rw [if_neg hn, if_neg hn, if_neg hn]
    · rw [if_neg hm, lookup_cons, lookup_cons, ih]
      by_cases hn : n = m
      · rw [if_pos hn, if_neg fun he => hm (hn ▸ he), if_pos hn]
      · rw [if_neg hn, if_neg hn]

theorem find?_set (r : Registry) (name n : String) (c : Component) :
    (r.set name c).find? n = if n = name then some c else r.find? n :=
  lookup_put name n c r.components

theorem mem_names_put (name n : String) (c : Component) (parts : List (String × Component)) :
    n ∈ (put name c parts).map (·.1) ↔ n = name ∨ n ∈ parts.map (·.1) := by
  induction parts with
  | nil => simp [put]
  | cons part more ih =>
    obtain ⟨m, d⟩ := part
    unfold put
    by_cases hm : m = name
    · simp [hm]
    · rw [if_neg hm, List.map_cons, List.mem_cons, ih, List.map_cons, List.mem_cons]
      tauto

theorem nodup_put {parts : List (String × Component)} (h : (parts.map (·.1)).Nodup)
    (name : String) (c : Component) : ((put name c parts).map (·.1)).Nodup := by
  induction parts with
  | nil => simp [put]
  | cons part more ih =>
    obtain ⟨m, d⟩ := part
    obtain ⟨hnot, hmore⟩ := List.nodup_cons.mp h
    unfold put
    by_cases hm : m = name
    · rw [if_pos hm]
      exact h
    · rw [if_neg hm, List.map_cons, List.nodup_cons, mem_names_put]
      refine ⟨?_, ih hmore⟩
      rintro (he | hmem)
      · exact hm he
      · exact hnot hmem

/-- The registry tells of a history: each part that was named stands in it with its streak. -/
structure Tells (limit : Nat) (history : List Step) (r : Registry) : Prop where
  threshold : r.threshold = limit
  parts : ∀ name, r.find? name =
    if isNamed name history then some (.ofStreak limit (streak name history)) else none
  distinct : (r.components.map (·.1)).Nodup
  ready : r.ready = isReady history

namespace Tells

variable {limit : Nat} {history : List Step} {r : Registry}

/-- A step that puts the part it is about as its streak has it. -/
theorem set (h : r.Tells limit history) {s : Step} {name : String} {c : Component}
    (hname : s.name? = some name) (hc : c = .ofStreak limit (streak name (history ++ [s])))
    (hready : s.ready? = none) : (r.set name c).Tells limit (history ++ [s]) where
  threshold := h.threshold
  parts n := by
    rw [find?_set, isNamed_concat, hname]
    by_cases hn : n = name
    · simp [hn, hc]
    · have hne : s.name? ≠ some n := by
        rw [hname]
        exact fun he => hn (Option.some.inj he).symm
      have hother : (some name == some n) = false := by simpa using fun he : name = n => hn he.symm
      rw [if_neg hn, h.parts, streak_concat_of_ne hne, hother, Bool.or_false]
  distinct := nodup_put h.distinct name c
  ready := by
    unfold isReady
    rw [List.filterMap_append, List.filterMap_cons_none hready, List.filterMap_nil,
      List.append_nil]
    exact h.ready

/-- The failures of a part are its streak, also where it was never named. -/
theorem failuresOf (h : r.Tells limit history) (name : String) :
    r.failuresOf name = min (streak name history).length maxFailures := by
  unfold Registry.failuresOf
  rw [h.parts]
  by_cases hnamed : isNamed name history
  · rw [if_pos hnamed]
    rfl
  · rw [if_neg hnamed, streak_eq_nil (Bool.eq_false_iff.mpr hnamed)]
    exact (Nat.zero_min _).symm

/-- **A step goes on with the history.** -/
theorem step (h : r.Tells limit history) (hlimit : limit ≤ maxFailures) (s : Step) :
    (r.step s).Tells limit (history ++ [s]) := by
  cases s with
  | register name =>
    refine h.set (s := .register name) rfl ?_ rfl
    simp [streak_concat, Step.clears, Component.ofStreak, Component.healthy]
  | succeed name =>
    refine h.set (s := .succeed name) rfl ?_ rfl
    simp [streak_concat, Step.clears, Component.ofStreak, Component.healthy]
  | fail name message =>
    refine h.set (s := .fail name message) rfl ?_ rfl
    have hstreak : streak name (history ++ [.fail name message]) =
        streak name history ++ [message] := by
      simp [streak_concat, Step.clears, Step.failure?]
    rw [hstreak, Component.ofStreak_concat hlimit, h.threshold, h.failuresOf]
    rfl
  | setReady ready =>
    refine ⟨h.threshold, fun name => ?_, h.distinct, ?_⟩
    · have hname : Step.name? (.setReady ready) ≠ some name := (Option.some_ne_none name).symm
      rw [isNamed_concat, streak_concat_of_ne hname]
      exact (h.parts name).trans (by simp [Step.name?])
    · simp [isReady, Step.ready?, Registry.step, Registry.setReady]

end Tells

/-- **A registry tells of its history.** -/
theorem tells_after {t : Nat} (ht : t ≤ maxFailures) (history : List Step) :
    ((empty t).after history).Tells (max t 1) history := by
  have hlimit : max t 1 ≤ maxFailures := Nat.max_le.mpr ⟨ht, by decide⟩
  induction history using List.reverseRecOn with
  | nil => exact ⟨rfl, fun _ => rfl, List.nodup_nil, rfl⟩
  | append_singleton history s ih =>
    rw [after_concat]
    exact ih.step hlimit s

end Registry

/-! ## All parts -/

theorem Status.worse_eq_unhealthy_iff (a b : Status) :
    a.worse b = .unhealthy ↔ a = .unhealthy ∨ b = .unhealthy := by
  cases a <;> cases b <;> decide

theorem Status.worse_eq_healthy_iff (a b : Status) :
    a.worse b = .healthy ↔ a = .healthy ∧ b = .healthy := by
  cases a <;> cases b <;> decide

/-- The worst of several is unhealthy if one of them is. -/
theorem foldl_worse_eq_unhealthy_iff (s : Status) (parts : List (String × Component)) :
    parts.foldl (fun s c => s.worse c.2.status) s = .unhealthy ↔
      s = .unhealthy ∨ ∃ part ∈ parts, part.2.status = .unhealthy := by
  induction parts generalizing s with
  | nil => simp
  | cons part more ih =>
    rw [List.foldl_cons, ih, Status.worse_eq_unhealthy_iff, or_assoc, List.exists_mem_cons_iff]

/-- The worst of several is healthy if all of them are. -/
theorem foldl_worse_eq_healthy_iff (s : Status) (parts : List (String × Component)) :
    parts.foldl (fun s c => s.worse c.2.status) s = .healthy ↔
      s = .healthy ∧ ∀ part ∈ parts, part.2.status = .healthy := by
  induction parts generalizing s with
  | nil => simp
  | cons part more ih =>
    rw [List.foldl_cons, ih, Status.worse_eq_healthy_iff, and_assoc, List.forall_mem_cons]

namespace Registry

/-- With one entry for each name, the parts are the entries. -/
theorem mem_iff_lookup {parts : List (String × Component)} (h : (parts.map (·.1)).Nodup)
    {name : String} {c : Component} : (name, c) ∈ parts ↔ parts.lookup name = some c := by
  induction parts with
  | nil => simp
  | cons part more ih =>
    obtain ⟨m, d⟩ := part
    obtain ⟨hnot, hmore⟩ := List.nodup_cons.mp h
    rw [lookup_cons, List.mem_cons, ih hmore, Prod.mk.injEq]
    by_cases hn : name = m
    · -- no entry further on has the name of the first
      have hnone : more.lookup name ≠ some c := by
        intro hc
        exact hnot (List.mem_map.mpr ⟨_, (ih hmore).mpr hc, hn⟩)
      simp [hn ▸ hnone, hn, eq_comm]
    · simp [hn]

variable {limit : Nat} {history : List Step} {r : Registry}

namespace Tells

/-- A part that is known shows its streak. -/
theorem part (h : r.Tells limit history) {name : String} {c : Component}
    (hc : r.find? name = some c) : c = .ofStreak limit (streak name history) := by
  rw [h.parts] at hc
  split at hc
  · exact (Option.some.inj hc).symm
  · cases hc

/-- The whole is unhealthy if a part is. -/
theorem status_eq_unhealthy_iff (h : r.Tells limit history) :
    r.status = .unhealthy ↔ ∃ name c, r.find? name = some c ∧ c.status = .unhealthy := by
  unfold status find?
  rw [foldl_worse_eq_unhealthy_iff]
  simp [mem_iff_lookup h.distinct]

/-- The whole is healthy if every part is. -/
theorem status_eq_healthy_iff (h : r.Tells limit history) :
    r.status = .healthy ↔ ∀ name c, r.find? name = some c → c.status = .healthy := by
  unfold status find?
  rw [foldl_worse_eq_healthy_iff]
  simp [mem_iff_lookup h.distinct]

/-- The whole is degraded if a part is and none is worse. -/
theorem status_eq_degraded_iff (h : r.Tells limit history) :
    r.status = .degraded ↔
      (¬∃ name c, r.find? name = some c ∧ c.status = .unhealthy) ∧
        ∃ name c, r.find? name = some c ∧ c.status = .degraded := by
  rw [← h.status_eq_unhealthy_iff]
  constructor
  · intro hs
    have hnot : r.status ≠ .unhealthy := by rw [hs]; decide
    have hsome : ¬∀ name c, r.find? name = some c → c.status = .healthy := by
      rw [← h.status_eq_healthy_iff, hs]
      decide
    push Not at hsome
    obtain ⟨name, c, hc, hstatus⟩ := hsome
    refine ⟨hnot, name, c, hc, ?_⟩
    -- neither healthy nor, as the whole is not, unhealthy
    cases hpart : c.status with
    | healthy => exact absurd hpart hstatus
    | degraded => rfl
    | unhealthy => exact absurd (h.status_eq_unhealthy_iff.mpr ⟨name, c, hc, hpart⟩) hnot
  · rintro ⟨hnot, name, c, hc, hstatus⟩
    cases hs : r.status with
    | degraded => rfl
    | unhealthy => exact absurd hs hnot
    | healthy =>
      rw [h.status_eq_healthy_iff.mp hs name c hc] at hstatus
      cases hstatus

end Tells

end Registry

/-! ## Answers -/

/-- What is known of a part that has failed with these messages since it was last cleared. -/
structure PartLaw (limit : Nat) (messages : List String) (c : Component) : Prop where
  failures : c.failures = min messages.length (2 ^ 32 - 1)
  healthy : c.status = .healthy ↔ messages.length = 0
  unhealthy : c.status = .unhealthy ↔ limit ≤ messages.length
  degraded : c.status = .degraded ↔ 0 < messages.length ∧ messages.length < limit
  message : c.message = messages.getLast?

theorem partLaw {limit : Nat} (h : 0 < limit) (messages : List String) :
    PartLaw limit messages (.ofStreak limit messages) := by
  generalize hc : Component.ofStreak limit messages = c
  have hfailures : c.failures = min messages.length (2 ^ 32 - 1) := by rw [← hc]; rfl
  have hmessage : c.message = messages.getLast? := by rw [← hc]; rfl
  have hstatus : c.status = if messages = [] then .healthy
      else if limit ≤ messages.length then .unhealthy else .degraded := by rw [← hc]; rfl
  simp only [← List.length_eq_zero_iff] at hstatus
  by_cases hnone : messages.length = 0
  · rw [if_pos hnone] at hstatus
    refine ⟨hfailures, iff_of_true hstatus hnone, iff_of_false ?_ ?_, iff_of_false ?_ ?_, hmessage⟩
    · rw [hstatus]; decide
    · omega
    · rw [hstatus]; decide
    · omega
  rw [if_neg hnone] at hstatus
  by_cases hreach : limit ≤ messages.length
  · rw [if_pos hreach] at hstatus
    refine ⟨hfailures, iff_of_false ?_ hnone, iff_of_true hstatus hreach, iff_of_false ?_ ?_,
      hmessage⟩
    · rw [hstatus]; decide
    · rw [hstatus]; decide
    · omega
  · rw [if_neg hreach] at hstatus
    refine ⟨hfailures, iff_of_false ?_ hnone, iff_of_false ?_ hreach, iff_of_true hstatus ?_,
      hmessage⟩
    · rw [hstatus]; decide
    · rw [hstatus]; decide
    · omega

/-- Whether some part has failed so often in a row that it is unhealthy. -/
def IsFailing (limit : Nat) (history : List Step) : Prop :=
  ∃ name, limit ≤ (streak name history).length

theorem Registry.Tells.isFailing_iff {limit : Nat} {history : List Step} {r : Registry}
    (h : r.Tells limit history) (hlimit : 0 < limit) :
    r.status = .unhealthy ↔ IsFailing limit history := by
  rw [h.status_eq_unhealthy_iff]
  constructor
  · rintro ⟨name, c, hc, hstatus⟩
    refine ⟨name, ?_⟩
    rw [h.part hc] at hstatus
    exact (partLaw hlimit _).unhealthy.mp hstatus
  · rintro ⟨name, hreach⟩
    -- a part without a failure would not reach the limit, so this one was named
    have hnamed : isNamed name history = true := by
      by_contra hnot
      rw [streak_eq_nil (Bool.eq_false_iff.mpr hnot)] at hreach
      exact absurd hreach (Nat.not_le.mpr hlimit)
    have hunhealthy := (partLaw hlimit _).unhealthy.mpr hreach
    refine ⟨name, .ofStreak limit (streak name history), ?_, hunhealthy⟩
    rw [h.parts, if_pos hnamed]

/-- What a registry and the answers drawn from it say after a history, for a threshold `t`. -/
structure HealthLaw (t : Nat) (history : List Step) (r : Registry) : Prop where
  known : ∀ name, (r.find? name).isSome ↔ ∃ s ∈ history, s.name? = some name
  part : ∀ name c, r.find? name = some c → PartLaw (max t 1) (streak name history) c
  /-- Steps about other parts do not matter. -/
  alone : ∀ name, r.find? name =
    ((Registry.empty t).after (history.filter (·.name? == some name))).find? name
  /-- The status of the whole is the worst of any part. -/
  unhealthy : r.status = .unhealthy ↔ ∃ name c, r.find? name = some c ∧ c.status = .unhealthy
  degraded : r.status = .degraded ↔
    (¬∃ name c, r.find? name = some c ∧ c.status = .unhealthy) ∧
      ∃ name c, r.find? name = some c ∧ c.status = .degraded
  healthy : r.status = .healthy ↔ ∀ name c, r.find? name = some c → c.status = .healthy
  healthz : ∀ observed time,
    let a := Api.answer r observed time "GET" "/healthz"
    (a.status = 503 ↔ IsFailing (max t 1) history) ∧
      (a.status = 200 ↔ ¬IsFailing (max t 1) history)
  readyz : ∀ observed time,
    let a := Api.answer r observed time "GET" "/readyz"
    (a.status = 200 ↔ isReady history ∧ ¬IsFailing (max t 1) history) ∧
      (a.status = 503 ↔ ¬(isReady history ∧ ¬IsFailing (max t 1) history))
  /-- Of two reasons why the program is not ready, the first is given. -/
  reason : ∀ observed time,
    let a := Api.answer r observed time "GET" "/readyz"
    (¬isReady history →
      a.body = .document (Readiness.toJson ⟨false, some "Consumer not yet subscribed"⟩)) ∧
    (isReady history → IsFailing (max t 1) history →
      a.body = .document (Readiness.toJson ⟨false, some "Critical component unhealthy"⟩)) ∧
    (isReady history → ¬IsFailing (max t 1) history →
      a.body = .document (Readiness.toJson ⟨true, none⟩))

theorem answer_healthz (r : Registry) (observed : List Metering.Observation) (time : Int) :
    Api.answer r observed time "GET" "/healthz" = Api.Endpoint.health.answer r observed time := by
  have hpath : Api.pathOf "/healthz" = "/healthz" := by decide
  simp [Api.answer, hpath, Api.Endpoint.all, Api.Endpoint.path]

theorem answer_readyz (r : Registry) (observed : List Metering.Observation) (time : Int) :
    Api.answer r observed time "GET" "/readyz" = Api.Endpoint.readiness.answer r observed time := by
  have hpath : Api.pathOf "/readyz" = "/readyz" := by decide
  simp [Api.answer, hpath, Api.Endpoint.all, Api.Endpoint.path]

theorem isOperational_eq_false_iff (s : Status) : s.isOperational = false ↔ s = .unhealthy := by
  cases s <;> decide

/-- **The law of the registry**, for every threshold of 32 bits and every history. -/
theorem registry_law (t : UInt32) (history : List Step) :
    HealthLaw t.toNat history ((Registry.empty t.toNat).after history) := by
  have ht : t.toNat ≤ maxFailures := Nat.le_of_lt_succ t.toNat_lt
  have hlimit : 0 < max t.toNat 1 := Nat.lt_of_lt_of_le Nat.one_pos (Nat.le_max_right _ _)
  have h := Registry.tells_after ht history
  have hfailing := h.isFailing_iff hlimit
  generalize hr : (Registry.empty t.toNat).after history = r at h hfailing
  have hready := h.ready
  constructor
  case known =>
    intro name
    rw [h.parts]
    simp [isNamed, Option.isSome_ite]
  case part =>
    intro name c hc
    rw [h.part hc]
    exact partLaw hlimit _
  case alone =>
    intro name
    have hnamed : isNamed name (history.filter (·.name? == some name)) = isNamed name history := by
      simp [isNamed, List.any_filter]
    rw [h.parts, (Registry.tells_after ht _).parts, streak_filter, hnamed]
  case unhealthy => exact h.status_eq_unhealthy_iff
  case healthy => exact h.status_eq_healthy_iff
  case degraded => exact h.status_eq_degraded_iff
  case healthz =>
    intro observed time
    rw [answer_healthz, ← hfailing, ← isOperational_eq_false_iff]
    show ((if r.status.isOperational then 200 else 503) = 503 ↔ _) ∧
      ((if r.status.isOperational then 200 else 503) = 200 ↔ _)
    cases r.status.isOperational <;> decide
  case readyz =>
    intro observed time
    rw [answer_readyz, ← hfailing, ← isOperational_eq_false_iff, ← hready]
    show ((if r.readiness.ready then 200 else 503) = 200 ↔ _) ∧
      ((if r.readiness.ready then 200 else 503) = 503 ↔ _)
    unfold Registry.readiness
    cases r.ready <;> cases r.status.isOperational <;> decide
  case reason =>
    intro observed time
    rw [answer_readyz, ← hfailing, ← isOperational_eq_false_iff, ← hready]
    show (_ → Api.Body.document r.readiness.toJson = _) ∧
      (_ → _ → Api.Body.document r.readiness.toJson = _) ∧
      (_ → _ → Api.Body.document r.readiness.toJson = _)
    unfold Registry.readiness
    cases r.ready <;> cases r.status.isOperational <;> simp

end UsageFeed.Health
