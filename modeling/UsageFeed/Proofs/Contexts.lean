import UsageFeed.Event

/-!
# `UsageFeed.Proofs.Contexts` — what an event has to say

An event has a context just if it is complete. One that is not is refused with the names of the
fields it lacks; but without metadata nothing else is looked at, so that a request that is lacking
as well goes unnamed.

## Contents
- **Values.** `isGiven`, and what `Event.nonEmpty` keeps.
- **Complete events.** `Event.IsIncomplete`, `context_eq_error_iff`, and `Event.Gives`, what a
  context says.
- **Lacking fields.** `Event.Lacks`, the list `Event.absent` makes, `context_names`, and
  `context_hides_request`, where a field is lacking and not named.
-/

namespace UsageFeed

/-! ## Values -/

/-- Whether a value is there and not empty. -/
def isGiven (s : Option String) : Bool := s.any (· ≠ "")

theorem nonEmpty_eq_none_iff (s : Option String) : Event.nonEmpty s = none ↔ isGiven s = false := by
  unfold Event.nonEmpty isGiven
  cases s with
  | none => simp
  | some t => by_cases h : t = "" <;> simp [h, Option.filter]

theorem eq_some_of_nonEmpty {s : Option String} {t : String} (h : Event.nonEmpty s = some t) :
    s = some t ∧ t ≠ "" := by
  obtain ⟨hs, ht⟩ := Option.filter_eq_some_iff.mp h
  exact ⟨hs, of_decide_eq_true ht⟩

/-! ## Complete events -/

/-- An event is incomplete if it has no metadata, or if the organization, the cluster or the
request is lacking or empty. -/
def Event.IsIncomplete (e : Event) : Prop :=
  match e.metadata with
  | none => True
  | some m => isGiven m.orgId = false ∨ isGiven m.clusterId = false ∨ isGiven e.requestId = false

theorem context_eq_error_iff (e : Event) : (∃ f, e.context = .error f) ↔ e.IsIncomplete := by
  unfold Event.context Event.IsIncomplete
  cases e.metadata with
  | none => simp
  | some m =>
    simp only [← nonEmpty_eq_none_iff]
    cases Event.nonEmpty m.orgId <;> cases Event.nonEmpty m.clusterId <;>
      cases Event.nonEmpty e.requestId <;> simp

/-- An optional value is told as it is, and not at all if it is empty. -/
structure Told (value told : Option String) : Prop where
  absent : told = none ↔ isGiven value = false
  same : ∀ t, told = some t → value = some t

theorem told_nonEmpty (s : Option String) : Told s (Event.nonEmpty s) :=
  ⟨nonEmpty_eq_none_iff s, fun _ ht => (eq_some_of_nonEmpty ht).1⟩

namespace Event

/-- What a context says of an event with such metadata: its values and nothing else. -/
structure Gives (e : Event) (m : Metadata) (c : Context) : Prop where
  request : e.requestId = some c.requestId ∧ c.requestId ≠ ""
  organization : m.orgId = some c.orgId ∧ c.orgId ≠ ""
  cluster : m.clusterId = some c.clusterId ∧ c.clusterId ≠ ""
  account : Told m.account c.account
  identity : Told e.identity c.identity

theorem gives_context {e : Event} {c : Context} (h : e.context = .ok c) :
    ∃ m, e.metadata = some m ∧ e.Gives m c := by
  unfold context at h
  split at h
  · cases h
  rename_i m hm
  simp only at h
  split at h
  · rename_i request org cluster hrequest horg hcluster
    cases h
    exact ⟨m, hm, eq_some_of_nonEmpty hrequest, eq_some_of_nonEmpty horg,
      eq_some_of_nonEmpty hcluster, told_nonEmpty m.account, told_nonEmpty e.identity⟩
  · cases h

/-! ## Lacking fields -/

/-- The names of the fields that an event lacks: those of its own, and if it has metadata those of
the metadata. -/
inductive Lacks (e : Event) : String → Prop
  | request (lacking : isGiven e.requestId = false) : e.Lacks "request_id"
  | metadata (lacking : e.metadata = none) : e.Lacks "metadata"
  | organization {m : Metadata} (some : e.metadata = some m) (lacking : isGiven m.orgId = false) :
      e.Lacks "org_id"
  | cluster {m : Metadata} (some : e.metadata = some m) (lacking : isGiven m.clusterId = false) :
      e.Lacks "cluster_id"

theorem mem_absent {fields : List (String × Option String)} {name : String} :
    name ∈ absent fields ↔ (name, none) ∈ fields := by
  simp [absent]

/-- Fields with different names are named once each. -/
theorem nodup_absent {fields : List (String × Option String)} (h : (fields.map (·.1)).Nodup) :
    (absent fields).Nodup :=
  h.sublist (List.filter_sublist.map _)

/-- With metadata at hand, the fields that are absent are those that the event lacks. -/
theorem mem_absent_iff_lacks {e : Event} {m : Metadata} (hm : e.metadata = some m)
    (name : String) :
    name ∈ absent [("org_id", nonEmpty m.orgId), ("request_id", nonEmpty e.requestId),
        ("cluster_id", nonEmpty m.clusterId)] ↔ e.Lacks name := by
  simp only [mem_absent, List.mem_cons, Prod.mk.injEq, List.not_mem_nil, or_false,
    eq_comm (a := none), nonEmpty_eq_none_iff]
  constructor
  · rintro (⟨rfl, h⟩ | ⟨rfl, h⟩ | ⟨rfl, h⟩)
    · exact .organization hm h
    · exact .request h
    · exact .cluster hm h
  · intro h
    cases h with
    | request h => exact .inr (.inl ⟨rfl, h⟩)
    | metadata h => cases hm.symm.trans h
    | organization hm' h =>
      cases hm.symm.trans hm'
      exact .inl ⟨rfl, h⟩
    | cluster hm' h =>
      cases hm.symm.trans hm'
      exact .inr (.inr ⟨rfl, h⟩)

/-- What is said of an event that is refused. -/
theorem context_blames_lacking {e : Event} {f : Failure} (h : e.context = .error f) :
    ∃ missing, f = .incompleteEvent missing ∧ missing.Nodup ∧
      ∀ name, name ∈ missing ↔ e.Lacks name ∧ (e.metadata = none → name = "metadata") := by
  unfold context at h
  split at h
  · rename_i hm
    cases h
    refine ⟨_, rfl, by simp, fun name => ?_⟩
    rw [List.mem_singleton]
    exact ⟨fun hname => ⟨hname ▸ .metadata hm, fun _ => hname⟩, fun hlacks => hlacks.2 hm⟩
  · rename_i m hm
    simp only at h
    split at h
    · cases h
    · cases h
      refine ⟨_, rfl, nodup_absent (by simp), fun name => ?_⟩
      rw [mem_absent_iff_lacks hm]
      exact (and_iff_left fun hnone => nomatch hm.symm.trans hnone).symm

end Event

/-- **An event has a context just if it is complete, and then the context has its values. Any other
event is refused with the names of what it lacks**, each once: with metadata all of them, and
without metadata that alone. -/
theorem context_names (e : Event) :
    ((∃ c, e.context = .ok c) ↔ ¬ e.IsIncomplete) ∧
      (∀ c, e.context = .ok c → ∃ m, e.metadata = some m ∧ e.Gives m c) ∧
      ∀ f, e.context = .error f →
        ∃ missing, f = .incompleteEvent missing ∧ missing.Nodup ∧
          ∀ name, name ∈ missing ↔ e.Lacks name ∧ (e.metadata = none → name = "metadata") := by
  refine ⟨?_, fun _ h => Event.gives_context h, fun _ h => Event.context_blames_lacking h⟩
  rw [← context_eq_error_iff]
  cases e.context with
  | ok c => simp
  | error f => simp

/-- Of an event without metadata the request is not named, though it is lacking. -/
theorem context_hides_request :
    ¬ ∀ (e : Event) (missing : List String), e.context = .error (.incompleteEvent missing) →
        ∀ name, name ∈ missing ↔ e.Lacks name := by
  intro h
  have hnamed := (h {} ["metadata"] rfl "request_id").mpr (.request rfl)
  exact absurd hnamed (by decide)

end UsageFeed
