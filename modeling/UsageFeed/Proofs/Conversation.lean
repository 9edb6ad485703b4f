import Mathlib.Logic.Function.Basic
import UsageFeed.Episode

/-!
# `UsageFeed.Proofs.Conversation` — what an episode leaves in a journal

## Contents
- **Running.** `Episode.run` on each of the steps that episodes are made of.
- **Deeds.** `Journal.deeds`, a journal without the remarks of those who answer; every view of a
  journal but the log looks through them.
- **Answers.** `Answers`, one answer for each call, and `World.Gives`, which says that they are the
  world's; `World.still`, a world that has no others.
- **Sequencing.** `Episode.Yields`, what an episode comes to wherever it begins, with one rule for
  each of the steps.
- **Two episodes with one journal.** `Episode.Mirrors`.
-/

namespace UsageFeed

open Service (Call Response)
open Metering (Series growth)

/-! ## Running -/

namespace Episode

variable {α β : Type} (w : World) (j : Journal)

@[simp] theorem run_pure (a : α) : (pure a : Episode α).run w j = ([], a) := rfl

theorem run_bind (e : Episode α) (f : α → Episode β) :
    (e >>= f).run w j =
      ((e.run w j).1 ++ ((f (e.run w j).2).run w (j ++ (e.run w j).1)).1,
        ((f (e.run w j).2).run w (j ++ (e.run w j).1)).2) :=
  run_andThen w j e f

@[simp] theorem run_happen (o : Occurrence) : (happen o).run w j = ([o], ()) := rfl

@[simp] theorem run_happenAll (os : List Occurrence) : (happenAll os).run w j = (os, ()) := by
  induction os generalizing j with
  | nil => rfl
  | cons o os ih => simp [happenAll, run, ih]

@[simp] theorem run_askService (c : Call) :
    (askService c).run w j =
      ((w.call j c).1.map .noted ++ [.called c (w.call j c).2], (w.call j c).2) := by
  simp [askService, run]

@[simp] theorem run_askReport (reference : String) :
    (askReport reference).run w j =
      ((w.load j reference).1.map .noted ++ [.loaded reference (w.load j reference).2],
        (w.load j reference).2) := by
  simp [askReport, run]

end Episode

/-! ## Deeds -/

/-- Whether an occurrence is no more than a remark for the log. -/
def Occurrence.isNote : Occurrence → Bool
  | noted _ => true
  | _ => false

namespace Journal

/-- What happened, without the remarks. -/
def deeds (j : Journal) : Journal := j.filter fun o => !o.isNote

@[simp] theorem deeds_append (i j : Journal) : deeds (i ++ j) = deeds i ++ deeds j :=
  List.filter_append i j

@[simp] theorem deeds_notes (records : List Log.Record) : deeds (records.map .noted) = [] := by
  unfold deeds
  rw [List.filter_eq_nil_iff]
  intro o ho
  obtain ⟨r, _, rfl⟩ := List.mem_map.mp ho
  simp [Occurrence.isNote]

theorem deeds_cons {o : Occurrence} (h : o.isNote = false) (j : Journal) :
    deeds (o :: j) = o :: deeds j := by
  simp [deeds, h]

/-- A view that looks at one occurrence at a time and finds nothing in remarks sees the deeds. -/
theorem filterMap_deeds {β : Type} {f : Occurrence → Option β} (h : ∀ r, f (.noted r) = none)
    (j : Journal) : j.deeds.filterMap f = j.filterMap f := by
  unfold deeds
  rw [List.filterMap_filter]
  congr 1
  funext o
  cases o with
  | noted r => simp [Occurrence.isNote, h]
  | _ => simp [Occurrence.isNote]

/-- So does a view that may find several things in one occurrence. -/
theorem flatMap_deeds {β : Type} {f : Occurrence → List β} (h : ∀ r, f (.noted r) = [])
    (j : Journal) : j.deeds.flatMap f = j.flatMap f := by
  induction j with
  | nil => rfl
  | cons o j ih =>
    cases hnote : o.isNote with
    | false => rw [deeds_cons hnote, List.flatMap_cons, List.flatMap_cons, ih]
    | true =>
      cases o with
      | noted r =>
        rw [List.flatMap_cons, h, List.nil_append]
        exact ih
      | _ => cases hnote

@[simp] theorem answeredCalls_deeds (j : Journal) : j.deeds.answeredCalls = j.answeredCalls :=
  filterMap_deeds (fun _ => rfl) j

@[simp] theorem calls_deeds (j : Journal) : j.deeds.calls = j.calls := by
  unfold calls
  rw [answeredCalls_deeds]

@[simp] theorem loads_deeds (j : Journal) : j.deeds.loads = j.loads :=
  filterMap_deeds (fun _ => rfl) j

@[simp] theorem answeredCalls_append (i j : Journal) :
    (i ++ j).answeredCalls = i.answeredCalls ++ j.answeredCalls :=
  List.filterMap_append

theorem answeredCalls_cons (o : Occurrence) (j : Journal) :
    answeredCalls (o :: j) = o.call?.toList ++ answeredCalls j := by
  unfold answeredCalls
  rw [List.filterMap_cons]
  cases o.call? <;> rfl

theorem loads_cons (o : Occurrence) (j : Journal) : loads (o :: j) = o.load?.toList ++ loads j := by
  unfold loads
  rw [List.filterMap_cons]
  cases o.load? <;> rfl

@[simp] theorem loads_append (i j : Journal) : (i ++ j).loads = i.loads ++ j.loads :=
  List.filterMap_append

@[simp] theorem observed_append (i j : Journal) : (i ++ j).observed = i.observed ++ j.observed :=
  List.flatMap_append

theorem observed_deeds (j : Journal) : observed j.deeds = observed j :=
  flatMap_deeds (fun _ => rfl) j

/-- How much one part of a journal after another adds to a series. -/
theorem growth_append (i j : Journal) (s : Series) :
    growth (i ++ j).observed s = growth i.observed s + growth j.observed s := by
  rw [observed_append]
  exact List.count_append

/-- A series that no occurrence adds to does not grow. -/
theorem growth_eq_zero {j : Journal} {s : Series} (h : ∀ o ∈ j, s ∉ o.observed) :
    growth j.observed s = 0 := by
  refine List.count_eq_zero.mpr fun hmem => ?_
  obtain ⟨o, ho, hseries⟩ := List.mem_flatMap.mp hmem
  exact h o ho hseries

end Journal

/-! ## Answers -/

/-- What the service says to each call. -/
abbrev Answers := Call → Except Failure Response

/-- The answers are the world's: each call is answered as the world does at some time. -/
def World.Gives (w : World) (answer : Answers) : Prop := ∀ c, ∃ i, answer c = (w.call i c).2

theorem World.gives_at (w : World) (j : Journal) : w.Gives fun c => (w.call j c).2 :=
  fun _ => ⟨j, rfl⟩

open Classical in
/-- One call answered at another time. -/
theorem World.Gives.update {w : World} {answer : Answers} (h : w.Gives answer) (j : Journal)
    (c : Call) : w.Gives (Function.update answer c (w.call j c).2) := by
  intro d
  by_cases hd : d = c
  · subst hd
    exact ⟨j, Function.update_self ..⟩
  · rw [Function.update_of_ne hd]
    exact h d

/-- A world in which nothing ever changes: there is one report, and each call has its one answer. -/
def World.still (table : Report.Table) (answer : Answers) : World where
  load _ _ := ([], .ok table)
  call _ c := ([], answer c)
  now _ := ⟨0, 0⟩

/-! ## Sequencing -/

namespace Episode

variable {α β : Type} {w : World}

/-- Wherever it begins, the episode ends with deeds and a result of which `Q` holds. -/
def Yields (w : World) (e : Episode α) (Q : Journal → α → Prop) : Prop :=
  ∀ j, Q (e.run w j).1.deeds (e.run w j).2

theorem Yields.mono {e : Episode α} {Q R : Journal → α → Prop} (h : e.Yields w Q)
    (hqr : ∀ d a, Q d a → R d a) : e.Yields w R :=
  fun j => hqr _ _ (h j)

/-- One episode after another: the deeds of the second follow those of the first. -/
theorem Yields.bind {e : Episode α} {f : α → Episode β} {Q : Journal → α → Prop}
    {R : Journal → β → Prop} (he : e.Yields w Q)
    (hf : ∀ d a, Q d a → (f a).Yields w fun d' b => R (d ++ d') b) : (e >>= f).Yields w R := by
  intro j
  rw [run_bind, Journal.deeds_append]
  exact hf _ _ (he j) _

theorem yields_pure {a : α} {Q : Journal → α → Prop} (h : Q [] a) :
    (pure a : Episode α).Yields w Q :=
  fun _ => h

theorem yields_happenAll_bind {os : List Occurrence} {f : Unit → Episode β}
    {Q : Journal → β → Prop} (h : (f ()).Yields w fun d b => Q (Journal.deeds os ++ d) b) :
    (happenAll os >>= f).Yields w Q := by
  intro j
  rw [run_bind, run_happenAll, Journal.deeds_append]
  exact h _

theorem yields_happen_bind {o : Occurrence} {f : Unit → Episode β} {Q : Journal → β → Prop}
    (h : (f ()).Yields w fun d b => Q (Journal.deeds [o] ++ d) b) : (happen o >>= f).Yields w Q :=
  yields_happenAll_bind h

theorem yields_askTime : askTime.Yields w fun d t => d = [] ∧ ∃ i, t = w.now i :=
  fun j => ⟨rfl, j, rfl⟩

theorem yields_askService (call : Call) :
    (askService call).Yields w fun d a => d = [.called call a] ∧ ∃ i, a = (w.call i call).2 := by
  intro j
  rw [run_askService, Journal.deeds_append, Journal.deeds_notes]
  exact ⟨rfl, j, rfl⟩

theorem yields_askReport (reference : String) :
    (askReport reference).Yields w fun d r =>
      d = [.loaded reference r] ∧ ∃ i, r = (w.load i reference).2 := by
  intro j
  rw [run_askReport, Journal.deeds_append, Journal.deeds_notes]
  exact ⟨rfl, j, rfl⟩

/-! ## Two episodes with one journal -/

/-- Whatever the world, both episodes leave the same journal, and the result of the second is what
`g` makes of the result of the first. -/
def Mirrors {β : Type} (g : α → β) (e : Episode α) (e' : Episode β) : Prop :=
  ∀ w j, e'.run w j = ((e.run w j).1, g (e.run w j).2)

theorem Mirrors.refl (e : Episode α) : Mirrors id e e := fun _ _ => rfl

theorem mirrors_pure {g : α → β} (a : α) : Mirrors g (pure a) (pure (g a)) := fun _ _ => rfl

theorem Mirrors.bind {γ δ : Type} {g : α → β} {h : γ → δ} {e : Episode α} {e' : Episode β}
    {f : α → Episode γ} {f' : β → Episode δ} (he : Mirrors g e e')
    (hf : ∀ a, Mirrors h (f a) (f' (g a))) : Mirrors h (e >>= f) (e' >>= f') := by
  intro w j
  rw [run_bind, run_bind, he w j, hf]

end Episode
end UsageFeed
