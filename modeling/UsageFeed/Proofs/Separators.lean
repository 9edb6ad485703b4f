import Mathlib.Data.List.Infix
import UsageFeed.Experiment

/-!
# `UsageFeed.Proofs.Separators` — when a separator keeps the names of experiments apart

The name of an experiment is its four parts with a separator between them. Parts that do not contain
the separator can be told from the name just if the separator has no border, that is, if nothing but
the whole of it both begins and ends it.

## Contents
- **Words.** `Unbordered`; an unbordered word is found again where it has been put
  (`eq_nil_of_overlap`), so that what was joined by it can be taken apart (`intercalate_inj`).
- **Names.** `nameParts` and `Separates`; `separates_of_unbordered`, and the names that coincide
  where there is a border (`unbordered_of_separates`).
- **When names are kept apart.** `separates_iff_unbordered`.
-/

namespace UsageFeed

/-! ## Words -/

section Words

variable {α : Type} {s : List α}

/-- No proper beginning of a word but the empty one is an end of it. -/
def Unbordered (s : List α) : Prop := ∀ u, u <+: s → u ≠ [] → u ≠ s → ¬u <:+ s

/-- An unbordered word does not begin within itself: where it stands after some text that does not
contain it, and at the very beginning as well, there is no such text. -/
theorem eq_nil_of_overlap (hs : Unbordered s) {t x y : List α} (ht : ¬s <:+: t)
    (h : s ++ x = t ++ (s ++ y)) : t = [] := by
  have hprefix : t <+: s ∨ s <+: t :=
    List.prefix_or_prefix_of_prefix ⟨s ++ y, rfl⟩ ⟨x, h⟩
  rcases hprefix with ⟨v, rfl⟩ | hin
  · -- the second word begins within the first one, after `t` and before `v`
    rw [List.append_assoc, List.append_cancel_left_eq] at h
    have hbegins : v <+: t ++ v := by
      refine List.prefix_of_prefix_length_le ⟨x, h⟩ (List.prefix_append _ y) ?_
      rw [List.length_append]
      omega
    have hends : v <:+ t ++ v := List.suffix_append t v
    by_contra hne
    have hv : v ≠ [] := by
      rintro rfl
      exact ht ⟨[], [], by simp⟩
    have hproper : v ≠ t ++ v := by
      intro hv
      exact hne (List.self_eq_append_left.mp hv)
    exact hs v hbegins hv hproper hends
  · exact absurd hin.isInfix ht

/-- What stands before the first unbordered word, and what stands after it, can be told. -/
theorem append_inj_of_unbordered (hs : Unbordered s) {a b x y : List α} (ha : ¬s <:+: a)
    (hb : ¬s <:+: b) (h : a ++ (s ++ x) = b ++ (s ++ y)) : a = b ∧ x = y := by
  -- one of the two is the other with something behind it, in which the word does not occur
  have hcut : ∀ {a t x y : List α}, ¬s <:+: a ++ t → a ++ (s ++ x) = a ++ t ++ (s ++ y) →
      t = [] := by
    intro a t x y hnot h
    rw [List.append_assoc, List.append_cancel_left_eq] at h
    refine eq_nil_of_overlap hs (fun ht => hnot ?_) h
    exact ht.trans (List.suffix_append a t).isInfix
  have hsame : a = b := by
    rcases List.prefix_or_prefix_of_prefix (List.prefix_append a (s ++ x))
      (h ▸ List.prefix_append b (s ++ y)) with ⟨t, rfl⟩ | ⟨t, rfl⟩
    · rw [hcut hb h, List.append_nil]
    · rw [hcut ha h.symm, List.append_nil]
  subst hsame
  rw [List.append_cancel_left_eq, List.append_cancel_left_eq] at h
  exact ⟨rfl, h⟩

/-- **As many texts as there were can be taken out of what was joined by an unbordered word.** -/
theorem intercalate_inj (hs : Unbordered s) {as bs : List (List α)} (hlength : as.length = bs.length)
    (ha : ∀ a ∈ as, ¬s <:+: a) (hb : ∀ b ∈ bs, ¬s <:+: b)
    (h : s.intercalate as = s.intercalate bs) : as = bs := by
  induction as generalizing bs with
  | nil => exact (List.length_eq_zero_iff.mp hlength.symm).symm
  | cons a as ih =>
    obtain ⟨b, bs, rfl⟩ := List.exists_cons_of_length_eq_add_one hlength.symm
    obtain ⟨hfirst, has⟩ := List.forall_mem_cons.mp ha
    obtain ⟨hfirst', hbs⟩ := List.forall_mem_cons.mp hb
    have hrest : as.length = bs.length := Nat.succ.inj hlength
    cases as with
    | nil =>
      -- the last text is all that is left
      obtain rfl := List.length_eq_zero_iff.mp hrest.symm
      rw [List.intercalate_singleton, List.intercalate_singleton] at h
      rw [h]
    | cons a' as =>
      obtain ⟨b', bs, rfl⟩ := List.exists_cons_of_length_eq_add_one hrest.symm
      rw [List.intercalate_cons_cons, List.intercalate_cons_cons, List.append_assoc,
        List.append_assoc] at h
      obtain ⟨rfl, hmore⟩ := append_inj_of_unbordered hs hfirst hfirst' h
      rw [ih hrest has hbs hmore]

end Words

/-! ## Names -/

/-- What the name of an experiment is made of. -/
def nameParts (c : Context) (ns deployment : String) : List String :=
  [c.orgId, c.clusterId, ns, deployment]

theorem toList_experimentName (c : Context) (ns deployment separator : String) :
    (experimentName c ns deployment separator).toList =
      separator.toList.intercalate ((nameParts c ns deployment).map String.toList) := by
  unfold experimentName nameParts
  rw [String.toList_intercalate]

/-- The separator keeps names apart: experiments with one name have the same four parts, if none of
the eight contains the separator. -/
def Separates (separator : String) : Prop :=
  ∀ (c₁ c₂ : Context) (ns₁ deployment₁ ns₂ deployment₂ : String),
    (∀ part ∈ nameParts c₁ ns₁ deployment₁ ++ nameParts c₂ ns₂ deployment₂,
      ¬separator.toList <:+: part.toList) →
    experimentName c₁ ns₁ deployment₁ separator = experimentName c₂ ns₂ deployment₂ separator →
    nameParts c₁ ns₁ deployment₁ = nameParts c₂ ns₂ deployment₂

variable {separator : String}

theorem separates_of_unbordered (h : Unbordered separator.toList) : Separates separator := by
  intro c₁ c₂ ns₁ deployment₁ ns₂ deployment₂ hparts hname
  have hnone : ∀ {parts : List String},
      parts ⊆ nameParts c₁ ns₁ deployment₁ ++ nameParts c₂ ns₂ deployment₂ →
      ∀ part ∈ parts.map String.toList, ¬separator.toList <:+: part := by
    intro parts hsub part hpart
    obtain ⟨text, htext, rfl⟩ := List.mem_map.mp hpart
    exact hparts text (hsub htext)
  have hjoined := congrArg String.toList hname
  rw [toList_experimentName, toList_experimentName] at hjoined
  have hlength : ((nameParts c₁ ns₁ deployment₁).map String.toList).length =
      ((nameParts c₂ ns₂ deployment₂).map String.toList).length := rfl
  have hsame := intercalate_inj h hlength (hnone (List.subset_append_left _ _))
    (hnone (List.subset_append_right _ _)) hjoined
  exact List.map_injective_iff.mpr (fun _ _ => String.toList_inj.mp) hsame

/-- A word with a border, once continued by what it has after the border at its beginning, reads the
same as what it has before the border at its end, followed by the word. -/
theorem exists_shift_of_border {s u : List Char} (hbegins : u <+: s) (hne : u ≠ [])
    (hproper : u ≠ s) (hends : u <:+ s) :
    ∃ v w, s ++ v = w ++ s ∧ w ≠ [] ∧ ¬s <:+: v ∧ ¬s <:+: w := by
  obtain ⟨v, hv⟩ := hbegins
  obtain ⟨w, hw⟩ := hends
  have hu : 0 < u.length := List.length_pos_iff.mpr hne
  -- neither of the two is as long as the word
  have hshort : ∀ t : List Char, t.length < s.length → ¬s <:+: t := fun t ht hin =>
    absurd hin.length_le (Nat.not_le.mpr ht)
  have hvlength : v.length < s.length := by
    rw [← hv, List.length_append]
    omega
  have hwlength : w.length < s.length := by
    rw [← hw, List.length_append]
    omega
  refine ⟨v, w, ?_, ?_, hshort v hvlength, hshort w hwlength⟩
  · calc s ++ v = (w ++ u) ++ v := by rw [hw]
      _ = w ++ (u ++ v) := List.append_assoc w u v
      _ = w ++ s := by rw [hv]
  · rintro rfl
    exact hproper hw

/-- Where the separator has a border, names coincide: the border is shared between two places at
which the separator can be read. -/
theorem unbordered_of_separates (h : Separates separator) : Unbordered separator.toList := by
  intro u hbegins hne hproper hends
  obtain ⟨v, w, hshift, hw, hnotv, hnotw⟩ := exists_shift_of_border hbegins hne hproper hends
  have hempty : ¬separator.toList <:+: [] := fun hin =>
    hne (List.prefix_nil.mp (hbegins.trans (List.infix_nil.mp hin ▸ List.nil_prefix)))
  let left : Context := ⟨"", none, "", String.ofList v, none⟩
  let right : Context := ⟨"", none, String.ofList w, "", none⟩
  have hparts : ∀ part ∈ nameParts left "" "" ++ nameParts right "" "",
      ¬separator.toList <:+: part.toList := by
    simp [nameParts, left, right, hempty, hnotv, hnotw]
  have hname : experimentName left "" "" separator = experimentName right "" "" separator := by
    rw [experimentName_eq, experimentName_eq, ← String.toList_inj]
    simp only [left, right, String.toList_append, String.toList_ofList, String.toList_empty,
      List.nil_append, List.append_nil]
    rw [hshift]
  have hsame := h left right "" "" "" "" hparts hname
  have horg : "" = String.ofList w := (List.cons.inj hsame).1
  exact hw (by simpa using congrArg String.toList horg.symm)

/-- A single character has nothing but itself to begin with. -/
theorem unbordered_singleton (c : Char) : Unbordered (String.singleton c).toList := by
  intro u hbegins hne hproper _
  rw [String.toList_singleton] at hbegins hproper
  have hlength : u.length ≤ 1 := hbegins.length_le
  have hpos : 0 < u.length := List.length_pos_iff.mpr hne
  exact hproper (hbegins.eq_of_length (Nat.le_antisymm hlength hpos))

/-- Two dashes begin and end with a dash. -/
theorem not_unbordered_dashes : ¬Unbordered "--".toList := fun h =>
  h ['-'] (by decide) (by decide) (by decide) (by decide)

/-! ## When names are kept apart -/

/-- **A separator keeps names apart just if it has no border.** So does any single character, and two
dashes do not. -/
theorem separates_iff_unbordered :
    (∀ separator, Separates separator ↔ Unbordered separator.toList) ∧
      (∀ c, Separates (String.singleton c)) ∧ ¬Separates "--" := by
  refine ⟨fun _ => ⟨unbordered_of_separates, separates_of_unbordered⟩, fun c => ?_, fun h => ?_⟩
  · exact separates_of_unbordered (unbordered_singleton c)
  · exact not_unbordered_dashes (unbordered_of_separates h)

end UsageFeed
