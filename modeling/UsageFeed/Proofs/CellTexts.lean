import Mathlib.Data.List.Forall2
import Mathlib.Data.List.Induction
import Mathlib.Data.List.TakeWhile
import UsageFeed.Report.Table
import UsageFeed.Proofs.Encoding

/-!
# `UsageFeed.Proofs.CellTexts` — the texts in the cells of a file

A cell is trimmed twice, as bytes and as text. It comes to the same as trimming the text it is
written as, and there is such a text if the cell can be read.

## Contents
- **Trimming.** `exists_trimBy`, what trimming takes off, and `trimBy_append`, that it takes off no
  less.
- **Figures.** `isBlank_readFloat?`: the text of a number is trimmed already.
- **Bytes.** `Csv.Spells`, a cell that holds a text with white space around it, and
  `spells_iff_decode`.
- **Records.** `texts_eq_ok_iff` and `headerNames?_eq_some_iff`.
-/

namespace UsageFeed

/-! ## Trimming -/

namespace Text

/-- Trimming takes off such elements alone. -/
theorem exists_trimBy {α : Type} (p : α → Bool) (l : List α) :
    ∃ pre post, l = pre ++ (trimBy p l ++ post) ∧ (∀ x ∈ pre, p x) ∧ ∀ x ∈ post, p x := by
  have hall : ∀ (l : List α), ∀ x ∈ l.takeWhile p, p x := fun l =>
    List.all_eq_true.mp List.all_takeWhile
  refine ⟨l.takeWhile p, ((l.dropWhile p).reverse.takeWhile p).reverse, ?_, hall l, ?_⟩
  · unfold trimBy
    rw [← List.reverse_append, List.takeWhile_append_dropWhile, List.reverse_reverse,
      List.takeWhile_append_dropWhile]
  · intro x hx
    exact hall _ x (List.mem_reverse.mp hx)

/-- Such elements at the ends do not change what is left. -/
theorem trimBy_append {α : Type} {p : α → Bool} {pre post : List α} (hpre : ∀ x ∈ pre, p x)
    (hpost : ∀ x ∈ post, p x) (l : List α) : trimBy p (pre ++ (l ++ post)) = trimBy p l := by
  unfold trimBy
  rw [List.dropWhile_append_of_pos hpre, List.dropWhile_append]
  cases hdrop : l.dropWhile p with
  | nil =>
    have hnone : post.dropWhile p = [] := List.dropWhile_eq_nil_iff.mpr hpost
    simp [hnone]
  | cons x more =>
    rw [List.isEmpty_cons, if_neg Bool.false_ne_true, List.reverse_append,
      List.dropWhile_append_of_pos fun x hx => hpost x (List.mem_reverse.mp hx)]

theorem trim_append {pre post : List Char} (hpre : ∀ c ∈ pre, isBlank c)
    (hpost : ∀ c ∈ post, isBlank c) (s : String) :
    trim (String.ofList (pre ++ (s.toList ++ post))) = trim s := by
  unfold trim
  rw [String.toList_ofList, trimBy_append hpre hpost]

theorem isBlank_of_all {cs : List Char} (h : (cs.all fun c => !isBlank c) = true) :
    ∀ c ∈ cs, isBlank c = false := by
  simpa using h

/-- A text with no white space in it stays as it is. -/
theorem trim_eq_self {s : String} (h : ∀ c ∈ s.toList, isBlank c = false) : trim s = s := by
  have hkeep : ∀ {l : List Char}, (∀ c ∈ l, isBlank c = false) → l.dropWhile isBlank = l := by
    intro l hl
    cases l with
    | nil => rfl
    | cons c l => rw [List.dropWhile_cons_of_neg (by simp [hl c])]
  unfold trim trimBy
  rw [hkeep h, hkeep (by simpa using h), List.reverse_reverse, String.ofList_toList]

end Text

/-! ## Figures -/

namespace Decimal

open Text (isBlank isBlank_of_all)

/-- What can be seen of the first 128 characters is not blank. -/
theorem isBlank_visible {c : Char} (hlow : 0x21 ≤ c.toNat) (hhigh : c.toNat < 0x7F) :
    isBlank c = false := by
  simp only [isBlank, Bool.or_eq_false_iff, Bool.and_eq_false_iff, decide_eq_false_iff_not,
    beq_eq_false_iff_ne]
  omega

theorem isBlank_digit {c : Char} {d : Nat} (h : digitValue? c = some d) : isBlank c = false := by
  unfold digitValue? at h
  split at h
  · rename_i hdigit
    simp only [Char.isDigit, Bool.and_eq_true, decide_eq_true_eq, UInt32.le_iff_toNat_le] at hdigit
    have hlow : 48 ≤ c.toNat := hdigit.1
    have hhigh : c.toNat ≤ 57 := hdigit.2
    exact isBlank_visible (by omega) (by omega)
  · cases h

theorem isBlank_takeDigits (s : List Char) (h : ∀ c ∈ (takeDigits s).2, isBlank c = false) :
    ∀ c ∈ s, isBlank c = false := by
  induction s with
  | nil => exact nofun
  | cons c s ih =>
    rw [takeDigits] at h
    cases hdigit : digitValue? c with
    | none =>
      rw [hdigit] at h
      exact h
    | some d =>
      rw [hdigit] at h
      exact List.forall_mem_cons.mpr ⟨isBlank_digit hdigit, ih h⟩

theorem isBlank_takeSign (s : List Char) (h : ∀ c ∈ (takeSign s).2, isBlank c = false) :
    ∀ c ∈ s, isBlank c = false := by
  unfold takeSign at h
  split at h
  · exact List.forall_mem_cons.mpr ⟨rfl, h⟩
  · exact List.forall_mem_cons.mpr ⟨rfl, h⟩
  · exact h

theorem isBlank_readExponent? {s : List Char} {e : Int} (h : readExponent? s = some e) :
    ∀ c ∈ s, isBlank c = false := by
  cases s with
  | nil => exact nofun
  | cons c s =>
    rw [readExponent?] at h
    split at h
    · rename_i hmark
      have hc : isBlank c = false := by
        rcases (by simpa using hmark : c = 'e' ∨ c = 'E') with rfl | rfl <;> rfl
      refine List.forall_mem_cons.mpr ⟨hc, isBlank_takeSign s (isBlank_takeDigits _ ?_)⟩
      simp only at h
      split at h
      · cases h
      · rename_i hdigits
        rw [hdigits]
        exact nofun
      · cases h
    · cases h

theorem isBlank_readUnsigned? {negative : Bool} {s : List Char} {l : Literal}
    (h : readUnsigned? negative s = some l) : ∀ c ∈ s, isBlank c = false := by
  unfold readUnsigned? at h
  refine isBlank_takeDigits s ?_
  generalize takeDigits s = digits at h ⊢
  obtain ⟨whole, s⟩ := digits
  simp only at h ⊢
  -- what is left for the exponent has no white space, so neither has what is before it
  have hexponent : ∀ {c : Bool} {s : List Char} {f : Int → Literal},
      (if c then none else (readExponent? s).map f) = some l → ∀ c ∈ s, isBlank c = false := by
    intro c s f h
    split at h
    · cases h
    · obtain ⟨e, he, _⟩ := Option.map_eq_some_iff.mp h
      exact isBlank_readExponent? he
  split at h
  · exact List.forall_mem_cons.mpr ⟨rfl, isBlank_takeDigits _ (hexponent h)⟩
  · exact hexponent h

theorem isBlank_special? {negative : Bool} {s : List Char} {x : Float}
    (h : special? negative s = some x) : ∀ c ∈ s, isBlank c = false := by
  unfold special? at h
  -- a blank character is not made a letter of one of the names
  have hname : ∀ {t : String}, String.ofList (s.map Char.toLower) = t →
      (∀ c ∈ t.toList, isBlank c = false) → ∀ c ∈ s, isBlank c = false := by
    rintro t rfl ht c hc
    rw [String.toList_ofList] at ht
    have hlower := ht _ (List.mem_map_of_mem hc)
    by_contra hblank
    have hsame : c.toLower = c := by
      unfold Char.toLower
      split
      · rename_i hupper
        have hlow : 65 ≤ c.toNat := UInt32.le_iff_toNat_le.mp hupper.1
        have hhigh : c.toNat ≤ 90 := UInt32.le_iff_toNat_le.mp hupper.2
        exact absurd (isBlank_visible (by omega) (by omega)) hblank
      · rfl
    rw [hsame] at hlower
    exact hblank hlower
  split at h
  · exact hname ‹_› (isBlank_of_all rfl)
  · exact hname ‹_› (isBlank_of_all rfl)
  · exact hname ‹_› (isBlank_of_all rfl)
  · cases h

/-- **No number is written with white space in it.** -/
theorem isBlank_readFloat? {s : List Char} {x : Float} (h : readFloat? s = some x) :
    ∀ c ∈ s, isBlank c = false := by
  unfold readFloat? at h
  refine isBlank_takeSign s ?_
  simp only at h
  split at h
  · exact isBlank_readUnsigned? ‹_›
  · exact isBlank_special? h

end Decimal

/-! ## Bytes -/

namespace Csv

open Text (trim trimBy isBlank isAsciiBlank exists_trimBy trim_append)
open Text.Utf8 (encode decode decode_eq_ok_iff flatMap_eq_cons flatMap_eq_concat encodeChar_ofNat)

/-- The cell holds the text, with white space around it or without. -/
def Spells (cell : List UInt8) (t : String) : Prop := ∃ s, cell = encode s ∧ trim s = t

/-- The characters that single bytes stand for. -/
def asChars (bytes : List UInt8) : List Char := bytes.map fun b => Char.ofNat b.toNat

theorem isAsciiBlank_iff (b : UInt8) :
    isAsciiBlank b ↔ b = 0x20 ∨ b = 9 ∨ b = 10 ∨ b = 12 ∨ b = 13 := by
  simp [isAsciiBlank, or_assoc]

/-- A blank byte is a blank character. -/
theorem isBlank_of_isAsciiBlank {b : UInt8} (h : isAsciiBlank b) :
    b.toNat < 0x80 ∧ isBlank (Char.ofNat b.toNat) := by
  rcases (isAsciiBlank_iff b).mp h with rfl | rfl | rfl | rfl | rfl <;> decide

theorem isBlank_asChars {bytes : List UInt8} (h : ∀ b ∈ bytes, isAsciiBlank b) :
    ∀ c ∈ asChars bytes, isBlank c := by
  intro c hc
  obtain ⟨b, hb, rfl⟩ := List.mem_map.mp hc
  exact (isBlank_of_isAsciiBlank (h b hb)).2

theorem flatMap_asChars {bytes : List UInt8} (h : ∀ b ∈ bytes, isAsciiBlank b) :
    (asChars bytes).flatMap String.utf8EncodeChar = bytes := by
  induction bytes with
  | nil => rfl
  | cons b bytes ih =>
    obtain ⟨hb, hbytes⟩ := List.forall_mem_cons.mp h
    have hlow := (isBlank_of_isAsciiBlank hb).1
    rw [asChars, List.map_cons, List.flatMap_cons, ← asChars, ih hbytes,
      encodeChar_ofNat (.inl (by omega)), if_pos (by omega), UInt8.ofNat_toNat]
    rfl

/-- Blank bytes in front of a text are characters of it. -/
theorem flatMap_eq_append_left {pre rest : List UInt8} {cs : List Char}
    (hpre : ∀ b ∈ pre, isAsciiBlank b) (h : cs.flatMap String.utf8EncodeChar = pre ++ rest) :
    ∃ more, cs = asChars pre ++ more ∧ rest = more.flatMap String.utf8EncodeChar := by
  induction pre generalizing cs with
  | nil => exact ⟨cs, rfl, h.symm⟩
  | cons b pre ih =>
    obtain ⟨hb, hpre⟩ := List.forall_mem_cons.mp hpre
    obtain ⟨more, rfl, hmore⟩ := flatMap_eq_cons h (isBlank_of_isAsciiBlank hb).1
    obtain ⟨more, rfl, hrest⟩ := ih hpre hmore.symm
    exact ⟨more, rfl, hrest⟩

/-- Blank bytes at the end of a text are characters of it. -/
theorem flatMap_eq_append_right {post rest : List UInt8} {cs : List Char}
    (hpost : ∀ b ∈ post, isAsciiBlank b) (h : cs.flatMap String.utf8EncodeChar = rest ++ post) :
    ∃ init, cs = init ++ asChars post ∧ rest = init.flatMap String.utf8EncodeChar := by
  induction post using List.reverseRecOn generalizing cs with
  | nil => exact ⟨cs, (List.append_nil cs).symm, by rw [h, List.append_nil]⟩
  | append_singleton post b ih =>
    obtain ⟨hpost, hb⟩ := List.forall_mem_append.mp hpost
    rw [← List.append_assoc] at h
    obtain ⟨init, rfl, hinit⟩ :=
      flatMap_eq_concat h (isBlank_of_isAsciiBlank (hb b (List.mem_singleton_self b))).1
    obtain ⟨init, rfl, hrest⟩ := ih hpost hinit.symm
    exact ⟨init, by simp [asChars], hrest⟩

/-- **A cell trimmed as bytes and then as text holds what the cell spells.** -/
theorem spells_iff_decode {cell : List UInt8} {t : String} :
    Spells cell t ↔ ∃ s, decode (trimBy isAsciiBlank cell) = .ok s ∧ trim s = t := by
  obtain ⟨pre, post, hcell, hpre, hpost⟩ := exists_trimBy isAsciiBlank cell
  generalize trimBy isAsciiBlank cell = core at hcell
  subst hcell
  simp only [decode_eq_ok_iff]
  -- what is trimmed off the bytes is white space of the text
  have htrim : ∀ s : String,
      trim (String.ofList (asChars pre ++ (s.toList ++ asChars post))) = trim s :=
    trim_append (isBlank_asChars hpre) (isBlank_asChars hpost)
  constructor
  · rintro ⟨s, hs, rfl⟩
    obtain ⟨more, hmore, hrest⟩ := flatMap_eq_append_left hpre hs.symm
    obtain ⟨mid, rfl, hmid⟩ := flatMap_eq_append_right hpost hrest.symm
    refine ⟨String.ofList mid, ?_, ?_⟩
    · unfold encode
      rw [String.toList_ofList, hmid]
    · rw [← htrim, String.toList_ofList, ← hmore, String.ofList_toList]
  · rintro ⟨s, rfl, rfl⟩
    refine ⟨_, ?_, htrim s⟩
    unfold encode
    rw [String.toList_ofList, List.flatMap_append, List.flatMap_append, flatMap_asChars hpre,
      flatMap_asChars hpost]

/-! ## Records -/

theorem textsFrom_eq_ok_iff (field : Nat) (cells : List (List UInt8)) (ts : List String) :
    textsFrom field cells = .ok ts ↔ List.Forall₂ Spells cells ts := by
  induction cells generalizing field ts with
  | nil =>
    rw [List.forall₂_nil_left_iff, textsFrom]
    exact ⟨fun h => (Except.ok.inj h).symm, fun h => congrArg _ h.symm⟩
  | cons cell cells ih =>
    rw [List.forall₂_cons_left_iff, textsFrom]
    cases hdecode : decode (trimBy isAsciiBlank cell) with
    | error d =>
      refine ⟨nofun, ?_⟩
      rintro ⟨t, _, hspells, _⟩
      obtain ⟨s, hs, _⟩ := spells_iff_decode.mp hspells
      rw [hdecode] at hs
      cases hs
    | ok s =>
      have hspells : ∀ t, Spells cell t ↔ trim s = t := by
        intro t
        rw [spells_iff_decode, hdecode]
        simp
      simp only [hspells, ← ih (field + 1)]
      cases textsFrom (field + 1) cells with
      | error bad => simp [Except.map]
      | ok more => simp [Except.map, eq_comm]

theorem texts_eq_ok_iff {record : Record} {ts : List String} :
    record.texts = .ok ts ↔ List.Forall₂ Spells record.cells ts :=
  textsFrom_eq_ok_iff 0 record.cells ts

end Csv

namespace Report

open Csv (Spells)
open Text.Utf8 (decode?_eq_some_iff)

/-- The names in a header are the trimmed texts of its cells. -/
theorem headerNames?_eq_some_iff {header : Csv.Record} {names : List String} :
    headerNames? header = some names ↔ List.Forall₂ Spells header.cells names := by
  unfold headerNames?
  generalize header.cells = cells
  induction cells generalizing names with
  | nil =>
    rw [List.forall₂_nil_left_iff, List.mapM_nil]
    exact ⟨fun h => (Option.some.inj h).symm, fun h => congrArg _ h.symm⟩
  | cons cell cells ih =>
    rw [List.forall₂_cons_left_iff, List.mapM_cons]
    simp only [Option.bind_eq_bind, Option.bind_eq_some_iff, Option.map_eq_some_iff,
      decode?_eq_some_iff, ih, Spells]
    constructor
    · rintro ⟨name, ⟨s, hs, hname⟩, more, hmore, heq⟩
      exact ⟨name, more, ⟨s, hs, hname⟩, hmore, (Option.some.inj heq).symm⟩
    · rintro ⟨name, more, ⟨s, hs, hname⟩, hmore, rfl⟩
      exact ⟨name, ⟨s, hs, hname⟩, more, hmore, rfl⟩

end Report
end UsageFeed
