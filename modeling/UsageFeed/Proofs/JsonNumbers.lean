import UsageFeed.Json.Record
import UsageFeed.Proofs.FloatTexts
import UsageFeed.Proofs.JsonTokens

/-!
# `UsageFeed.Proofs.JsonNumbers` — the numbers of written JSON

A whole number is always read as it was written. A float is if it survives being written and read by
itself; where it stands then makes no difference.

## Contents
- **Digits.** `EndsNumber`, what does not go on with a number; reading digits with such bytes after
  them (`absorbDigits_append` and its like), and what is left of them (`Passed`).
- **Steadiness.** `Steady`, a reader that does not look past the end of what it reads;
  `steady_readNumber`.
- **Whole numbers.** Only digits are read as whole (`passed_of_readNumber`), and the digits of a
  number are (`readNumber_toDigits`).
- **Spelling.** `Spells`, bytes that are a number wherever they stand, and `spells_whole`.
- **Floats.** `Survives`, `Survives.spells`, and one float that does survive.
-/

namespace UsageFeed.Json

open Text.Utf8 (encodeChar_cases)

/-! ## Digits -/

/-- What does not go on with a number. -/
def EndsNumber : List UInt8 → Prop
  | [] => True
  | b :: _ => isDigitByte b = false ∧ b ≠ 0x2E ∧ isExponentMark b = false

theorem ne_of_isDigitByte {b c : UInt8} (hb : isDigitByte b) (hc : isDigitByte c = false) :
    b ≠ c := by
  rintro rfl
  rw [hb] at hc
  cases hc

theorem Ends.endsNumber {s : List UInt8} (h : Ends s) : EndsNumber s := by
  cases s with
  | nil => trivial
  | cons b s => rcases h with rfl | rfl | rfl <;> exact ⟨by decide, by decide, by decide⟩

section Digits

variable {rest : List UInt8}

theorem absorbDigits_append (h : EndsNumber rest) (n taken : Nat) (s : List UInt8) :
    absorbDigits n taken (s ++ rest) =
      ((absorbDigits n taken s).1, (absorbDigits n taken s).2.1,
        (absorbDigits n taken s).2.2 ++ rest) := by
  induction s generalizing n taken with
  | nil =>
    cases rest with
    | nil => rfl
    | cons b rest => simp [absorbDigits, h.1]
  | cons b s ih =>
    rw [List.cons_append, absorbDigits, absorbDigits]
    split
    · exact ih _ _
    · rfl

theorem countDigits_append (h : EndsNumber rest) (taken : Nat) (s : List UInt8) :
    countDigits taken (s ++ rest) =
      ((countDigits taken s).1, (countDigits taken s).2 ++ rest) := by
  induction s generalizing taken with
  | nil =>
    cases rest with
    | nil => rfl
    | cons b rest => simp [countDigits, h.1]
  | cons b s ih =>
    rw [List.cons_append, countDigits, countDigits]
    split
    · exact ih _
    · rfl

theorem skipDigits_append (h : EndsNumber rest) (s : List UInt8) :
    skipDigits (s ++ rest) = skipDigits s ++ rest := by
  unfold skipDigits
  induction s with
  | nil =>
    cases rest with
    | nil => rfl
    | cons b rest => simp [h.1]
  | cons b s ih =>
    rw [List.cons_append, List.dropWhile_cons, List.dropWhile_cons]
    split
    · exact ih
    · rfl

theorem exponentDigits_append (h : EndsNumber rest) (e : Nat) (s : List UInt8) :
    exponentDigits e (s ++ rest) =
      ((exponentDigits e s).1, (exponentDigits e s).2.1, (exponentDigits e s).2.2 ++ rest) := by
  induction s generalizing e with
  | nil =>
    cases rest with
    | nil => rfl
    | cons b rest => simp [exponentDigits, h.1]
  | cons b s ih =>
    rw [List.cons_append, exponentDigits, exponentDigits]
    split
    · split
      · rfl
      · exact ih _
    · rfl

/-- The bytes that are left are the last ones, and those before them are digits. -/
def Passed (s t : List UInt8) : Prop := ∃ ds, s = ds ++ t ∧ ∀ b ∈ ds, isDigitByte b

theorem Passed.refl (s : List UInt8) : Passed s s :=
  ⟨[], rfl, fun _ hb => absurd hb List.not_mem_nil⟩

theorem Passed.cons {b : UInt8} (hb : isDigitByte b) {s t : List UInt8} (h : Passed s t) :
    Passed (b :: s) t := by
  obtain ⟨ds, rfl, hds⟩ := h
  exact ⟨b :: ds, rfl, List.forall_mem_cons.mpr ⟨hb, hds⟩⟩

theorem Passed.trans {s t u : List UInt8} (h : Passed s t) (h' : Passed t u) : Passed s u := by
  obtain ⟨ds, rfl, hds⟩ := h
  obtain ⟨es, rfl, hes⟩ := h'
  exact ⟨ds ++ es, (List.append_assoc ..).symm, List.forall_mem_append.mpr ⟨hds, hes⟩⟩

theorem Passed.suffix {s t : List UInt8} (h : Passed s t) : t <:+ s := by
  obtain ⟨ds, rfl, -⟩ := h
  exact List.suffix_append ds t

theorem passed_absorbDigits (n taken : Nat) (s : List UInt8) :
    Passed s (absorbDigits n taken s).2.2 := by
  induction s generalizing n taken with
  | nil => exact Passed.refl _
  | cons b s ih =>
    rw [absorbDigits]
    split
    · next h => exact (ih _ _).cons (Bool.and_eq_true _ _ ▸ h).1
    · exact Passed.refl _

theorem passed_countDigits (taken : Nat) (s : List UInt8) : Passed s (countDigits taken s).2 := by
  induction s generalizing taken with
  | nil => exact Passed.refl _
  | cons b s ih =>
    rw [countDigits]
    split
    · next h => exact (ih _).cons h
    · exact Passed.refl _

theorem passed_exponentDigits (e : Nat) (s : List UInt8) :
    Passed s (exponentDigits e s).2.2 := by
  induction s generalizing e with
  | nil => exact Passed.refl _
  | cons b s ih =>
    rw [exponentDigits]
    split
    · next h =>
      split
      · exact (Passed.refl s).cons h
      · exact (ih _).cons h
    · exact Passed.refl _

end Digits

/-! ## Steadiness -/

/-- What was read and what is left are the same where something follows that does not go on with a
number. -/
def Steady (f : List UInt8 → Reading Number) : Prop :=
  ∀ ⦃s : List UInt8⦄ ⦃v : Number⦄ ⦃t : List UInt8⦄, f s = .ok (v, t) →
    t <:+ s ∧ ∀ rest, EndsNumber rest → f (s ++ rest) = .ok (v, t ++ rest)

theorem scaledNumber_eq_ok {negative : Bool} {n : Nat} {e : Int} {s t : List UInt8} {v : Number}
    (h : scaledNumber negative n e s = .ok (v, t)) :
    t = s ∧ (∃ x, v = .float x) ∧ ∀ s', scaledNumber negative n e s' = .ok (v, s') := by
  unfold scaledNumber at h ⊢
  cases hx : scaleByTen? n e with
  | none =>
    rw [hx] at h
    cases h
  | some x =>
    rw [hx] at h
    cases h
    exact ⟨rfl, ⟨_, rfl⟩, fun _ => rfl⟩

theorem steady_scaledNumber (negative : Bool) (n : Nat) (e : Int) :
    Steady (scaledNumber negative n e) := by
  intro s v t h
  obtain ⟨rfl, -, hsame⟩ := scaledNumber_eq_ok h
  exact ⟨List.suffix_rfl, fun _ _ => hsame _⟩

theorem exponentSign_append {s : List UInt8} (h : s ≠ []) (rest : List UInt8) :
    exponentSign (s ++ rest) = ((exponentSign s).1, (exponentSign s).2 ++ rest) := by
  cases s with
  | nil => exact absurd rfl h
  | cons b s =>
    rw [List.cons_append, exponentSign, exponentSign]
    split
    · rfl
    · split <;> rfl

theorem exponentSign_suffix (s : List UInt8) : (exponentSign s).2 <:+ s := by
  cases s with
  | nil => exact List.suffix_rfl
  | cons b s =>
    rw [exponentSign]
    split
    · exact List.suffix_cons b s
    · split
      · exact List.suffix_cons b s
      · exact List.suffix_rfl

theorem steady_readExponent (negative : Bool) (n : Nat) (e : Int) :
    Steady (readExponent negative n e) := by
  intro s v t h
  have hs : s ≠ [] := by
    rintro rfl
    cases h
  have hsuffix := exponentSign_suffix s
  unfold readExponent at h ⊢
  simp only [exponentSign_append hs]
  generalize exponentSign s = signed at h hsuffix
  obtain ⟨down, s'⟩ := signed
  cases s' with
  | nil => cases h
  | cons b s' =>
    simp only [List.cons_append] at h ⊢
    by_cases hb : isDigitByte b
    · simp only [hb, Bool.not_true, Bool.false_eq_true, if_false] at h ⊢
      have hpassed := (passed_exponentDigits (digitOf b) s').suffix
      have hafter : s' <:+ s := (List.suffix_cons b s').trans hsuffix
      have happend := fun rest hrest => @exponentDigits_append rest hrest (digitOf b) s'
      generalize exponentDigits (digitOf b) s' = digits at h hpassed happend
      obtain ⟨k, past, s''⟩ := digits
      -- an exponent that grows too large is settled before its digits end
      cases past with
      | true =>
        simp only at h happend
        split at h
        · cases h
        · next hpast =>
          cases h
          refine ⟨((List.dropWhile_suffix _).trans hpassed).trans hafter, fun rest hrest => ?_⟩
          rw [happend rest hrest]
          simp only
          rw [if_neg hpast, skipDigits_append hrest]
      | false =>
        simp only at h happend
        obtain ⟨rfl, -, hsame⟩ := scaledNumber_eq_ok h
        refine ⟨hpassed.trans hafter, fun rest hrest => ?_⟩
        rw [happend rest hrest]
        exact hsame _
    · simp [hb] at h

theorem steady_readAfterFraction (negative : Bool) (n : Nat) (e : Int) :
    Steady (readAfterFraction negative n e) := by
  intro s v t h
  cases s with
  | nil =>
    obtain ⟨rfl, -, hsame⟩ := scaledNumber_eq_ok h
    refine ⟨List.suffix_rfl, fun rest hrest => ?_⟩
    cases rest with
    | nil => exact h
    | cons b rest =>
      rw [List.nil_append, readAfterFraction, if_neg (by simp [hrest.2.2])]
      exact hsame _
  | cons b s =>
    rw [readAfterFraction] at h
    by_cases hb : isExponentMark b
    · rw [if_pos hb] at h
      obtain ⟨hsuffix, hsame⟩ := steady_readExponent negative n e h
      refine ⟨hsuffix.trans (List.suffix_cons b s), fun rest hrest => ?_⟩
      rw [List.cons_append, readAfterFraction, if_pos hb]
      exact hsame rest hrest
    · rw [if_neg hb] at h
      obtain ⟨hsuffix, hsame⟩ := steady_scaledNumber negative n e h
      refine ⟨hsuffix, fun rest hrest => ?_⟩
      rw [List.cons_append, readAfterFraction, if_neg hb]
      exact hsame rest hrest

theorem steady_readFraction (negative : Bool) (n : Nat) (e : Int) :
    Steady (readFraction negative n e) := by
  intro s v t h
  have hpassed := (passed_absorbDigits n 0 s).suffix
  have happend := fun rest hrest => @absorbDigits_append rest hrest n 0 s
  unfold readFraction at h ⊢
  generalize absorbDigits n 0 s = absorbed at h hpassed happend
  obtain ⟨m, taken, r⟩ := absorbed
  simp only at h hpassed happend
  by_cases hnone : (skipDigits r).length = s.length
  · rw [if_pos hnone] at h
    cases h
  · rw [if_neg hnone] at h
    obtain ⟨hsuffix, hsame⟩ := steady_readAfterFraction negative m (e - taken) h
    refine ⟨hsuffix.trans ((List.dropWhile_suffix _).trans hpassed), fun rest hrest => ?_⟩
    rw [happend rest hrest]
    simp only [skipDigits_append hrest, List.length_append, Nat.add_right_cancel_iff]
    rw [if_neg hnone]
    exact hsame rest hrest

/-- The number whose whole part is all there is of it. -/
def wholeOnly (negative : Bool) (n dropped : Nat) (s : List UInt8) : Reading Number :=
  if dropped ≠ 0 then scaledNumber negative n dropped s
  else if !negative then .ok (.whole n, s)
  else if n = 0 || Nat.pow 2 63 < n then .ok (.float (-(Decimal.ofNat n)), s)
  else .ok (.whole (-(n : Int)), s)

theorem readAfterWhole_eq (negative : Bool) (n dropped : Nat) (b : UInt8) (r : List UInt8) :
    readAfterWhole negative n dropped (b :: r) =
      if b = 0x2E then readFraction negative n dropped r
      else if isExponentMark b then readExponent negative n dropped r
      else wholeOnly negative n dropped (b :: r) := rfl

theorem readAfterWhole_of_ends {s : List UInt8} (h : EndsNumber s) (negative : Bool)
    (n dropped : Nat) : readAfterWhole negative n dropped s = wholeOnly negative n dropped s := by
  cases s with
  | nil => rfl
  | cons b r => rw [readAfterWhole_eq, if_neg h.2.1, if_neg (by simp [h.2.2])]

theorem wholeOnly_eq_ok {negative : Bool} {n dropped : Nat} {s t : List UInt8} {v : Number}
    (h : wholeOnly negative n dropped s = .ok (v, t)) :
    t = s ∧ ∀ s', wholeOnly negative n dropped s' = .ok (v, s') := by
  unfold wholeOnly at h ⊢
  by_cases hdropped : dropped ≠ 0
  · rw [if_pos hdropped] at h
    obtain ⟨ht, -, hsame⟩ := scaledNumber_eq_ok h
    simp only [if_pos hdropped]
    exact ⟨ht, hsame⟩
  · simp only [if_neg hdropped] at h ⊢
    by_cases hplain : !negative
    · simp only [if_pos hplain] at h ⊢
      cases h
      exact ⟨rfl, fun _ => rfl⟩
    · simp only [if_neg hplain] at h ⊢
      by_cases hfloat : n = 0 || Nat.pow 2 63 < n
      · simp only [if_pos hfloat] at h ⊢
        cases h
        exact ⟨rfl, fun _ => rfl⟩
      · simp only [if_neg hfloat] at h ⊢
        cases h
        exact ⟨rfl, fun _ => rfl⟩

theorem steady_readAfterWhole (negative : Bool) (n dropped : Nat) :
    Steady (readAfterWhole negative n dropped) := by
  intro s v t h
  cases s with
  | nil =>
    obtain ⟨rfl, hsame⟩ := wholeOnly_eq_ok h
    refine ⟨List.suffix_rfl, fun rest hrest => ?_⟩
    rw [List.nil_append, readAfterWhole_of_ends hrest]
    exact hsame _
  | cons b r =>
    simp only [List.cons_append, readAfterWhole_eq] at h ⊢
    split at h
    · next hb =>
      obtain ⟨hsuffix, hsame⟩ := steady_readFraction _ _ _ h
      simp only [if_pos hb]
      exact ⟨hsuffix.trans (List.suffix_cons b r), hsame⟩
    next hb =>
    split at h
    · next hmark =>
      obtain ⟨hsuffix, hsame⟩ := steady_readExponent _ _ _ h
      simp only [if_neg hb, if_pos hmark]
      exact ⟨hsuffix.trans (List.suffix_cons b r), hsame⟩
    · next hmark =>
      obtain ⟨rfl, hsame⟩ := wholeOnly_eq_ok h
      simp only [if_neg hb, if_neg hmark]
      exact ⟨List.suffix_rfl, fun _ _ => hsame _⟩

/-- Whether a byte list begins with a digit. -/
def opensWithDigit : List UInt8 → Bool
  | [] => false
  | b :: _ => isDigitByte b

theorem EndsNumber.opensWithDigit {s : List UInt8} (h : EndsNumber s) :
    opensWithDigit s = false := by
  cases s with
  | nil => rfl
  | cons b s => exact h.1

/-- After a leading zero there is no further digit. -/
theorem readNumber_zero (negative : Bool) (s : List UInt8) :
    readNumber negative (0x30 :: s) =
      if opensWithDigit s then .error (ahead .invalidNumber s)
      else readAfterWhole negative 0 0 s := by
  cases s <;> rfl

theorem readNumber_digits (negative : Bool) {b : UInt8} (hzero : b ≠ 0x30) (hb : isDigitByte b)
    (s : List UInt8) :
    readNumber negative (b :: s) =
      readAfterWhole negative (absorbDigits 0 0 (b :: s)).1
        (countDigits 0 (absorbDigits 0 0 (b :: s)).2.2).1
        (countDigits 0 (absorbDigits 0 0 (b :: s)).2.2).2 := by
  show (if b = 0x30 then _ else if isDigitByte b then _ else _) = _
  rw [if_neg hzero, if_pos hb]

theorem readNumber_other (negative : Bool) {b : UInt8} (hb : ¬isDigitByte b) (s : List UInt8) :
    readNumber negative (b :: s) = .error (here .invalidNumber s) := by
  have hzero : b ≠ 0x30 := by
    rintro rfl
    exact hb (by decide)
  show (if b = 0x30 then _ else if isDigitByte b then _ else _) = _
  rw [if_neg hzero, if_neg hb]

/-- **A number is read in the same way wherever it stands.** -/
theorem steady_readNumber (negative : Bool) : Steady (readNumber negative) := by
  intro s v t h
  cases s with
  | nil => cases h
  | cons b s =>
    by_cases hzero : b = 0x30
    · subst hzero
      rw [readNumber_zero] at h
      split at h
      · cases h
      next hopens =>
      obtain ⟨hsuffix, hsame⟩ := steady_readAfterWhole _ _ _ h
      refine ⟨hsuffix.trans (List.suffix_cons _ s), fun rest hrest => ?_⟩
      -- neither what was there nor what follows puts a digit after the zero
      have hnone : opensWithDigit (s ++ rest) = false := by
        cases s with
        | nil => exact hrest.opensWithDigit
        | cons d s => exact Bool.eq_false_iff.mpr hopens
      rw [List.cons_append, readNumber_zero, hnone, if_neg Bool.false_ne_true]
      exact hsame rest hrest
    · by_cases hb : isDigitByte b
      · rw [readNumber_digits negative hzero hb] at h
        obtain ⟨hsuffix, hsame⟩ := steady_readAfterWhole _ _ _ h
        have hpassed := (passed_absorbDigits 0 0 (b :: s)).trans (passed_countDigits 0 _)
        refine ⟨hsuffix.trans hpassed.suffix, fun rest hrest => ?_⟩
        rw [List.cons_append, readNumber_digits negative hzero hb, ← List.cons_append,
          absorbDigits_append hrest, countDigits_append hrest]
        exact hsame rest hrest
      · rw [readNumber_other negative hb] at h
        cases h

/-! ## Whole numbers -/

theorem readExponent_ne_whole {negative : Bool} {n : Nat} {e m : Int} {s t : List UInt8} :
    readExponent negative n e s ≠ .ok (.whole m, t) := by
  intro h
  unfold readExponent at h
  simp only at h
  repeat' split at h
  any_goals cases h
  all_goals
    obtain ⟨-, ⟨x, hx⟩, -⟩ := scaledNumber_eq_ok h
    cases hx

theorem readFraction_ne_whole {negative : Bool} {n : Nat} {e m : Int} {s t : List UInt8} :
    readFraction negative n e s ≠ .ok (.whole m, t) := by
  intro h
  have hscaled : ∀ {k : Nat} {e : Int} {s : List UInt8},
      scaledNumber negative k e s ≠ .ok (.whole m, t) := by
    intro k e s h
    obtain ⟨-, ⟨x, hx⟩, -⟩ := scaledNumber_eq_ok h
    cases hx
  unfold readFraction at h
  simp only at h
  split at h
  · cases h
  · unfold readAfterFraction at h
    split at h
    · exact hscaled h
    · split at h
      · exact readExponent_ne_whole h
      · exact hscaled h

/-- A number is whole only if nothing but digits was read. -/
theorem readAfterWhole_eq_whole {negative : Bool} {n dropped : Nat} {s t : List UInt8} {m : Int}
    (h : readAfterWhole negative n dropped s = .ok (.whole m, t)) : t = s := by
  cases s with
  | nil => exact (wholeOnly_eq_ok h).1
  | cons b r =>
    rw [readAfterWhole_eq] at h
    split at h
    · exact absurd h readFraction_ne_whole
    · split at h
      · exact absurd h readExponent_ne_whole
      · exact (wholeOnly_eq_ok h).1

theorem passed_of_readNumber {negative : Bool} {s t : List UInt8} {m : Int}
    (h : readNumber negative s = .ok (.whole m, t)) : Passed s t := by
  cases s with
  | nil => cases h
  | cons b s =>
    by_cases hzero : b = 0x30
    · subst hzero
      rw [readNumber_zero] at h
      split at h
      · cases h
      · rw [readAfterWhole_eq_whole h]
        exact (Passed.refl s).cons (by decide)
    · by_cases hb : isDigitByte b
      · rw [readNumber_digits negative hzero hb] at h
        rw [readAfterWhole_eq_whole h]
        exact (passed_absorbDigits 0 0 (b :: s)).trans (passed_countDigits 0 _)
      · rw [readNumber_other negative hb] at h
        cases h

/-- A digit is read as its value. -/
theorem exists_digit {d : Nat} (h : d < 10) :
    ∃ b, String.utf8EncodeChar (Nat.digitChar d) = [b] ∧ isDigitByte b ∧ digitOf b = d ∧
      (0 < d → b ≠ 0x30) := by
  have hall : ∀ d < 10, (String.utf8EncodeChar (Nat.digitChar d)).map
      (fun b => (isDigitByte b, digitOf b, decide (0 < d → b ≠ 0x30))) = [(true, d, true)] := by
    decide
  obtain ⟨b, hb, hvalue⟩ := List.map_eq_singleton_iff.mp (hall d h)
  simp only [Prod.mk.injEq, decide_eq_true_eq] at hvalue
  exact ⟨b, hb, hvalue⟩

/-- The digits of a number are taken in as the number. -/
theorem absorbDigits_toDigits {n : Nat} (h : n ≤ maxWord) (s : List UInt8) :
    ∃ taken, absorbDigits 0 0 (bytes (Nat.toDigits 10 n) ++ s) = absorbDigits n taken s := by
  induction n using Nat.strongRecOn generalizing s with
  | _ n ih =>
    by_cases hsmall : n < 10
    · obtain ⟨b, hb, hdigit, hvalue, -⟩ := exists_digit hsmall
      refine ⟨1, ?_⟩
      rw [Nat.toDigits_of_lt_base hsmall, bytes_cons, hb, bytes_nil, List.append_nil,
        List.singleton_append, absorbDigits, hdigit, hvalue, Nat.mul_zero, Nat.zero_add]
      simp [h]
    · -- all but the last digit, then this one
      obtain ⟨b, hb, hdigit, hvalue, -⟩ := exists_digit (Nat.mod_lt n (by omega : 10 > 0))
      have hsplit : 10 * (n / 10) + n % 10 = n := Nat.div_add_mod n 10
      rw [Nat.toDigits_of_base_le (by omega) (by omega), bytes_append, bytes_cons, hb, bytes_nil,
        List.append_nil, List.append_assoc]
      obtain ⟨taken, htaken⟩ := ih (n / 10) (by omega) (by omega) ([b] ++ s)
      refine ⟨taken + 1, ?_⟩
      rw [htaken, List.singleton_append, absorbDigits, hdigit, hvalue, hsplit]
      simp [h]

/-- The first digit of a number is not zero, unless the number is. -/
theorem exists_firstDigit (n : Nat) :
    ∃ d more, Nat.toDigits 10 n = Nat.digitChar d :: more ∧ d < 10 ∧ (0 < n → 0 < d) := by
  induction n using Nat.strongRecOn with
  | _ n ih =>
    by_cases hsmall : n < 10
    · exact ⟨n, [], Nat.toDigits_of_lt_base hsmall, hsmall, id⟩
    · obtain ⟨d, more, hd, hlt, hpos⟩ := ih (n / 10) (by omega)
      refine ⟨d, more ++ [Nat.digitChar (n % 10)], ?_, hlt, fun _ => hpos (by omega)⟩
      rw [Nat.toDigits_of_base_le (by omega) (by omega), hd]
      rfl

/-- **The digits of a number are read as a whole part.** -/
theorem readNumber_toDigits (negative : Bool) {n : Nat} (h : n ≤ maxWord) {s : List UInt8}
    (hs : EndsNumber s) :
    readNumber negative (bytes (Nat.toDigits 10 n) ++ s) = wholeOnly negative n 0 s := by
  obtain ⟨d, more, hd, hlt, hpos⟩ := exists_firstDigit n
  obtain ⟨b, hb, hdigit, hvalue, hzero⟩ := exists_digit hlt
  rcases Nat.eq_zero_or_pos n with rfl | hn
  · rw [Nat.toDigits_zero]
    show readNumber negative (0x30 :: s) = _
    rw [readNumber_zero, hs.opensWithDigit, if_neg Bool.false_ne_true, readAfterWhole_of_ends hs]
  · obtain ⟨taken, htaken⟩ := absorbDigits_toDigits h s
    -- nothing that follows is a digit
    have hstop : absorbDigits n taken s = (n, taken, s) := by
      cases s with
      | nil => rfl
      | cons c s => simp [absorbDigits, hs.1]
    have hcount : countDigits 0 s = (0, s) := by
      cases s with
      | nil => rfl
      | cons c s => simp [countDigits, hs.1]
    rw [hstop, hd, bytes_cons, hb, List.singleton_append, List.cons_append] at htaken
    rw [hd, bytes_cons, hb, List.singleton_append, List.cons_append,
      readNumber_digits negative (hzero (hpos hn)) hdigit, htaken]
    simp only [hcount]
    exact readAfterWhole_of_ends hs _ _ _

/-! ## Spelling -/

/-- The bytes spell a number: wherever they stand, they are read as it. -/
inductive Spells : List UInt8 → Number → Prop
  | negative {s : List UInt8} {v : Number}
      (h : ∀ rest, EndsNumber rest → readNumber true (s ++ rest) = .ok (v, rest)) :
      Spells (0x2D :: s) v
  | positive {b : UInt8} {s : List UInt8} {v : Number} (hb : isDigitByte b)
      (h : ∀ rest, EndsNumber rest → readNumber false (b :: s ++ rest) = .ok (v, rest)) :
      Spells (b :: s) v

/-- A number that is read by itself, with nothing left, is read wherever it stands. -/
theorem readNumber_of_alone {negative : Bool} {s : List UInt8} {v : Number}
    (h : readNumber negative s = .ok (v, [])) :
    ∀ rest, EndsNumber rest → readNumber negative (s ++ rest) = .ok (v, rest) :=
  (steady_readNumber negative h).2

/-- **A whole number of 64 bits is read as it was written**, with a sign or without one. -/
theorem spells_whole {n : Int} (hlow : -Nat.pow 2 63 ≤ n) (hhigh : n < Nat.pow 2 64) :
    Spells (bytes (intChars n)) (.whole n) := by
  have hpow : Nat.pow 2 63 = 9223372036854775808 ∧ Nat.pow 2 64 = 18446744073709551616 := ⟨rfl, rfl⟩
  have hword : n.natAbs ≤ maxWord := by
    unfold maxWord
    omega
  have hread := fun negative => readNumber_toDigits negative hword (s := []) trivial
  simp only [List.append_nil] at hread
  unfold intChars
  rw [Nat.repr_eq_ofList_toDigits, String.toList_ofList]
  by_cases hneg : n < 0
  · rw [if_pos hneg]
    refine Spells.negative (readNumber_of_alone ?_)
    -- it is neither the zero nor too large for a sign, which would make a float of it
    have hfits : ¬(n.natAbs = 0 || Nat.pow 2 63 < n.natAbs) = true := by
      simp
      omega
    have hvalue : -(n.natAbs : Int) = n := by omega
    refine (hread true).trans ?_
    unfold wholeOnly
    rw [if_neg (by simp), if_neg (by simp), if_neg hfits, hvalue]
  · rw [if_neg hneg]
    obtain ⟨d, more, hd, hlt, -⟩ := exists_firstDigit n.natAbs
    obtain ⟨b, hb, hdigit, -, -⟩ := exists_digit hlt
    have hvalue : (n.natAbs : Int) = n := by omega
    rw [hd, bytes_cons, hb, List.singleton_append] at hread ⊢
    refine Spells.positive hdigit (readNumber_of_alone ?_)
    refine (hread false).trans ?_
    unfold wholeOnly
    rw [if_neg (by simp), if_pos (by simp), hvalue]

/-! ## Numbers of one kind -/

section Number

variable {α : Type} {expected : String} {convert : Number → Except Cause α} {depth : Nat}

theorem isSpace_of_isDigitByte {b : UInt8} (h : isDigitByte b) : isSpace b = false := by
  simp only [isDigitByte, isSpace, Bool.and_eq_true, decide_eq_true_eq, UInt8.le_iff_toNat_le,
    Bool.or_eq_false_iff, beq_eq_false_iff_ne, ne_eq, ← UInt8.toNat_inj, UInt8.toNat_ofNat] at *
  omega

/-- What is made of a number that was read. -/
def converted (convert : Number → Except Cause α) : Reading Number → Reading α
  | .error f => .error f
  | .ok (v, s) =>
    match convert v with
    | .ok a => .ok (a, s)
    | .error c => .error (here c s)

theorem converted_eq_ok {r : Reading Number} {a : α} {t : List UInt8} :
    converted convert r = .ok (a, t) ↔ ∃ v, r = .ok (v, t) ∧ convert v = .ok a := by
  unfold converted
  cases r with
  | error f => simp
  | ok read =>
    obtain ⟨v, s⟩ := read
    cases hconvert : convert v with
    | error c => simp [hconvert]
    | ok b =>
      simp only [hconvert, Except.ok.injEq, Prod.mk.injEq]
      constructor
      · rintro ⟨rfl, rfl⟩
        exact ⟨v, ⟨rfl, rfl⟩, hconvert⟩
      · rintro ⟨w, ⟨rfl, rfl⟩, hw⟩
        exact ⟨Except.ok.inj (hconvert.symm.trans hw), rfl⟩

theorem number_minus (s : List UInt8) :
    Decoder.number expected convert depth (0x2D :: s) = converted convert (readNumber true s) :=
  rfl

theorem number_digit {b : UInt8} (hb : isDigitByte b) (s : List UInt8) :
    Decoder.number expected convert depth (b :: s) =
      converted convert (readNumber false (b :: s)) := by
  have hminus : b ≠ 0x2D := by
    rintro rfl
    exact absurd hb (by decide)
  unfold Decoder.number atFront
  rw [skipSpace_cons (isSpace_of_isDigitByte hb)]
  simp only
  rw [if_neg hminus, if_pos hb]
  rfl

/-- A number that is spelled is read as any kind of number that it is. -/
theorem Spells.number {s : List UInt8} {v : Number} (h : Spells s v) {a : α}
    (hv : convert v = .ok a) {rest : List UInt8} (hrest : EndsNumber rest) :
    Decoder.number expected convert depth (s ++ rest) = .ok (a, rest) := by
  cases h with
  | negative h => exact converted_eq_ok.mpr ⟨v, h rest hrest, hv⟩
  | positive hb h =>
    rw [List.cons_append, number_digit hb]
    exact converted_eq_ok.mpr ⟨v, h rest hrest, hv⟩

end Number

/-! ## Floats -/

/-- A float comes back from its text. -/
structure Survives (x : Float) : Prop where
  finite : Decimal.isFinite x
  back : Decoder.run Decoder.float (Text.Utf8.encode (Json.float x).write) = .ok x

theorem encodeChar_isDigit {c : Char} (h : c.isDigit) :
    ∃ b, String.utf8EncodeChar c = [b] ∧ isDigitByte b := by
  have hrange : 48 ≤ c.toNat ∧ c.toNat ≤ 57 := by
    simpa [Char.isDigit, UInt32.le_iff_toNat_le] using h
  rcases encodeChar_cases c with ⟨-, hone⟩ | ⟨hhigh, -⟩
  · refine ⟨_, hone, ?_⟩
    simp only [isDigitByte, Bool.and_eq_true, decide_eq_true_eq, UInt8.le_iff_toNat_le,
      UInt8.toNat_ofNat', UInt8.toNat_ofNat]
    omega
  · omega

/-- There is no space in the text of a float. -/
theorem isSpace_of_isNumeral {cs : List Char} (h : ∀ c ∈ cs, Decimal.isNumeral c) :
    ∀ b ∈ bytes cs, isSpace b = false := by
  intro b hb
  obtain ⟨c, hc, hbyte⟩ := List.mem_flatMap.mp hb
  have hnumeral := h c hc
  by_cases hdigit : c.isDigit
  · obtain ⟨d, hd, hisDigit⟩ := encodeChar_isDigit hdigit
    rw [hd, List.mem_singleton] at hbyte
    rw [hbyte]
    exact isSpace_of_isDigitByte hisDigit
  · simp only [Decimal.isNumeral, hdigit, Bool.false_or, Bool.or_eq_true, beq_iff_eq] at hnumeral
    rcases hnumeral with ((rfl | rfl) | rfl) | rfl <;> rw [List.mem_singleton.mp hbyte] <;> rfl

/-- Of the text of a float not all bytes after the first are digits. -/
theorem not_isDigitByte_of_mark {cs : List Char} (h : '.' ∈ cs ∨ 'e' ∈ cs) :
    ∃ b ∈ bytes cs, isDigitByte b = false ∧ b ≠ 0x2D := by
  rcases h with h | h
  · exact ⟨0x2E, List.mem_flatMap.mpr ⟨'.', h, by decide⟩, by decide, by decide⟩
  · exact ⟨0x65, List.mem_flatMap.mpr ⟨'e', h, by decide⟩, by decide, by decide⟩

/-- A text without space that is read up to some space is read as a whole, and as a float if it does
not consist of digits. -/
theorem readNumber_alone {negative : Bool} {s t : List UInt8} {v : Number}
    (h : readNumber negative s = .ok (v, t)) (hend : skipSpace t = [])
    (hspace : ∀ b ∈ s, isSpace b = false) (hmark : ∃ b ∈ s, isDigitByte b = false) :
    t = [] ∧ ∃ x, v = .float x := by
  -- what is left is a part of the text, which has no space
  have ht : t = [] := by
    cases t with
    | nil => rfl
    | cons b t =>
      have hb := hspace b ((steady_readNumber negative h).1.subset List.mem_cons_self)
      rw [skipSpace_cons hb] at hend
      cases hend
  refine ⟨ht, ?_⟩
  subst ht
  cases v with
  | whole n =>
    obtain ⟨ds, hs, hds⟩ := passed_of_readNumber h
    obtain ⟨b, hb, hdigit⟩ := hmark
    rw [hs, List.append_nil] at hb
    rw [hds b hb] at hdigit
    cases hdigit
  | float x => exact ⟨x, rfl⟩

/-- **A float that survives by itself survives wherever it stands.** -/
theorem Survives.spells {x : Float} (h : Survives x) :
    Spells (bytes (Number.chars (.float x))) (.float x) := by
  have hnumeral := Decimal.isNumeral_finite x
  have hchars : (Number.chars (.float x)) = Decimal.Layout.exchange.finite x := if_pos h.finite
  have hback := h.back
  rw [encode_write] at hback
  change Decoder.run Decoder.float (bytes (Number.chars (.float x))) = .ok x at hback
  rw [hchars] at hback ⊢
  generalize Decimal.Layout.exchange.finite x = cs at hnumeral hback
  -- the float was read, and nothing but space is left
  obtain ⟨t, hread, hend⟩ : ∃ t, Decoder.float nestingLimit (bytes cs) = .ok (x, t) ∧
      skipSpace t = [] := by
    unfold Decoder.run at hback
    split at hback
    · cases hback
    · next t hread =>
      split at hback
      · next hend =>
        cases hback
        exact ⟨t, hread, hend⟩
      · cases hback
  have hspace := isSpace_of_isNumeral hnumeral.all
  obtain ⟨m, hm, hdigit, hminus⟩ := not_isDigitByte_of_mark hnumeral.mark
  obtain ⟨c, more, rfl, hfirst⟩ := hnumeral.first
  rcases hfirst with rfl | hfirst
  · -- the number itself begins after the minus
    change Decoder.float nestingLimit (0x2D :: bytes more) = .ok (x, t) at hread
    obtain ⟨v, hnumber, hv⟩ := converted_eq_ok.mp ((number_minus _).symm.trans hread)
    have hmore : ∀ b ∈ bytes more, isSpace b = false := fun b hb =>
      hspace b (List.mem_cons_of_mem _ hb)
    have hmark : ∃ b ∈ bytes more, isDigitByte b = false := by
      rcases List.mem_cons.mp hm with he | hm
      · exact absurd he hminus
      · exact ⟨m, hm, hdigit⟩
    obtain ⟨rfl, y, rfl⟩ := readNumber_alone hnumber hend hmore hmark
    cases hv
    exact Spells.negative (readNumber_of_alone hnumber)
  · obtain ⟨b, hb, hisDigit⟩ := encodeChar_isDigit hfirst
    rw [bytes_cons, hb, List.singleton_append] at hread hspace hm ⊢
    obtain ⟨v, hnumber, hv⟩ := converted_eq_ok.mp ((number_digit hisDigit _).symm.trans hread)
    obtain ⟨rfl, y, rfl⟩ := readNumber_alone hnumber hend hspace ⟨m, hm, hdigit⟩
    cases hv
    exact Spells.positive hisDigit (readNumber_of_alone hnumber)

theorem survives_half : Survives 0.5 where
  finite := by decide +kernel
  back := by
    have hbytes : Text.Utf8.encode (Json.float 0.5).write = [0x30, 0x2E, 0x35] := by decide +kernel
    have hquotient : Decimal.ofNat 5 / Decimal.ofNat (Nat.pow 10 1) = 0.5 := by decide +kernel
    have hscaled : scaleByTen? 5 (-1) = some 0.5 := by
      unfold scaleByTen?
      simp only
      rw [if_pos (by decide), divideByTen, if_pos (by decide)]
      exact congrArg some hquotient
    have hnumber : readNumber false [0x30, 0x2E, 0x35] = .ok (.float 0.5, []) := by
      show scaledNumber false 5 (-1) [] = _
      unfold scaledNumber
      rw [hscaled]
      rfl
    unfold Decoder.run Decoder.float
    rw [hbytes, number_digit (by decide), hnumber]
    rfl

end UsageFeed.Json
