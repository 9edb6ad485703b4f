import Mathlib
import UsageFeed.Decimal.Literal

/-!
# `UsageFeed.Proofs.NearestFloats` — numbers and the floats next to them

A reader of numbers finds the last bit of a mantissa by the sizes of two whole numbers, rounds and
puts bits together. Here the float that comes out is shown to be the one next to the number.

## Contents
- **Bits and parts.** `ofFields` and `ofParts`, the ways back from bits and from parts;
  `Parts.IsProper`, the parts that floats have.
- **Rounding.** `IsRounded`, what `roundAt` finds, and `lastBit_spec`.
- **Reach.** `Parts.Reaches`, the numbers that read as one float: of no other
  (`eq_of_reaches`), and none is nearer (`abs_le_of_reaches`).
- **Reading.** `Reads`, the float that a number reads as, and `IsNearest`, what that means;
  `reads_nearest` and `reads_nearestScaled`.
-/

namespace UsageFeed.Decimal

/-! ## Bits -/

/-- The float whose bits are a sign, an exponent and a fraction. -/
def ofFields (negative : Bool) (e f : Nat) : Float :=
  Float.ofBits (UInt64.ofNat ((if negative then Nat.pow 2 63 else 0) + (e * Nat.pow 2 52 + f)))

/-- Bits that are no not-a-number stay as they are. -/
theorem toBits_ofBits {b : UInt64}
    (h : b.toNat / Nat.pow 2 52 % Nat.pow 2 11 = 2047 → b.toNat % Nat.pow 2 52 = 0) :
    (Float.ofBits b).toBits = b := by
  have hvalid : Float.Model.Format.binary64.Valid b.toBitVec := by
    refine ⟨fun hexponent hfraction => absurd ?_ hfraction⟩
    have he := congrArg BitVec.toNat hexponent
    have hf := h (by
      simpa [Float.Model.UnpackedFloat.unpackExponent, Float.Model.Format.binary64,
        Nat.shiftRight_eq_div_pow] using he)
    refine BitVec.eq_of_toNat_eq ?_
    simpa [Float.Model.UnpackedFloat.unpackMantissa, Float.Model.Format.binary64] using hf
  exact congrArg Float.toBits (Float.ofBits_toBits ⟨⟨b, hvalid⟩⟩)

section Fields

variable {e f : Nat} (negative : Bool) (he : e < 2048) (hf : f < Nat.pow 2 52)
  (hnumber : e = 2047 → f = 0)
include he hf hnumber

theorem toNat_toBits_ofFields : (ofFields negative e f).toBits.toNat =
    (if negative then Nat.pow 2 63 else 0) + (e * Nat.pow 2 52 + f) := by
  have hlt : (if negative then Nat.pow 2 63 else 0) + (e * Nat.pow 2 52 + f) < 2 ^ 64 := by
    simp only [Nat.pow_eq] at hf ⊢
    split <;> omega
  have hnat := UInt64.toNat_ofNat_of_lt' hlt
  rw [ofFields, toBits_ofBits, hnat]
  rw [hnat]
  simp only [Nat.pow_eq] at hf ⊢
  split <;> omega

theorem exponentBits_ofFields : exponentBits (ofFields negative e f) = e := by
  rw [exponentBits, toNat_toBits_ofFields negative he hf hnumber]
  simp only [Nat.pow_eq] at hf ⊢
  split <;> omega

theorem fractionBits_ofFields : fractionBits (ofFields negative e f) = f := by
  rw [fractionBits, toNat_toBits_ofFields negative he hf hnumber]
  simp only [Nat.pow_eq] at hf ⊢
  split <;> omega

theorem isNegative_ofFields : isNegative (ofFields negative e f) = negative := by
  rw [isNegative, toNat_toBits_ofFields negative he hf hnumber]
  simp only [Nat.pow_eq] at hf ⊢
  cases negative
  · simp only [Bool.false_eq_true, if_false, beq_eq_false_iff_ne]
    omega
  · simp only [if_true, beq_iff_eq]
    omega

end Fields

theorem exponentBits_lt (x : Float) : exponentBits x < 2048 := Nat.mod_lt _ (by decide)

theorem fractionBits_lt (x : Float) : fractionBits x < Nat.pow 2 52 := Nat.mod_lt _ (by decide)

/-- A float is made of its bits. -/
theorem ofFields_bits (x : Float) :
    ofFields (isNegative x) (exponentBits x) (fractionBits x) = x := by
  have hlt : x.toBits.toNat < 2 ^ 64 := x.toBits.toNat_lt
  have hbits : (if isNegative x then Nat.pow 2 63 else 0) +
      (exponentBits x * Nat.pow 2 52 + fractionBits x) = x.toBits.toNat := by
    simp only [isNegative, exponentBits, fractionBits, Nat.pow_eq, beq_iff_eq]
    split <;> omega
  rw [ofFields, hbits, UInt64.ofNat_toNat, Float.ofBits_toBits]

theorem isNaN_iff_packed {x : Float} : x.isNaN = true ↔
    x.toBits.toBitVec = Float.Model.UnpackedFloat.packedNaN Float.Model.Format.binary64 :=
  Float.Model.UnpackedFloat.isNaN_unpack_iff_of_valid x.toModel.valid

/-- There is one not-a-number. -/
theorem isNaN_iff {x : Float} : x.isNaN = true ↔ x = notANumber := by
  have hnan : notANumber.isNaN = true := by decide +kernel
  refine ⟨fun h => ?_, fun h => h ▸ hnan⟩
  have hbits := (isNaN_iff_packed.mp h).trans (isNaN_iff_packed.mp hnan).symm
  exact Float.toBits_inj.mp (UInt64.toBitVec_inj.mp hbits)

theorem isNaN_iff_bits {x : Float} :
    x.isNaN = true ↔ exponentBits x = 2047 ∧ fractionBits x ≠ 0 := by
  constructor
  · intro h
    rw [isNaN_iff.mp h]
    decide +kernel
  · rintro ⟨hexponent, hfraction⟩
    refine isNaN_iff_packed.mpr (x.toModel.valid.eq_packedNaN ?_ fun h => hfraction ?_)
    · refine BitVec.eq_of_toNat_eq ?_
      simpa [Float.Model.UnpackedFloat.unpackExponent, Float.Model.Format.binary64,
        Nat.shiftRight_eq_div_pow, exponentBits, Float.toBits] using hexponent
    · have hnat := congrArg BitVec.toNat h
      simpa [Float.Model.UnpackedFloat.unpackMantissa, Float.Model.Format.binary64, fractionBits,
        Float.toBits] using hnat

/-! ## Parts -/

/-- The size that parts write. -/
def Parts.size (p : Parts) : ℚ := p.mantissa * 2 ^ p.exponent

/-- Parts that a float has: with as small an exponent as there is, and with the bit in front of the
fraction set if it is larger. -/
structure Parts.IsProper (p : Parts) : Prop where
  mantissa_lt : p.mantissa < 2 ^ 53
  least : -1074 ≤ p.exponent
  most : p.exponent ≤ 971
  full : -1074 < p.exponent → 2 ^ 52 ≤ p.mantissa
  edge : p.onEdge = true ↔ p.mantissa = 2 ^ 52 ∧ -1074 < p.exponent

theorem parts_isProper {x : Float} (h : isFinite x) : (parts x).IsProper := by
  have he := exponentBits_lt x
  have hf := fractionBits_lt x
  have h : exponentBits x ≠ 2047 := bne_iff_ne.mp h
  simp only [Nat.pow_eq] at hf
  unfold parts
  simp only [Nat.pow_eq]
  split
  · exact ⟨by simp only; omega, by simp, by simp, by simp, by simp⟩
  · exact ⟨by simp only; omega, by simp only; omega, by simp only; omega, by simp, by simp; omega⟩

/-- The float of a sign and of parts. -/
def ofParts (negative : Bool) (p : Parts) : Float :=
  if p.mantissa < 2 ^ 52 then ofFields negative 0 p.mantissa
  else ofFields negative (p.exponent + 1075).toNat (p.mantissa - 2 ^ 52)

theorem ofParts_parts (x : Float) : ofParts (isNegative x) (parts x) = x := by
  have hf := fractionBits_lt x
  have hx := ofFields_bits x
  simp only [Nat.pow_eq] at hf
  by_cases he : exponentBits x = 0
  · rw [he] at hx
    simp only [ofParts, parts, if_pos he, hf, if_true, hx]
  · have hexponent : ((exponentBits x : Int) - 1075 + 1075).toNat = exponentBits x := by omega
    have hnot : ¬Nat.pow 2 52 + fractionBits x < 2 ^ 52 := Nat.not_lt.mpr (Nat.le_add_right _ _)
    simp only [ofParts, parts, if_neg he, if_neg hnot, hexponent]
    rw [← Nat.pow_eq, Nat.add_sub_cancel_left, hx]

/-- The float of proper parts has them. -/
theorem Parts.IsProper.parts_ofParts {p : Parts} (h : p.IsProper) (negative : Bool) :
    isFinite (ofParts negative p) ∧ isNegative (ofParts negative p) = negative ∧
      parts (ofParts negative p) = p := by
  obtain ⟨m, q, edge⟩ := p
  obtain ⟨hm, hleast, hmost, hfull, hedge⟩ := h
  simp only at hm hleast hmost hfull hedge
  unfold ofParts
  simp only
  split
  case isTrue hlt =>
    -- without the bit in front the exponent is the least, and its field is zero
    obtain rfl : q = -1074 := by omega
    have hedge : edge = false := Bool.eq_false_iff.mpr fun h => absurd (hedge.mp h).2 (by decide)
    have hf : m < Nat.pow 2 52 := hlt
    have he := exponentBits_ofFields (e := 0) negative (by decide) hf (by simp)
    refine ⟨by rw [isFinite, he]; rfl, isNegative_ofFields negative (by decide) hf (by simp), ?_⟩
    rw [parts, he, fractionBits_ofFields negative (by decide) hf (by simp), hedge]
    rfl
  case isFalse hge =>
    have he2048 : (q + 1075).toNat < 2048 := by omega
    have he2047 : (q + 1075).toNat ≠ 2047 := by omega
    have hf : m - 2 ^ 52 < Nat.pow 2 52 := by
      rw [Nat.pow_eq]
      omega
    have he := exponentBits_ofFields negative he2048 hf (absurd · he2047)
    refine ⟨?_, isNegative_ofFields negative he2048 hf (absurd · he2047), ?_⟩
    · rw [isFinite, he]
      exact bne_iff_ne.mpr he2047
    · rw [parts, he, fractionBits_ofFields negative he2048 hf (absurd · he2047),
        if_neg (by omega)]
      have hedge' : ((m - 2 ^ 52 == 0) && decide (1 < (q + 1075).toNat)) = edge := by
        rw [Bool.eq_iff_iff, hedge, Bool.and_eq_true, beq_iff_eq, decide_eq_true_eq]
        omega
      rw [hedge', Nat.pow_eq, Nat.add_sub_cancel' (Nat.not_lt.mp hge)]
      simp only [Parts.mk.injEq, and_true, true_and]
      omega

/-! ## Assembling -/

theorem assemble_carry (negative : Bool) (q : Int) :
    assemble negative (2 ^ 53) q = assemble negative (2 ^ 52) (q + 1) := by
  rfl

theorem assemble_proper {p : Parts} (h : p.IsProper) (negative : Bool) :
    assemble negative p.mantissa p.exponent = ofParts negative p := by
  have hm : p.mantissa ≠ Nat.pow 2 53 := Nat.ne_of_lt h.mantissa_lt
  simp only [assemble, if_neg hm, if_neg (Int.not_lt.mpr h.most), ofParts, ofFields]
  by_cases hlt : p.mantissa < 2 ^ 52
  · rw [if_pos hlt, if_pos (show p.mantissa < Nat.pow 2 52 from hlt), Nat.zero_mul, Nat.zero_add]
  · rw [if_neg hlt, if_neg (show ¬p.mantissa < Nat.pow 2 52 from hlt)]
    rfl

/-- What is too large comes out infinite. -/
theorem assemble_large {q : Int} (h : 971 < q) {m : Nat} (hlow : 2 ^ 52 ≤ m) (hhigh : m < 2 ^ 53)
    (negative : Bool) : assemble negative m q = ofFields negative 2047 0 := by
  have hm : m ≠ Nat.pow 2 53 := Nat.ne_of_lt hhigh
  simp only [assemble, if_neg hm, if_pos h, if_neg (Nat.not_lt.mpr hlow : ¬m < Nat.pow 2 52)]
  rfl

/-- There is one infinity of either sign. -/
theorem eq_infinity {x : Float} (hexponent : exponentBits x = 2047)
    (hfraction : fractionBits x = 0) : x = infinity (isNegative x) := by
  have hbits := ofFields_bits x
  rw [hexponent, hfraction] at hbits
  rw [infinity, assemble_large (by decide) (by decide) (by decide), hbits]

/-! ## Rounding -/

/-- A whole number next to `t`, a tie going to the even one. -/
structure IsRounded (t : ℚ) (m : ℕ) : Prop where
  low : m - 1 / 2 ≤ t
  high : t ≤ m + 1 / 2
  even : t = m - 1 / 2 ∨ t = m + 1 / 2 → m % 2 = 0

theorem isRounded_roundHalfEven (num : ℕ) {den : ℕ} (hden : 0 < den) :
    IsRounded (num / den) (roundHalfEven num den) := by
  have hdenQ : (0 : ℚ) < den := Nat.cast_pos.mpr hden
  have hr : (num % den : ℕ) < den := Nat.mod_lt _ hden
  have ht : (num : ℚ) / den = (num / den : ℕ) + (num % den : ℕ) / (den : ℚ) := by
    rw [add_div' _ _ _ hdenQ.ne', ← Nat.cast_mul, ← Nat.cast_add, Nat.div_add_mod']
  have hlow : (0 : ℚ) ≤ (num % den : ℕ) / (den : ℚ) := by positivity
  have hhigh : (num % den : ℕ) / (den : ℚ) < 1 := by
    rw [div_lt_one hdenQ]
    exact_mod_cast hr
  have hhalf : 2 * (num % den) < den ↔ (num % den : ℕ) / (den : ℚ) < 1 / 2 := by
    rw [div_lt_div_iff₀ hdenQ two_pos]
    norm_cast
    omega
  have hhalf' : den < 2 * (num % den) ↔ 1 / 2 < (num % den : ℕ) / (den : ℚ) := by
    rw [div_lt_div_iff₀ two_pos hdenQ]
    norm_cast
    omega
  rw [ht]
  unfold roundHalfEven
  simp only [hhalf, hhalf']
  generalize ((num % den : ℕ) : ℚ) / (den : ℚ) = r at *
  generalize num / den = q at *
  split_ifs with hlt hgt heven
  · exact ⟨by linarith, by linarith, fun h => by rcases h with h | h <;> linarith⟩
  · refine ⟨by push_cast; linarith, by push_cast; linarith, fun h => ?_⟩
    rcases h with h | h <;> push_cast at h <;> linarith
  · exact ⟨by linarith, by linarith, fun _ => heven⟩
  · exact ⟨by push_cast; linarith, by push_cast; linarith, fun _ => by omega⟩

theorem zpow_natAbs (b : ℕ) [b.AtLeastTwo] {q : ℤ} (h : 0 ≤ q) :
    (OfNat.ofNat b : ℚ) ^ q = (OfNat.ofNat b ^ q.natAbs : ℕ) := by
  rw [Nat.cast_pow, ← zpow_natCast, Int.natAbs_of_nonneg h, Nat.cast_ofNat]

theorem zpow_neg_natAbs (b : ℕ) [b.AtLeastTwo] {q : ℤ} (h : q < 0) :
    (OfNat.ofNat b : ℚ) ^ q = ((OfNat.ofNat b ^ q.natAbs : ℕ) : ℚ)⁻¹ := by
  rw [Nat.cast_pow, ← zpow_natCast, ← zpow_neg, Int.ofNat_natAbs_of_nonpos h.le, neg_neg,
    Nat.cast_ofNat]

theorem isRounded_roundAt (num : ℕ) {den : ℕ} (hden : 0 < den) (q : ℤ) :
    IsRounded (num / den / 2 ^ q) (roundAt num den q) := by
  unfold roundAt
  simp only [Nat.pow_eq]
  split
  case isTrue h =>
    rw [zpow_neg_natAbs 2 h, div_inv_eq_mul, div_mul_eq_mul_div, ← Nat.cast_mul]
    exact isRounded_roundHalfEven _ hden
  case isFalse h =>
    rw [zpow_natAbs 2 (Int.not_lt.mp h), div_div, ← Nat.cast_mul]
    exact isRounded_roundHalfEven _ (Nat.mul_pos hden (Nat.two_pow_pos _))

theorem log2_bounds {n : ℕ} (h : 0 < n) :
    (2 : ℚ) ^ (n.log2 : ℤ) ≤ n ∧ (n : ℚ) < 2 ^ ((n.log2 : ℤ) + 1) := by
  have hlow : 2 ^ n.log2 ≤ n := Nat.log2_self_le h.ne'
  have hhigh : n < 2 ^ (n.log2 + 1) := Nat.lt_log2_self
  constructor
  · rw [zpow_natCast]
    exact_mod_cast hlow
  · rw [show (n.log2 : ℤ) + 1 = (n.log2 + 1 : ℕ) from rfl, zpow_natCast]
    exact_mod_cast hhigh

/-- A ratio by the sizes of its two numbers. -/
theorem log2_ratio {num den : ℕ} (hnum : 0 < num) (hden : 0 < den) {q : ℤ}
    (hq : q = num.log2 - den.log2 - 53) :
    (2 : ℚ) ^ 52 * 2 ^ q ≤ num / den ∧ (num : ℚ) / den < 2 ^ 54 * 2 ^ q := by
  obtain ⟨hnumLow, hnumHigh⟩ := log2_bounds hnum
  obtain ⟨hdenLow, hdenHigh⟩ := log2_bounds hden
  have hdenQ : (0 : ℚ) < den := Nat.cast_pos.mpr hden
  constructor
  · rw [le_div_iff₀ hdenQ]
    calc (2 : ℚ) ^ 52 * 2 ^ q * den
        ≤ 2 ^ 52 * 2 ^ q * 2 ^ ((den.log2 : ℤ) + 1) := by gcongr
      _ = 2 ^ (num.log2 : ℤ) := by
          rw [← zpow_natCast, ← zpow_add₀ two_ne_zero, ← zpow_add₀ two_ne_zero]
          congr 1
          omega
      _ ≤ num := hnumLow
  · rw [div_lt_iff₀ hdenQ]
    calc (num : ℚ) < 2 ^ ((num.log2 : ℤ) + 1) := hnumHigh
      _ = 2 ^ 54 * 2 ^ q * 2 ^ (den.log2 : ℤ) := by
          rw [← zpow_natCast, ← zpow_add₀ two_ne_zero, ← zpow_add₀ two_ne_zero]
          congr 1
          omega
      _ ≤ 2 ^ 54 * 2 ^ q * den := by gcongr

/-- Whether fifty-three bits are too few, asked in whole numbers. -/
theorem overflows_iff (num : ℕ) {den : ℕ} (hden : 0 < den) (q : ℤ) :
    (if q < 0 then decide (den * Nat.pow 2 53 ≤ num * Nat.pow 2 q.natAbs)
      else decide (den * Nat.pow 2 53 * Nat.pow 2 q.natAbs ≤ num)) =
      decide ((2 : ℚ) ^ 53 * 2 ^ q ≤ num / den) := by
  have hdenQ : (0 : ℚ) < den := Nat.cast_pos.mpr hden
  simp only [Nat.pow_eq, le_div_iff₀ hdenQ]
  split
  case isTrue h =>
    rw [zpow_neg_natAbs 2 h, decide_eq_decide, mul_right_comm, ← div_eq_mul_inv,
      div_le_iff₀ (by positivity)]
    norm_cast
    rw [mul_comm den]
  case isFalse h =>
    rw [zpow_natAbs 2 (Int.not_lt.mp h), decide_eq_decide]
    norm_cast
    rw [mul_comm den, mul_right_comm]

/-- Where the last bit of a mantissa is: as far down as fifty-three bits allow, or at the end. -/
theorem lastBit_spec {num den : ℕ} (hnum : 0 < num) (hden : 0 < den) :
    -1074 ≤ lastBit num den ∧ (num / den : ℚ) < 2 ^ 53 * 2 ^ lastBit num den ∧
      (-1074 < lastBit num den → 2 ^ 52 * 2 ^ lastBit num den ≤ (num / den : ℚ)) := by
  set guess : ℤ := (num.log2 : ℤ) - (den.log2 : ℤ) - 53 with hguess
  obtain ⟨hlow, hhigh⟩ := log2_ratio hnum hden hguess
  obtain ⟨q, hlast, hqLow, hqHigh⟩ : ∃ q, lastBit num den = max (-1074) q ∧
      (2 : ℚ) ^ 52 * 2 ^ q ≤ num / den ∧ (num : ℚ) / den < 2 ^ 53 * 2 ^ q := by
    refine ⟨if (2 : ℚ) ^ 53 * 2 ^ guess ≤ num / den then guess + 1 else guess,
      by simp only [lastBit, ← hguess, overflows_iff num hden, decide_eq_true_eq], ?_⟩
    split
    case isTrue h =>
      rw [zpow_add_one₀ two_ne_zero]
      exact ⟨by linarith, by linarith⟩
    case isFalse h => exact ⟨hlow, not_le.mp h⟩
  rw [hlast]
  refine ⟨le_max_left _ _, hqHigh.trans_le ?_, fun h => ?_⟩
  · gcongr
    · exact one_le_two
    · exact le_max_right _ _
  · rwa [max_eq_right (by omega)]

/-! ## Reach -/

/-- How far below a size the next smaller float is. -/
def Parts.gapBelow (p : Parts) : ℚ := if p.onEdge then 2 ^ p.exponent / 2 else 2 ^ p.exponent

theorem Parts.gapBelow_pos (p : Parts) : 0 < p.gapBelow := by
  unfold Parts.gapBelow
  split <;> positivity

/-- The numbers that read as the float of the parts: those up to half way to the next floats, and
the ends if the mantissa is even. -/
structure Parts.Reaches (p : Parts) (r : ℚ) : Prop where
  low : p.size - p.gapBelow / 2 ≤ r
  high : r ≤ p.size + 2 ^ p.exponent / 2
  ends : r = p.size - p.gapBelow / 2 ∨ r = p.size + 2 ^ p.exponent / 2 → p.mantissa % 2 = 0

namespace Parts.IsProper

variable {p p' : Parts} {r : ℚ}

/-- Sizes with a larger exponent are larger. -/
theorem size_lt_of_exponent (hp : p.IsProper) (hp' : p'.IsProper)
    (h : p.exponent < p'.exponent) : p.size < p'.size := by
  have hm : (p.mantissa : ℚ) < 2 ^ 53 := by exact_mod_cast hp.mantissa_lt
  have hm' : (2 : ℚ) ^ 52 ≤ p'.mantissa := by
    exact_mod_cast hp'.full (lt_of_le_of_lt hp.least h)
  calc p.size < 2 ^ 53 * 2 ^ p.exponent := by unfold Parts.size; gcongr
    _ = 2 ^ 52 * 2 ^ (p.exponent + 1) := by rw [zpow_add_one₀ two_ne_zero]; ring
    _ ≤ 2 ^ 52 * 2 ^ p'.exponent := by gcongr; exact one_le_two; omega
    _ ≤ p'.size := by unfold Parts.size; gcongr

/-- Where the exponent is not smaller, a size is a whole number of last bits. -/
theorem size_eq_natCast (h : p.exponent ≤ p'.exponent) :
    ∃ n : ℕ, p'.size = n * 2 ^ p.exponent := by
  obtain ⟨k, hk⟩ := Int.le.dest h
  refine ⟨p'.mantissa * 2 ^ k, ?_⟩
  rw [Parts.size, ← hk, zpow_add₀ two_ne_zero, zpow_natCast]
  push_cast
  ring

theorem gap_above (hp : p.IsProper) (hp' : p'.IsProper) (h : p.size < p'.size) :
    p.size + 2 ^ p.exponent ≤ p'.size := by
  have hexponent : p.exponent ≤ p'.exponent :=
    not_lt.mp fun hlt => lt_asymm h (size_lt_of_exponent hp' hp hlt)
  obtain ⟨n, hn⟩ := size_eq_natCast hexponent
  have hpos : (0 : ℚ) < 2 ^ p.exponent := by positivity
  rw [hn, Parts.size] at h ⊢
  have hlt : p.mantissa + 1 ≤ n := by exact_mod_cast lt_of_mul_lt_mul_right h hpos.le
  have hltQ : (p.mantissa : ℚ) + 1 ≤ n := by exact_mod_cast hlt
  nlinarith

/-- Below the sizes of a larger exponent there is no more than the largest one of the exponent before
it, half a last bit away. -/
theorem size_le_of_exponent (hp : p.IsProper) (h : p.exponent < p'.exponent) :
    p.size ≤ 2 ^ 52 * 2 ^ p'.exponent - 2 ^ p'.exponent / 2 := by
  have hm : (p.mantissa : ℚ) + 1 ≤ 2 ^ 53 := by exact_mod_cast hp.mantissa_lt
  have hstep : (2 : ℚ) ^ p.exponent ≤ 2 ^ p'.exponent / 2 := by
    rw [le_div_iff₀ two_pos, ← zpow_add_one₀ two_ne_zero]
    exact zpow_le_zpow_right₀ one_le_two h
  have hpos : (0 : ℚ) < 2 ^ p.exponent := by positivity
  unfold Parts.size
  nlinarith

theorem gap_below (hp : p.IsProper) (hp' : p'.IsProper) (h : p.size < p'.size) :
    p.size + p'.gapBelow ≤ p'.size := by
  have hpos : (0 : ℚ) < 2 ^ p'.exponent := by positivity
  have hle : p'.gapBelow ≤ 2 ^ p'.exponent := by
    unfold Parts.gapBelow
    split <;> linarith
  by_cases hexponent : p'.exponent ≤ p.exponent
  · obtain ⟨n, hn⟩ := size_eq_natCast hexponent
    rw [hn, Parts.size] at h ⊢
    have hlt : n + 1 ≤ p'.mantissa := by exact_mod_cast lt_of_mul_lt_mul_right h hpos.le
    have hltQ : (n : ℚ) + 1 ≤ p'.mantissa := by exact_mod_cast hlt
    nlinarith
  · have hlt : p.exponent < p'.exponent := not_le.mp hexponent
    have hbelow := size_le_of_exponent hp hlt
    have hfull := hp'.full (lt_of_le_of_lt hp.least hlt)
    unfold Parts.gapBelow
    split
    case isTrue hedge =>
      have hsize : p'.size = 2 ^ 52 * 2 ^ p'.exponent := by
        rw [Parts.size, (hp'.edge.mp hedge).1, Nat.cast_pow, Nat.cast_ofNat]
      linarith
    case isFalse hedge =>
      have hne : p'.mantissa ≠ 2 ^ 52 := fun heq =>
        hedge (hp'.edge.mpr ⟨heq, lt_of_le_of_lt hp.least hlt⟩)
      have hm' : (2 : ℚ) ^ 52 + 1 ≤ p'.mantissa := by
        exact_mod_cast (by omega : 2 ^ 52 + 1 ≤ p'.mantissa)
      have : p'.size = p'.mantissa * 2 ^ p'.exponent := rfl
      nlinarith

theorem eq_of_size (hp : p.IsProper) (hp' : p'.IsProper) (h : p.size = p'.size) : p = p' := by
  have hexponent : p.exponent = p'.exponent := by
    rcases lt_trichotomy p.exponent p'.exponent with hlt | heq | hlt
    · exact absurd h (size_lt_of_exponent hp hp' hlt).ne
    · exact heq
    · exact absurd h (size_lt_of_exponent hp' hp hlt).ne'
  have hmantissa : p.mantissa = p'.mantissa := by
    rw [Parts.size, Parts.size, hexponent] at h
    exact_mod_cast mul_right_cancel₀ (by positivity) h
  have hedge : p.onEdge = p'.onEdge := by
    rw [Bool.eq_iff_iff, hp.edge, hp'.edge, hexponent, hmantissa]
  cases p
  cases p'
  exact Parts.mk.injEq .. ▸ ⟨hmantissa, hexponent, hedge⟩

/-- Two floats next to each other have not both an even mantissa. -/
theorem odd_of_adjacent (hp' : p'.IsProper)
    (habove : p.size + 2 ^ p.exponent = p'.size) (hbelow : p'.gapBelow = 2 ^ p.exponent)
    (heven : p.mantissa % 2 = 0) : p'.mantissa % 2 = 1 := by
  have hpos : (0 : ℚ) < 2 ^ p.exponent := by positivity
  have hsucc : ((p.mantissa + 1 : ℕ) : ℚ) * 2 ^ p.exponent = p'.mantissa * 2 ^ p'.exponent := by
    rw [Nat.cast_succ, add_one_mul]
    exact habove
  by_cases hedge : p'.onEdge = true
  · -- the smaller one would be one short of twice the larger mantissa
    have hexponent : p'.exponent = p.exponent + 1 := by
      rw [Parts.gapBelow, if_pos hedge, div_eq_iff two_ne_zero,
        ← zpow_add_one₀ two_ne_zero] at hbelow
      exact zpow_right_injective₀ two_pos (by norm_num) hbelow
    rw [hexponent, zpow_add_one₀ two_ne_zero, (hp'.edge.mp hedge).1, mul_comm _ (2 : ℚ),
      ← mul_assoc] at hsucc
    have hnat := mul_right_cancel₀ hpos.ne' hsucc
    norm_cast at hnat
    omega
  · have hexponent : p'.exponent = p.exponent := by
      rw [Parts.gapBelow, if_neg hedge] at hbelow
      exact zpow_right_injective₀ two_pos (by norm_num) hbelow
    rw [hexponent] at hsucc
    have hnat := mul_right_cancel₀ hpos.ne' hsucc
    norm_cast at hnat
    omega

theorem not_reaches_both (hp : p.IsProper) (hp' : p'.IsProper) (h : p.size < p'.size)
    (hr : p.Reaches r) (hr' : p'.Reaches r) : False := by
  have habove := gap_above hp hp' h
  have hbelow := gap_below hp hp' h
  have hhigh := hr.high
  have hlow := hr'.low
  -- the number is half way between the two floats, which are next to each other
  have hsize : p.size + 2 ^ p.exponent = p'.size := by linarith
  have hgap : p'.gapBelow = 2 ^ p.exponent := by linarith
  have heven := hr.ends (.inr (by linarith))
  have heven' := hr'.ends (.inl (by linarith))
  have hodd := odd_of_adjacent hp' hsize hgap heven
  omega

/-- A number reads as one float only. -/
theorem eq_of_reaches (hp : p.IsProper) (hp' : p'.IsProper) (hr : p.Reaches r)
    (hr' : p'.Reaches r) : p = p' := by
  rcases lt_trichotomy p.size p'.size with hlt | heq | hlt
  · exact (not_reaches_both hp hp' hlt hr hr').elim
  · exact eq_of_size hp hp' heq
  · exact (not_reaches_both hp' hp hlt hr' hr).elim

/-- No other float is nearer, and one that is as near is there for an even mantissa only. -/
theorem abs_le_of_reaches (hp : p.IsProper) (hp' : p'.IsProper) (hr : p.Reaches r)
    (hne : p'.size ≠ p.size) :
    |r - p.size| ≤ |r - p'.size| ∧ (|r - p.size| = |r - p'.size| → p.mantissa % 2 = 0) := by
  have hpos : (0 : ℚ) < 2 ^ p.exponent := by positivity
  have hgap := p.gapBelow_pos
  obtain ⟨hlow, hhigh, hends⟩ := hr
  rcases lt_or_gt_of_ne hne with hlt | hgt
  · have hfar := gap_below hp' hp hlt
    have hother : |r - p'.size| = r - p'.size := abs_of_nonneg (by linarith)
    rw [hother]
    refine ⟨abs_le.mpr ⟨by linarith, by linarith⟩, fun heq => hends ?_⟩
    rcases abs_eq (by linarith : 0 ≤ r - p'.size) |>.mp heq with h | h
    · exact absurd h (by linarith)
    · exact .inl (by linarith)
  · have hfar := gap_above hp hp' hgt
    have hother : |r - p'.size| = p'.size - r := by
      rw [abs_sub_comm]
      exact abs_of_nonneg (by linarith)
    rw [hother]
    refine ⟨abs_le.mpr ⟨by linarith, by linarith⟩, fun heq => hends ?_⟩
    rcases abs_eq (by linarith : 0 ≤ p'.size - r) |>.mp heq with h | h
    · exact .inr (by linarith)
    · exact absurd h (by linarith)

end Parts.IsProper

/-! ## Nearest -/

/-- Numbers from here on are too large for a float: half a last bit beyond the largest one. -/
def limit : ℚ := (2 ^ 53 - 1 / 2) * 2 ^ (971 : ℤ)

/-- What reads as a finite float is not too large for one. -/
theorem Parts.Reaches.lt_limit {p : Parts} {r : ℚ} (hr : p.Reaches r) (hp : p.IsProper) :
    r < limit := by
  by_contra hge
  rw [limit, not_lt] at hge
  have hunit : (2 : ℚ) ^ p.exponent ≤ 2 ^ (971 : ℤ) := zpow_le_zpow_right₀ one_le_two hp.most
  have hpos : (0 : ℚ) < 2 ^ (971 : ℤ) := by positivity
  generalize (2 : ℚ) ^ (971 : ℤ) = unit at *
  have hm : (p.mantissa : ℚ) + 1 ≤ 2 ^ 53 := by exact_mod_cast hp.mantissa_lt
  have hend : p.size + 2 ^ p.exponent / 2 = (p.mantissa + 1 / 2) * 2 ^ p.exponent := by
    unfold Parts.size
    ring
  have hle : p.size + 2 ^ p.exponent / 2 ≤ (p.mantissa + 1 / 2) * unit := by
    rw [hend]
    gcongr
  have hlast : (2 : ℚ) ^ 53 - 1 / 2 ≤ p.mantissa + 1 / 2 :=
    le_of_mul_le_mul_right (hge.trans (hr.high.trans hle)) hpos
  -- then it is the end above the largest float, whose mantissa is odd
  have hmantissa : (p.mantissa : ℚ) + 1 / 2 = 2 ^ 53 - 1 / 2 := by linarith
  have heven := hr.ends (.inr (le_antisymm hr.high (hle.trans (hmantissa ▸ hge))))
  have hnat : p.mantissa + 1 = 2 ^ 53 := by
    have : (p.mantissa : ℚ) + 1 = 2 ^ 53 := by linarith
    exact_mod_cast this
  omega

section Rounded

variable {r : ℚ} {m : ℕ} {q : ℤ} (hround : IsRounded (r / 2 ^ q) m)
include hround

theorem IsRounded.scaled : (m - 1 / 2) * 2 ^ q ≤ r ∧ r ≤ (m + 1 / 2) * 2 ^ q ∧
    (r = (m - 1 / 2) * 2 ^ q ∨ r = (m + 1 / 2) * 2 ^ q → m % 2 = 0) := by
  have hpos : (0 : ℚ) < 2 ^ q := by positivity
  obtain ⟨hlow, hhigh, heven⟩ := hround
  rw [le_div_iff₀ hpos] at hlow
  rw [div_le_iff₀ hpos] at hhigh
  rw [div_eq_iff hpos.ne', div_eq_iff hpos.ne'] at heven
  exact ⟨hlow, hhigh, heven⟩

theorem IsRounded.full (hfull : 2 ^ 52 * 2 ^ q ≤ r) : 2 ^ 52 ≤ m := by
  have hpos : (0 : ℚ) < 2 ^ q := by positivity
  have hlt : (2 : ℚ) ^ 52 < m + 1 := lt_of_mul_lt_mul_right
    (by linarith [hround.scaled.2.1] : (2 : ℚ) ^ 52 * 2 ^ q < (m + 1) * 2 ^ q) hpos.le
  have hnat : 2 ^ 52 < m + 1 := by exact_mod_cast hlt
  exact Nat.lt_succ_iff.mp hnat

/-- A rounded number reads as the float that it is rounded to. -/
theorem IsRounded.reaches (hm : m < 2 ^ 53) (hleast : -1074 ≤ q) (hmost : q ≤ 971)
    (hfull : -1074 < q → 2 ^ 52 * 2 ^ q ≤ r) :
    ∃ p : Parts, p.mantissa = m ∧ p.exponent = q ∧ p.IsProper ∧ p.Reaches r := by
  have hpos : (0 : ℚ) < 2 ^ q := by positivity
  obtain ⟨hlow, hhigh, heven⟩ := hround.scaled
  refine ⟨⟨m, q, decide (m = 2 ^ 52 ∧ -1074 < q)⟩, rfl, rfl,
    ⟨hm, hleast, hmost, fun hq => hround.full (hfull hq), decide_eq_true_iff⟩, ?_⟩
  have hhigh' : r ≤ m * 2 ^ q + 2 ^ q / 2 := by linarith
  by_cases hedge : m = 2 ^ 52 ∧ -1074 < q
  · -- the gap below is only half as wide, but the number is not below the size
    have hsize : m * (2 : ℚ) ^ q ≤ r := by
      rw [hedge.1]
      exact_mod_cast hfull hedge.2
    exact ⟨(sub_le_self _ (half_pos (Parts.gapBelow_pos _)).le).trans hsize, hhigh',
      fun _ => by simp only [hedge.1]; decide⟩
  · have hgap : Parts.gapBelow ⟨m, q, decide (m = 2 ^ 52 ∧ -1074 < q)⟩ = 2 ^ q := by
      simp only [Parts.gapBelow, hedge, decide_false, Bool.false_eq_true, if_false]
    refine ⟨?_, hhigh', fun h => heven ?_⟩
    · simp only [hgap, Parts.size]
      linarith
    · simp only [hgap, Parts.size] at h
      exact h.imp (fun h => by linarith) fun h => by linarith

theorem IsRounded.le (hhigh : r < 2 ^ 53 * 2 ^ q) : m ≤ 2 ^ 53 := by
  have hpos : (0 : ℚ) < 2 ^ q := by positivity
  have hlt : (m : ℚ) < 2 ^ 53 + 1 := lt_of_mul_lt_mul_right
    (by linarith [hround.scaled.1] : (m : ℚ) * 2 ^ q < (2 ^ 53 + 1) * 2 ^ q) hpos.le
  have hnat : m < 2 ^ 53 + 1 := by exact_mod_cast hlt
  exact Nat.lt_succ_iff.mp hnat

/-- Numbers whose last bit is too large for a float are too large. -/
theorem IsRounded.limit_le (hfull : -1074 < q → 2 ^ 52 * 2 ^ q ≤ r)
    (h : 971 < q ∨ q = 971 ∧ m = 2 ^ 53) : limit ≤ r := by
  unfold limit
  rcases h with hq | ⟨rfl, rfl⟩
  · calc ((2 : ℚ) ^ 53 - 1 / 2) * 2 ^ (971 : ℤ) ≤ 2 ^ 52 * 2 ^ ((971 : ℤ) + 1) := by
          rw [zpow_add_one₀ two_ne_zero]
          have hpos : (0 : ℚ) < 2 ^ (971 : ℤ) := by positivity
          generalize (2 : ℚ) ^ (971 : ℤ) = unit at *
          linarith
      _ ≤ 2 ^ 52 * 2 ^ q := by gcongr; exact one_le_two; omega
      _ ≤ r := hfull (by omega)
  · exact_mod_cast hround.scaled.1

end Rounded

/-- A number that is rounded up to the next exponent reads as the float there. -/
theorem reaches_carry {r : ℚ} {q : ℤ} (hround : IsRounded (r / 2 ^ q) (2 ^ 53)) (hleast : -1074 ≤ q)
    (hmost : q < 971) (hhigh : r < 2 ^ 53 * 2 ^ q) :
    Parts.IsProper ⟨2 ^ 52, q + 1, true⟩ ∧ Parts.Reaches ⟨2 ^ 52, q + 1, true⟩ r := by
  have hsize : Parts.size ⟨2 ^ 52, q + 1, true⟩ = 2 ^ 53 * 2 ^ q := by
    simp only [Parts.size, zpow_add_one₀ (two_ne_zero' ℚ)]
    push_cast
    ring
  have hgap : Parts.gapBelow ⟨2 ^ 52, q + 1, true⟩ = 2 ^ q := by
    simp only [Parts.gapBelow, if_true, zpow_add_one₀ (two_ne_zero' ℚ)]
    ring
  have hpos : (0 : ℚ) < 2 ^ (q + 1) := by positivity
  have hlow := hround.scaled.1
  push_cast at hlow
  refine ⟨⟨by norm_num, by simp only; omega, hmost, fun _ => le_rfl, ?_⟩,
    ⟨?_, ?_, fun _ => by norm_num⟩⟩
  · simp only [true_and, true_iff]
    omega
  · rw [hsize, hgap]
    linarith
  · rw [hsize]
    simp only
    linarith

/-! ## Reading -/

/-- The float that a number reads as, with a sign. -/
inductive Reads (negative : Bool) (r : ℚ) : Float → Prop where
  | finite {p : Parts} (proper : p.IsProper) (reaches : p.Reaches r) :
      Reads negative r (ofParts negative p)
  | infinite (large : limit ≤ r) : Reads negative r (ofFields negative 2047 0)

/-- **What reaches a float is read as it.** -/
theorem Reads.eq_ofParts {negative : Bool} {r : ℚ} {x : Float} (h : Reads negative r x) {p : Parts}
    (hp : p.IsProper) (hr : p.Reaches r) : x = ofParts negative p := by
  cases h with
  | finite hp' hr' => rw [Parts.IsProper.eq_of_reaches hp' hp hr' hr]
  | infinite hlarge => exact absurd (hr.lt_limit hp) (not_lt.mpr hlarge)

/-- **A number reads as one float.** -/
theorem Reads.unique {negative : Bool} {r : ℚ} {x y : Float} (hx : Reads negative r x)
    (hy : Reads negative r y) : x = y := by
  cases hy with
  | finite hp hr => exact hx.eq_ofParts hp hr
  | infinite hlarge =>
    cases hx with
    | finite hp hr => exact absurd (hr.lt_limit hp) (not_lt.mpr hlarge)
    | infinite => rfl

/-- The float next to `r`, of one sign: no float is nearer, and a tie goes to the even mantissa.
Numbers that are too large are infinite. -/
structure IsNearest (negative : Bool) (r : ℚ) (x : Float) : Prop where
  sign : isNegative x = negative
  finite : isFinite x ↔ r < limit
  infinite : isFinite x = false → fractionBits x = 0
  nearest : isFinite x → ∀ y, isFinite y → |r - (parts x).size| ≤ |r - (parts y).size|
  even : isFinite x → ∀ y, isFinite y → (parts y).size ≠ (parts x).size →
    |r - (parts x).size| = |r - (parts y).size| → (parts x).mantissa % 2 = 0

theorem isNearest_ofParts {p : Parts} (hp : p.IsProper) {r : ℚ} (hr : p.Reaches r)
    (negative : Bool) : IsNearest negative r (ofParts negative p) := by
  obtain ⟨hfinite, hsign, hparts⟩ := hp.parts_ofParts negative
  refine ⟨hsign, iff_of_true hfinite (hr.lt_limit hp), fun h => absurd hfinite (by rw [h]; decide),
    fun _ y hy => ?_, fun _ y hy hne => ?_⟩
  · rw [hparts]
    by_cases hne : (parts y).size = p.size
    · rw [hne]
    · exact (hp.abs_le_of_reaches (parts_isProper hy) hr hne).1
  · rw [hparts] at hne ⊢
    exact (hp.abs_le_of_reaches (parts_isProper hy) hr hne).2

theorem isNearest_infinite {r : ℚ} (h : limit ≤ r) (negative : Bool) :
    IsNearest negative r (ofFields negative 2047 0) := by
  have hbits := exponentBits_ofFields (e := 2047) (f := 0) negative (by decide) (by decide)
    fun _ => rfl
  have hfinite : isFinite (ofFields negative 2047 0) = false := by
    rw [isFinite, hbits]
    rfl
  refine ⟨isNegative_ofFields negative (by decide) (by decide) fun _ => rfl, ?_, fun _ => ?_,
    fun h => ?_, fun h => ?_⟩
  · rw [hfinite]
    exact iff_of_false Bool.false_ne_true (not_lt.mpr h)
  · exact fractionBits_ofFields negative (by decide) (by decide) fun _ => rfl
  · exact absurd h (by rw [hfinite]; decide)
  · exact absurd h (by rw [hfinite]; decide)

/-- **The float that a number reads as is next to it.** -/
theorem Reads.isNearest {negative : Bool} {r : ℚ} {x : Float} (h : Reads negative r x) :
    IsNearest negative r x := by
  cases h with
  | finite hp hr => exact isNearest_ofParts hp hr negative
  | infinite hlarge => exact isNearest_infinite hlarge negative

section Nearest

variable {num den : ℕ} (hnum : 0 < num) (hden : 0 < den) (negative : Bool)
include hnum hden

theorem reads_nearest_of_pos : Reads negative (num / den) (nearest negative num den) := by
  obtain ⟨hleast, hhigh, hfull⟩ := lastBit_spec hnum hden
  have hround := isRounded_roundAt num hden (lastBit num den)
  have hvalue : nearest negative num den =
      assemble negative (roundAt num den (lastBit num den)) (lastBit num den) := by
    rw [nearest, if_neg hnum.ne']
  rw [hvalue]
  generalize lastBit num den = q at *
  generalize roundAt num den q = m at *
  generalize (num : ℚ) / den = r at *
  rcases (hround.le hhigh).eq_or_lt with rfl | hm
  case inl =>
    -- rounding went up to a mantissa of one bit more
    rw [assemble_carry]
    by_cases hq : q < 971
    · obtain ⟨hproper, hreaches⟩ := reaches_carry hround hleast hq hhigh
      rw [assemble_proper hproper]
      exact .finite hproper hreaches
    · rw [assemble_large (by omega) le_rfl (by norm_num)]
      exact .infinite (hround.limit_le hfull (by omega))
  case inr =>
    by_cases hq : q ≤ 971
    · obtain ⟨p, rfl, rfl, hproper, hreaches⟩ := hround.reaches hm hleast hq hfull
      rw [assemble_proper hproper]
      exact .finite hproper hreaches
    · rw [assemble_large (not_le.mp hq) (hround.full (hfull (by omega))) hm]
      exact .infinite (hround.limit_le hfull (.inl (not_le.mp hq)))

end Nearest

theorem nearest_zero (negative : Bool) (den : ℕ) :
    nearest negative 0 den = ofParts negative ⟨0, -1074, false⟩ := by
  simp [nearest, assemble, ofParts, ofFields]

/-- Numbers up to half the smallest float read as zero. -/
theorem Reads.zero (negative : Bool) {r : ℚ} (hlow : 0 ≤ r) (hhigh : r ≤ 2 ^ (-1074 : ℤ) / 2)
    (den : ℕ) : Reads negative r (nearest negative 0 den) := by
  have hproper : Parts.IsProper ⟨0, -1074, false⟩ :=
    ⟨by norm_num, le_rfl, by simp, by simp, by simp⟩
  have hpos : (0 : ℚ) < 2 ^ (-1074 : ℤ) := by positivity
  have hsize : Parts.size ⟨0, -1074, false⟩ = 0 := by
    rw [Parts.size, Nat.cast_zero, zero_mul]
  have hgap : Parts.gapBelow ⟨0, -1074, false⟩ = 2 ^ (-1074 : ℤ) := if_neg Bool.false_ne_true
  have hreaches : Parts.Reaches ⟨0, -1074, false⟩ r := by
    refine ⟨?_, ?_, fun _ => rfl⟩
    · rw [hsize, hgap]
      generalize (2 : ℚ) ^ (-1074 : ℤ) = unit at *
      linarith
    · rw [hsize, zero_add]
      exact hhigh
  rw [nearest_zero]
  exact .finite hproper hreaches

/-- **A ratio reads as the float that is found.** -/
theorem reads_nearest (negative : Bool) (num : ℕ) {den : ℕ} (hden : 0 < den) :
    Reads negative (num / den) (nearest negative num den) := by
  rcases Nat.eq_zero_or_pos num with rfl | hnum
  · rw [Nat.cast_zero, zero_div]
    exact Reads.zero negative le_rfl (by positivity) den
  · exact reads_nearest_of_pos hnum hden negative

/-! ## Scaled numbers -/

theorem ten_zpow_le_half : (10 : ℚ) ^ (-331 : ℤ) ≤ 2 ^ (-1074 : ℤ) / 2 := by
  have hpow : (2 : ℚ) ^ 1075 ≤ 10 ^ 331 :=
    calc (2 : ℚ) ^ 1075 ≤ 2 ^ (33 * 33) := pow_le_pow_right₀ one_le_two (by norm_num)
      _ = (2 ^ 33) ^ 33 := pow_mul _ _ _
      _ ≤ (10 ^ 10) ^ 33 := pow_le_pow_left₀ (by positivity) (by norm_num) _
      _ = 10 ^ (10 * 33) := (pow_mul _ _ _).symm
      _ ≤ 10 ^ 331 := pow_le_pow_right₀ (by norm_num) (by norm_num)
  have hhalf : (2 : ℚ) ^ (-1074 : ℤ) / 2 = 2 ^ (-((1075 : ℕ) : ℤ)) := by
    rw [div_eq_iff two_ne_zero, ← zpow_add_one₀ two_ne_zero]
    rfl
  rw [hhalf, show (-331 : ℤ) = -((331 : ℕ) : ℤ) from rfl, zpow_neg, zpow_neg, zpow_natCast,
    zpow_natCast]
  exact inv_anti₀ (by positivity) hpow

theorem limit_le_ten_zpow : limit ≤ (10 : ℚ) ^ (311 : ℤ) := by
  have hpow : (2 : ℚ) ^ 1023 ≤ 10 ^ 310 :=
    calc (2 : ℚ) ^ 1023 = (2 ^ 33) ^ 31 := pow_mul 2 33 31
      _ ≤ (10 ^ 10) ^ 31 := pow_le_pow_left₀ (by positivity) (by norm_num) _
      _ = 10 ^ 310 := (pow_mul 10 10 31).symm
  have hunit : ∀ unit : ℚ, 0 < unit → (2 ^ 53 - 1 / 2) * unit ≤ 2 ^ 52 * unit * 2 :=
    fun unit h => by linarith
  have hle : limit ≤ 2 ^ 1023 * 2 := by
    rw [limit, show (2 : ℚ) ^ 1023 = 2 ^ 52 * 2 ^ (971 : ℤ) from pow_add 2 52 971]
    exact hunit _ (by positivity)
  calc limit ≤ 2 ^ 1023 * 2 := hle
    _ ≤ 10 ^ 310 * 10 := mul_le_mul hpow (by norm_num) two_pos.le (by positivity)
    _ = 10 ^ (311 : ℤ) := (pow_succ 10 310).symm

/-- A whole number has at most a third as many decimal digits as bits. -/
theorem lt_ten_pow_log2 (m : ℕ) : m < 10 ^ (m.log2 / 3 + 1) :=
  calc m < 2 ^ (m.log2 + 1) := Nat.lt_log2_self
    _ ≤ 2 ^ (3 * (m.log2 / 3 + 1)) := Nat.pow_le_pow_right two_pos (by omega)
    _ = 8 ^ (m.log2 / 3 + 1) := Nat.pow_mul 2 3 _
    _ ≤ 10 ^ (m.log2 / 3 + 1) := Nat.pow_le_pow_left (by decide) _

/-- **A scaled number reads as the float that is found.** -/
theorem reads_nearestScaled (negative : Bool) (m : ℕ) (e : ℤ) :
    Reads negative (m * 10 ^ e) (nearestScaled negative m e) := by
  unfold nearestScaled
  split_ifs with hzero hneg htiny hlarge
  · rw [hzero, Nat.cast_zero, zero_mul]
    exact Reads.zero negative le_rfl (by positivity) 1
  · -- the number is too small, whatever its digits are
    refine Reads.zero negative (by positivity) (le_trans ?_ ten_zpow_le_half) 1
    have hm : (m : ℚ) ≤ 10 ^ ((m.log2 / 3 + 1 : ℕ) : ℤ) := by
      rw [zpow_natCast]
      exact_mod_cast (lt_ten_pow_log2 m).le
    calc (m : ℚ) * 10 ^ e ≤ 10 ^ ((m.log2 / 3 + 1 : ℕ) : ℤ) * 10 ^ e := by gcongr
      _ = 10 ^ (((m.log2 / 3 + 1 : ℕ) : ℤ) + e) := (zpow_add₀ (by norm_num) _ _).symm
      _ ≤ 10 ^ (-331 : ℤ) := zpow_le_zpow_right₀ (by norm_num) (by push_cast; omega)
  · rw [zpow_neg_natAbs 10 hneg, ← div_eq_mul_inv]
    exact reads_nearest negative m (Nat.pow_pos (by decide))
  · -- the number is too large, for it is one at least before it is scaled
    rw [assemble_large (by omega) (by decide) (by decide)]
    refine .infinite (limit_le_ten_zpow.trans ?_)
    have hm : (1 : ℚ) ≤ m := by exact_mod_cast Nat.one_le_iff_ne_zero.mpr hzero
    calc (10 : ℚ) ^ (311 : ℤ) ≤ 10 ^ e := zpow_le_zpow_right₀ (by norm_num) (by omega)
      _ ≤ m * 10 ^ e := le_mul_of_one_le_left (by positivity) hm
  · rw [zpow_natAbs 10 (not_lt.mp hneg), ← Nat.cast_mul, ← div_one ((_ * _ : ℕ) : ℚ),
      ← Nat.cast_one]
    exact reads_nearest negative _ Nat.one_pos

end UsageFeed.Decimal
