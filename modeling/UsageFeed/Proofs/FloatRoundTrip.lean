import UsageFeed.Proofs.FloatTexts
import UsageFeed.Proofs.NumberTexts

/-!
# `UsageFeed.Proofs.FloatRoundTrip` — floats are read as they were written

A float is written with the fewest digits that lie within its reach. Here the search for them is
shown to end there, and every text of a float in running text to be read as that float.

## Contents
- **Digits.** `natOfDigits_digitsOf`, and `Digits.value`, the number that digits write.
- **Intervals.** `Interval.Contains`, and `reaches_of_contains`: an interval lies within reach.
- **Search.** `pointOf_spec`, `search_spec` and `reaches_shortest`.
- **Texts.** `SpellsSize`, with the point ahead of the digits, after or among them, and
  `readFloat?_write`.
-/

namespace UsageFeed.Decimal

/-! ## Digits -/

theorem natOfDigits_append (ds es : List ℕ) :
    natOfDigits (ds ++ es) = natOfDigits ds * 10 ^ es.length + natOfDigits es := by
  have hfold : ∀ (es : List ℕ) (n : ℕ), es.foldl (fun n d => 10 * n + d) n =
      n * 10 ^ es.length + natOfDigits es := by
    intro es
    induction es with
    | nil => intro n; simp [natOfDigits]
    | cons e es ih =>
      intro n
      have he : natOfDigits (e :: es) = e * 10 ^ es.length + natOfDigits es := by
        rw [← ih e, natOfDigits, List.foldl_cons, mul_zero, zero_add]
      rw [List.foldl_cons, ih, he, List.length_cons, pow_succ]
      ring
  rw [natOfDigits, List.foldl_append]
  exact hfold es _

theorem natOfDigits_zeros (ds : List ℕ) (k : ℕ) :
    natOfDigits (ds ++ List.replicate k 0) = natOfDigits ds * 10 ^ k := by
  have hzeros : natOfDigits (List.replicate k 0) = 0 := by
    induction k with
    | zero => rfl
    | succ k ih => exact ih
  rw [natOfDigits_append, hzeros, List.length_replicate, add_zero]

theorem natOfDigits_digitsOf (n : ℕ) : natOfDigits (digitsOf n) = n := by
  induction n using Nat.strongRecOn with
  | _ n ih =>
    rw [digitsOf]
    split
    case isTrue h => rw [h]; rfl
    case isFalse h =>
      rw [natOfDigits_append, ih (n / 10) (by omega)]
      simp only [natOfDigits, List.length_singleton, List.foldl_cons, List.foldl_nil]
      omega

/-- A number has no digits more than its size asks for. -/
theorem pow_length_digitsOf {n : ℕ} (h : 0 < n) : 10 ^ ((digitsOf n).length - 1) ≤ n := by
  induction n using Nat.strongRecOn with
  | _ n ih =>
    rw [digitsOf, dif_neg h.ne', List.length_append, List.length_singleton, Nat.add_sub_cancel]
    rcases Nat.eq_zero_or_pos (n / 10) with hzero | hpos
    · rw [hzero, digitsOf, dif_pos rfl]
      exact h
    · have hlen : 0 < (digitsOf (n / 10)).length := by
        rw [digitsOf, dif_neg hpos.ne', List.length_append]
        exact Nat.succ_pos _
      have hrec := ih (n / 10) (by omega) hpos
      calc 10 ^ (digitsOf (n / 10)).length
          = 10 ^ ((digitsOf (n / 10)).length - 1) * 10 := by rw [← pow_succ]; congr 1; omega
        _ ≤ n / 10 * 10 := Nat.mul_le_mul_right _ hrec
        _ ≤ n := Nat.div_mul_le_self n 10

/-- The number that digits write. -/
def Digits.value (d : Digits) : ℚ := natOfDigits d.digits * 10 ^ (d.point - d.digits.length)

theorem exists_zeros (ds : List ℕ) : ∃ k, ds = dropTrailingZeros ds ++ List.replicate k 0 := by
  refine ⟨(ds.reverse.takeWhile (· == 0)).length, ?_⟩
  have hzeros : ds.reverse.takeWhile (· == 0) =
      List.replicate (ds.reverse.takeWhile (· == 0)).length 0 :=
    List.eq_replicate_iff.mpr ⟨rfl, fun d hd => by simpa using List.mem_takeWhile_imp hd⟩
  rw [dropTrailingZeros, ← List.reverse_replicate, ← hzeros, ← List.reverse_append,
    List.takeWhile_append_dropWhile, List.reverse_reverse]

/-- Zeros at the end write nothing. -/
theorem Digits.value_ofList (ds : List ℕ) (point : ℤ) :
    (Digits.ofList ds point).value = natOfDigits ds * 10 ^ (point - ds.length) := by
  obtain ⟨k, hk⟩ := exists_zeros ds
  have hlength : (ds.length : ℤ) = (dropTrailingZeros ds).length + k := by
    have := congrArg List.length hk
    rw [List.length_append, List.length_replicate] at this
    exact_mod_cast this
  have hvalue : natOfDigits ds = natOfDigits (dropTrailingZeros ds) * 10 ^ k := by
    rw [← natOfDigits_zeros, ← hk]
  have hpower : (10 : ℚ) ^ (point - (dropTrailingZeros ds).length) =
      10 ^ k * 10 ^ (point - ds.length) := by
    rw [← zpow_natCast, ← zpow_add₀ (by norm_num), hlength]
    congr 1
    omega
  rw [Digits.value, Digits.ofList, hvalue, hpower]
  push_cast
  ring

/-! ## Intervals -/

/-- The numbers of an interval. -/
def Interval.Contains (i : Interval) (r : ℚ) : Prop :=
  if i.closed then (i.low : ℚ) / i.unit ≤ r ∧ r ≤ i.high / i.unit
  else (i.low : ℚ) / i.unit < r ∧ r < i.high / i.unit

theorem scaled_pos {den : ℕ} (h : 0 < den) (num : ℕ) (k : ℤ) : 0 < (scaled num den k).2 := by
  simp only [scaled, Nat.pow_eq]
  split
  · exact h
  · exact Nat.mul_pos h (Nat.pow_pos (by decide))

theorem scaled_ratio (num den : ℕ) (k : ℤ) :
    ((scaled num den k).1 : ℚ) / (scaled num den k).2 = num / den / 10 ^ k := by
  simp only [scaled, Nat.pow_eq]
  split
  case isTrue h =>
    rw [zpow_neg_natAbs 10 h, div_inv_eq_mul, div_mul_eq_mul_div, ← Nat.cast_mul]
  case isFalse h => rw [zpow_natAbs 10 (not_lt.mp h), div_div, ← Nat.cast_mul]

theorem Interval.holds_iff {i : Interval} (h : 0 < i.unit) (d : ℕ) (k : ℤ) :
    i.holds d k = true ↔ i.Contains (d * 10 ^ k) := by
  have hten : (0 : ℚ) < 10 ^ k := by positivity
  have hlow := scaled_ratio i.low i.unit k
  have hhigh := scaled_ratio i.high i.unit k
  have hlowPos : (0 : ℚ) < (scaled i.low i.unit k).2 := Nat.cast_pos.mpr (scaled_pos h _ k)
  have hhighPos : (0 : ℚ) < (scaled i.high i.unit k).2 := Nat.cast_pos.mpr (scaled_pos h _ k)
  unfold Interval.holds Interval.Contains
  simp only
  split
  · rw [Bool.and_eq_true, decide_eq_true_eq, decide_eq_true_eq, ← div_le_iff₀ hten, ← hlow,
      ← le_div_iff₀ hten, ← hhigh, div_le_iff₀ hlowPos, le_div_iff₀ hhighPos]
    norm_cast
  · rw [Bool.and_eq_true, decide_eq_true_eq, decide_eq_true_eq, ← div_lt_iff₀ hten, ← hlow,
      ← lt_div_iff₀ hten, ← hhigh, div_lt_iff₀ hlowPos, lt_div_iff₀ hhighPos]
    norm_cast

/-- The interval of parts in a unit of its own. -/
theorem Interval.exists_ofParts (p : Parts) : ∃ up unit : ℕ, 0 < unit ∧
    (up : ℚ) / unit = 2 ^ p.exponent / 4 ∧ Interval.ofParts p =
      { low := (4 * p.mantissa - (if p.onEdge then 1 else 2)) * up
        value := 4 * p.mantissa * up
        high := (4 * p.mantissa + 2) * up
        unit := unit
        closed := p.mantissa % 2 == 0 } := by
  have hquarter : (2 : ℚ) ^ (p.exponent - 2) = 2 ^ p.exponent / 4 := by
    rw [zpow_sub₀ two_ne_zero]
    norm_num
  unfold Interval.ofParts
  by_cases h : p.exponent - 2 < 0
  · refine ⟨1, 2 ^ (p.exponent - 2).natAbs, Nat.two_pow_pos _, ?_, ?_⟩
    · rw [← hquarter, zpow_neg_natAbs 2 h, Nat.cast_one, one_div]
    · simp only [if_pos h, Nat.pow_eq]
  · refine ⟨2 ^ (p.exponent - 2).natAbs, 1, Nat.one_pos, ?_, ?_⟩
    · rw [← hquarter, zpow_natAbs 2 (not_lt.mp h), Nat.cast_one, div_one]
    · simp only [if_neg h, Nat.pow_eq]

/-- The ends of an interval are half way to the next floats. -/
theorem Interval.ofParts_spec {p : Parts} (h : 0 < p.mantissa) :
    0 < (Interval.ofParts p).unit ∧
    ((Interval.ofParts p).low : ℚ) / (Interval.ofParts p).unit = p.size - p.gapBelow / 2 ∧
    ((Interval.ofParts p).value : ℚ) / (Interval.ofParts p).unit = p.size ∧
    ((Interval.ofParts p).high : ℚ) / (Interval.ofParts p).unit = p.size + 2 ^ p.exponent / 2 ∧
    (Interval.ofParts p).closed = (p.mantissa % 2 == 0) := by
  obtain ⟨up, unit, hunit, hratio, hinterval⟩ := Interval.exists_ofParts p
  -- intervals are counted in quarters of a last bit
  have hlow : ((4 * p.mantissa - (if p.onEdge then 1 else 2) : ℕ) : ℚ) * (2 ^ p.exponent / 4) =
      p.size - p.gapBelow / 2 := by
    rw [Nat.cast_sub (by split <;> omega)]
    unfold Parts.size Parts.gapBelow
    split <;> push_cast <;> ring
  rw [hinterval]
  refine ⟨hunit, ?_, ?_, ?_, rfl⟩
  · rw [Nat.cast_mul, mul_div_assoc, hratio, hlow]
  · rw [Nat.cast_mul, mul_div_assoc, hratio, Parts.size]
    push_cast
    ring
  · rw [Nat.cast_mul, mul_div_assoc, hratio, Parts.size]
    push_cast
    ring

theorem reaches_of_contains {p : Parts} (h : 0 < p.mantissa) {r : ℚ}
    (hr : (Interval.ofParts p).Contains r) : p.Reaches r := by
  obtain ⟨-, hlow, -, hhigh, hclosed⟩ := Interval.ofParts_spec h
  rw [Interval.Contains, hlow, hhigh, hclosed] at hr
  split at hr
  case isTrue heven => exact ⟨hr.1, hr.2, fun _ => beq_iff_eq.mp heven⟩
  case isFalse => exact ⟨hr.1.le, hr.2.le, fun h => by rcases h with h | h <;> linarith⟩

/-- What is not above a size, and nearer to it than half the gap below, lies in its interval. -/
theorem contains_of_lt {p : Parts} (h : 0 < p.mantissa) {r : ℚ}
    (hlow : p.size - p.gapBelow / 2 < r) (hhigh : r ≤ p.size) :
    (Interval.ofParts p).Contains r := by
  obtain ⟨-, hlow', -, hhigh', -⟩ := Interval.ofParts_spec h
  have hpos : (0 : ℚ) < 2 ^ p.exponent := by positivity
  rw [Interval.Contains, hlow', hhigh']
  split
  · exact ⟨hlow.le, by linarith⟩
  · exact ⟨hlow, by linarith⟩

/-! ## Search -/

theorem onGrid?_eq_some {i : Interval} {d : ℕ} {k : ℤ} (h : i.onGrid? k = some d) :
    i.holds d k = true := by
  unfold Interval.onGrid? at h
  simp only at h
  split at h
  · next hlow hhigh =>
    split at h
    · exact Option.some.inj h ▸ hlow
    · exact Option.some.inj h ▸ hhigh
  · next hlow _ => exact Option.some.inj h ▸ hlow
  · next _ hhigh => exact Option.some.inj h ▸ hhigh
  · cases h

theorem onGrid?_isSome {i : Interval} {k : ℤ}
    (h : i.holds ((scaled i.value i.unit k).1 / (scaled i.value i.unit k).2) k = true) :
    (i.onGrid? k).isSome := by
  unfold Interval.onGrid?
  simp only [h]
  split <;> simp_all

/-- The search ends where one of the numbers of digits ahead of it will do, or before. -/
theorem search_spec (i : Interval) (point : ℤ) (fuel n : ℕ)
    (h : ∃ j, n ≤ j ∧ j < n + fuel ∧ (i.onGrid? (point - j)).isSome) :
    ∃ d k, i.holds d k = true ∧
      i.search point fuel n = Digits.ofList (digitsOf d) (k + (digitsOf d).length) := by
  induction fuel generalizing n with
  | zero =>
    obtain ⟨j, hle, hlt, -⟩ := h
    omega
  | succ fuel ih =>
    rw [Interval.search]
    cases hgrid : i.onGrid? (point - n) with
    | some d => exact ⟨d, _, onGrid?_eq_some hgrid, rfl⟩
    | none =>
      -- the number of digits that will do is still ahead
      obtain ⟨j, hle, hlt, hsome⟩ := h
      have hne : j ≠ n := by
        rintro rfl
        rw [hgrid] at hsome
        cases hsome
      exact ih (n + 1) ⟨j, by omega, by omega, hsome⟩

theorem timesTen_spec {fuel num den : ℕ} (h : den ≤ num * 10 ^ fuel) :
    den ≤ num * 10 ^ timesTen fuel num den := by
  induction fuel generalizing num with
  | zero => exact h
  | succ fuel ih =>
    rw [timesTen]
    split
    case isTrue hle => rwa [pow_zero, mul_one]
    case isFalse =>
      rw [pow_succ', ← mul_assoc]
      rw [pow_succ', ← mul_assoc] at h
      exact ih h

theorem zpow_neg_le_div_iff {num den : ℕ} (hden : 0 < den) (n : ℕ) :
    (10 : ℚ) ^ (-(n : ℤ)) ≤ num / den ↔ den ≤ num * 10 ^ n := by
  have hdenQ : (0 : ℚ) < den := Nat.cast_pos.mpr hden
  rw [le_div_iff₀ hdenQ, zpow_neg, zpow_natCast, inv_mul_le_iff₀ (by positivity), mul_comm]
  norm_cast

/-- The point of a number is no further right than its size allows. -/
theorem pointOf_spec {num den : ℕ} (hden : 0 < den) (h : den ≤ num * 10 ^ 400) :
    (10 : ℚ) ^ (pointOf num den - 1) ≤ num / den := by
  unfold pointOf
  split
  case isTrue hle =>
    have hpos : 0 < num / den := Nat.div_pos hle hden
    have hlength := pow_length_digitsOf hpos
    have hsome : (digitsOf (num / den)).length ≠ 0 := by
      rw [digitsOf, dif_neg hpos.ne']
      simp
    have hcast : ((digitsOf (num / den)).length : ℤ) - 1 =
        ((digitsOf (num / den)).length - 1 : ℕ) := by omega
    rw [hcast, zpow_natCast, le_div_iff₀ (Nat.cast_pos.mpr hden)]
    exact_mod_cast (Nat.mul_le_mul_right den hlength).trans (Nat.div_mul_le_self num den)
  case isFalse =>
    have hcast : (1 - (timesTen 400 num den : ℤ) - 1) = -(timesTen 400 num den : ℤ) := by omega
    rw [hcast, zpow_neg_le_div_iff hden]
    exact timesTen_spec h

/-- The multiple of `10 ^ k` below a value. -/
theorem floor_scaled (num : ℕ) {den : ℕ} (hden : 0 < den) (k : ℤ) :
    (((scaled num den k).1 / (scaled num den k).2 : ℕ) : ℚ) * 10 ^ k ≤ num / den ∧
      (num : ℚ) / den < ((scaled num den k).1 / (scaled num den k).2 : ℕ) * 10 ^ k + 10 ^ k := by
  have hten : (0 : ℚ) < 10 ^ k := by positivity
  have hpos : 0 < (scaled num den k).2 := scaled_pos hden num k
  have hposQ : (0 : ℚ) < (scaled num den k).2 := Nat.cast_pos.mpr hpos
  rw [← le_div_iff₀ hten, ← add_one_mul, ← div_lt_iff₀ hten, ← scaled_ratio, le_div_iff₀ hposQ,
    div_lt_iff₀ hposQ]
  constructor
  · exact_mod_cast Nat.div_mul_le_self _ _
  · exact_mod_cast (Nat.div_lt_iff_lt_mul hpos).mp (Nat.lt_succ_self _)

theorem half_le_gapBelow (p : Parts) : 2 ^ p.exponent / 2 ≤ p.gapBelow := by
  have hpos : (0 : ℚ) < 2 ^ p.exponent := by positivity
  unfold Parts.gapBelow
  split <;> linarith

/-- With eighteen digits there is a number in the interval of any float. -/
theorem onGrid?_eighteen {p : Parts} (hp : p.IsProper) (h : 0 < p.mantissa) :
    ((Interval.ofParts p).onGrid? (pointOf (Interval.ofParts p).value (Interval.ofParts p).unit -
      (18 : ℕ))).isSome := by
  obtain ⟨hunit, -, hvalue, -⟩ := Interval.ofParts_spec h
  have hm : (p.mantissa : ℚ) < 2 ^ 53 := by exact_mod_cast hp.mantissa_lt
  have hone : (1 : ℚ) ≤ p.mantissa := by exact_mod_cast h
  have hlast : (0 : ℚ) < 2 ^ p.exponent := by positivity
  have hsmallest : (2 : ℚ) ^ (-1074 : ℤ) ≤ 2 ^ p.exponent :=
    zpow_le_zpow_right₀ one_le_two hp.least
  have hsize : (2 : ℚ) ^ p.exponent ≤ p.size := le_mul_of_one_le_left hlast.le hone
  -- no float is so small that its point is not found
  have hrange : (Interval.ofParts p).unit ≤ (Interval.ofParts p).value * 10 ^ 400 := by
    rw [← zpow_neg_le_div_iff hunit, hvalue]
    calc (10 : ℚ) ^ (-((400 : ℕ) : ℤ)) ≤ 10 ^ (-331 : ℤ) :=
          zpow_le_zpow_right₀ (by norm_num) (by norm_num)
      _ ≤ 2 ^ (-1074 : ℤ) / 2 := ten_zpow_le_half
      _ ≤ 2 ^ (-1074 : ℤ) := half_le_self (by positivity)
      _ ≤ p.size := hsmallest.trans hsize
  have hpoint := pointOf_spec hunit hrange
  rw [hvalue] at hpoint
  generalize pointOf (Interval.ofParts p).value (Interval.ofParts p).unit = point at *
  refine onGrid?_isSome ((Interval.holds_iff hunit _ _).mpr ?_)
  obtain ⟨hle, hlt⟩ := floor_scaled (Interval.ofParts p).value hunit (point - (18 : ℕ))
  rw [hvalue] at hle hlt
  refine contains_of_lt h ?_ hle
  -- the multiple below is off by less than a step, and a step is less than a quarter of a last bit
  have hstep : (10 : ℚ) ^ (point - (18 : ℕ)) * 10 ^ 17 = 10 ^ (point - 1) := by
    rw [← zpow_natCast, ← zpow_add₀ (by norm_num)]
    congr 1
    omega
  have hgap := half_le_gapBelow p
  have hlarge : p.size ≤ 2 ^ 53 * 2 ^ p.exponent := by
    unfold Parts.size
    gcongr
  generalize (10 : ℚ) ^ (point - (18 : ℕ)) = grid at *
  have hgrid : grid < 2 ^ p.exponent / 4 := by linarith
  linarith

theorem reaches_size (p : Parts) : p.Reaches p.size := by
  have hgap := p.gapBelow_pos
  have hpos : (0 : ℚ) < 2 ^ p.exponent := by positivity
  exact ⟨by linarith, by linarith, fun h => by rcases h with h | h <;> linarith⟩

/-- **The digits of a float are within its reach.** -/
theorem reaches_shortest {x : Float} (hx : isFinite x) : (parts x).Reaches (shortest x).value := by
  by_cases h : (parts x).mantissa = 0
  · have hvalue : (shortest x).value = (parts x).size := by
      simp [shortest, Digits.value, Parts.size, natOfDigits, h]
    exact hvalue ▸ reaches_size _
  have hpos : 0 < (parts x).mantissa := Nat.pos_of_ne_zero h
  have hunit := (Interval.ofParts_spec hpos).1
  obtain ⟨d, k, hholds, hsearch⟩ := search_spec (Interval.ofParts (parts x)) _ 20 1
    ⟨18, by decide, by decide, onGrid?_eighteen (parts_isProper hx) hpos⟩
  have hvalue : (shortest x).value = d * 10 ^ k := by
    unfold shortest
    simp only [if_neg h]
    rw [hsearch, Digits.value_ofList, natOfDigits_digitsOf, add_sub_cancel_right]
  rw [hvalue]
  exact reaches_of_contains hpos ((Interval.holds_iff hunit d k).mp hholds)

/-! ## Texts -/

theorem digitChars_zeros (k : ℕ) : digitChars (List.replicate k 0) = List.replicate k '0' :=
  List.map_replicate

theorem zeros_lt (k : ℕ) : ∀ d ∈ List.replicate k 0, d < 10 := fun _ hd =>
  (List.eq_of_mem_replicate hd) ▸ by decide

theorem natOfDigits_leading (k : ℕ) (ds : List ℕ) :
    natOfDigits (List.replicate k 0 ++ ds) = natOfDigits ds := by
  have hzeros := natOfDigits_zeros [] k
  rw [List.nil_append] at hzeros
  rw [natOfDigits_append, hzeros, natOfDigits, List.foldl_nil, zero_mul, zero_mul, zero_add]

/-- A text without a sign and without an exponent spells a size. -/
def SpellsSize (s : List Char) (r : ℚ) : Prop :=
  ∃ whole fraction, SpellsUnsigned s whole fraction 0 ∧
    (natOfDigits (whole ++ fraction) : ℚ) * 10 ^ (0 - (fraction.length : ℤ)) = r

section Positions

variable {ds : List ℕ} (hsome : ds ≠ []) (hlt : ∀ d ∈ ds, d < 10)
include hlt

/-- The point stands ahead of the digits. -/
theorem spellsSize_ahead (k : ℕ) :
    SpellsSize ('0' :: '.' :: (List.replicate k '0' ++ digitChars ds))
      (natOfDigits ds * 10 ^ (-k - ds.length : ℤ)) := by
  refine ⟨[0], List.replicate k 0 ++ ds, ?_, ?_⟩
  · have hfraction : SpellsFraction _ (List.replicate k 0 ++ ds) :=
      .digits (List.forall_mem_append.mpr ⟨zeros_lt k, hlt⟩)
    have hspelled :=
      SpellsUnsigned.parts (zeros_lt 1) hfraction .nothing (.inl (List.cons_ne_nil _ _))
    simp only [digitChars_append, digitChars_zeros, List.append_nil] at hspelled
    exact hspelled
  · have hpower : (0 : ℤ) - (k + ds.length : ℕ) = -k - ds.length := by omega
    rw [List.singleton_append, ← List.cons_append, ← List.replicate_succ, natOfDigits_leading,
      List.length_append, List.length_replicate, hpower]

include hsome

/-- The point stands after the digits. -/
theorem spellsSize_after (k : ℕ) :
    SpellsSize (digitChars ds ++ List.replicate k '0') (natOfDigits ds * 10 ^ (k : ℤ)) := by
  refine ⟨ds ++ List.replicate k 0, [], ?_, ?_⟩
  · have hspelled := SpellsUnsigned.parts (List.forall_mem_append.mpr ⟨hlt, zeros_lt k⟩) .nothing
      .nothing (.inl (List.append_ne_nil_of_left_ne_nil hsome _))
    rw [digitChars_append, digitChars_zeros, List.append_nil, List.append_nil] at hspelled
    exact hspelled
  · rw [List.append_nil, natOfDigits_zeros, zpow_natCast, List.length_nil, Nat.cast_zero, sub_zero,
      zpow_zero, mul_one, Nat.cast_mul, Nat.cast_pow, Nat.cast_ofNat]

/-- The point stands among the digits. -/
theorem spellsSize_among {k : ℕ} (hk : 0 < k) (hle : k ≤ ds.length) :
    SpellsSize (digitChars (ds.take k) ++ ['.'] ++ digitChars (ds.drop k))
      (natOfDigits ds * 10 ^ (k - ds.length : ℤ)) := by
  refine ⟨ds.take k, ds.drop k, ?_, ?_⟩
  · have hfraction : SpellsFraction _ (ds.drop k) :=
      .digits fun d hd => hlt d (List.mem_of_mem_drop hd)
    have hwhole : ds.take k ≠ [] := by
      rw [Ne, List.take_eq_nil_iff]
      exact not_or.mpr ⟨hk.ne', hsome⟩
    have hspelled := SpellsUnsigned.parts (fun d hd => hlt d (List.mem_of_mem_take hd))
      hfraction .nothing (.inl hwhole)
    rw [List.append_nil] at hspelled
    rw [List.append_assoc]
    exact hspelled
  · rw [List.take_append_drop, List.length_drop]
    congr 2
    omega

end Positions

/-- Digits with the point in its place spell the number that they write. -/
theorem spellsSize_positional {d : Digits} (hsome : d.digits ≠ [])
    (hlt : ∀ a ∈ d.digits, a < 10) : SpellsSize (Layout.plain.positional d) d.value := by
  rw [Digits.value]
  unfold Layout.positional
  simp only
  split
  case isTrue hpoint =>
    have hpower : d.point - d.digits.length = -(d.point.natAbs : ℤ) - d.digits.length := by omega
    rw [hpower]
    exact spellsSize_ahead hlt d.point.natAbs
  split
  case isTrue hlength =>
    obtain ⟨k, hk⟩ := Int.eq_ofNat_of_zero_le (sub_nonneg.mpr hlength)
    rw [hk]
    exact (List.append_nil _).symm ▸ spellsSize_after hsome hlt k
  case isFalse hpositive hlength =>
    obtain ⟨k, hk⟩ := Int.eq_ofNat_of_zero_le (not_le.mp hpositive).le
    rw [hk]
    exact spellsSize_among hsome hlt (by omega) (by omega)

theorem spellsFloat_finite {x : Float} (hx : isFinite x) :
    SpellsFloat (Layout.plain.finite x) x := by
  have hbody : SpellsSize (if (shortest x).digits.isEmpty then ['0']
      else Layout.plain.positional (shortest x)) (shortest x).value := by
    split
    case isTrue hempty =>
      rw [List.isEmpty_iff] at hempty
      have hvalue : (shortest x).value = natOfDigits [0] * 10 ^ ((0 : ℕ) : ℤ) := by
        simp [Digits.value, hempty, natOfDigits]
      rw [hvalue]
      exact spellsSize_after (List.cons_ne_nil 0 []) (by decide) 0
    case isFalse hsome =>
      exact spellsSize_positional (by rwa [List.isEmpty_iff] at hsome) (shortest_lt x)
  obtain ⟨whole, fraction, hspelled, hvalue⟩ := hbody
  have hreads : Reads (isNegative x) (Literal.size ⟨isNegative x, whole, fraction, 0⟩) x := by
    have hreads : Reads (isNegative x) (shortest x).value (ofParts (isNegative x) (parts x)) :=
      .finite (parts_isProper hx) (reaches_shortest hx)
    rw [ofParts_parts] at hreads
    rw [Literal.size, hvalue]
    exact hreads
  have hsign : IsSign (isNegative x) (if isNegative x then ['-'] else []) := by
    split
    case isTrue h => exact h ▸ .minus
    case isFalse h => exact (Bool.not_eq_true _).mp h ▸ .nothing
  have hfinite : Layout.plain.finite x = (if isNegative x then ['-'] else []) ++
      (if (shortest x).digits.isEmpty then ['0'] else Layout.plain.positional (shortest x)) := by
    cases hneg : isNegative x <;> simp [Layout.finite, hneg, Layout.plain, Layout.usesExponent]
  rw [hfinite]
  exact .decimal (.signed hsign hspelled) hreads

/-- **A float is read as it was written in running text.** -/
theorem readFloat?_write (x : Float) : readFloat? (Layout.plain.write x).toList = some x := by
  rw [readFloat?_eq_some_iff, Layout.write]
  split
  case isTrue hx =>
    rw [String.toList_ofList]
    exact spellsFloat_finite hx
  case isFalse hx =>
    have hexponent : exponentBits x = 2047 := by simpa [isFinite] using hx
    split
    case isTrue hfraction =>
      rw [isNaN_iff.mp (isNaN_iff_bits.mpr ⟨hexponent, hfraction⟩)]
      exact (.notANumber .nothing (by decide) : SpellsFloat ([] ++ "NaN".toList) notANumber)
    case isFalse hfraction =>
      have hinfinity := eq_infinity hexponent (not_not.mp hfraction)
      generalize isNegative x = negative at *
      subst hinfinity
      cases negative with
      | true =>
        exact (.infinity .minus (by decide) : SpellsFloat (['-'] ++ "inf".toList) (infinity true))
      | false =>
        exact (.infinity .nothing (by decide) : SpellsFloat ([] ++ "inf".toList) (infinity false))

end UsageFeed.Decimal
