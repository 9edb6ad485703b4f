import UsageFeed.Decimal.Layout

/-!
# `UsageFeed.Proofs.FloatTexts` — what the text of a float is made of

Whatever digits are found for a float, its text in data begins like a number and cannot be taken for
a whole one.

## Contents
- **Digits.** `shortest_lt`: they are below ten.
- **Texts.** `IsNumeral`, and `isNumeral_finite`, which has one lemma for each way to place the
  point (`isNumeral_positional`, `isNumeral_scientific`).
-/

namespace UsageFeed.Decimal

/-! ## Digits -/

theorem digitsOf_lt (n : Nat) : ∀ d ∈ digitsOf n, d < 10 := by
  induction n using Nat.strongRecOn with
  | _ n ih =>
    intro d hd
    rw [digitsOf] at hd
    split at hd
    · exact absurd hd List.not_mem_nil
    · rcases List.mem_append.mp hd with hd | hd
      · exact ih (n / 10) (by omega) d hd
      · rw [List.mem_singleton.mp hd]
        omega

theorem dropTrailingZeros_subset (ds : List Nat) : dropTrailingZeros ds ⊆ ds := by
  intro d hd
  exact List.mem_reverse.mp ((List.dropWhile_sublist _).subset (List.mem_reverse.mp hd))

theorem search_lt (i : Interval) (point : Int) (fuel n : Nat) :
    ∀ d ∈ (i.search point fuel n).digits, d < 10 := by
  induction fuel generalizing n with
  | zero => exact fun d hd => absurd hd List.not_mem_nil
  | succ fuel ih =>
    intro d hd
    rw [Interval.search] at hd
    cases hgrid : i.onGrid? (point - n) with
    | some m =>
      rw [hgrid] at hd
      exact digitsOf_lt m d (dropTrailingZeros_subset _ hd)
    | none =>
      rw [hgrid] at hd
      exact ih _ d hd

/-- **The digits of a float are digits.** -/
theorem shortest_lt (x : Float) : ∀ d ∈ (shortest x).digits, d < 10 := by
  unfold shortest
  simp only
  split
  · exact fun d hd => absurd hd List.not_mem_nil
  · exact search_lt _ _ _ _

/-! ## Texts -/

/-- The characters that a float is written with. -/
def isNumeral (c : Char) : Bool := c.isDigit || c == '.' || c == 'e' || c == '+' || c == '-'

/-- The text of a float: it begins like a number and has a point or an exponent. -/
structure IsNumeral (cs : List Char) : Prop where
  first : ∃ c more, cs = c :: more ∧ (c = '-' ∨ c.isDigit)
  all : ∀ c ∈ cs, isNumeral c
  mark : '.' ∈ cs ∨ 'e' ∈ cs

theorem isDigit_digitChar {d : Nat} (h : d < 10) : (digitChar d).isDigit := by
  have hall : ∀ d < 10, (digitChar d).isDigit := by decide
  exact hall d h

theorem isNumeral_of_isDigit {c : Char} (h : c.isDigit) : isNumeral c := by
  simp [isNumeral, h]

theorem isNumeral_digitChars {ds : List Nat} (h : ∀ d ∈ ds, d < 10) :
    ∀ c ∈ digitChars ds, isNumeral c := by
  intro c hc
  obtain ⟨d, hd, rfl⟩ := List.mem_map.mp hc
  exact isNumeral_of_isDigit (isDigit_digitChar (h d hd))

theorem isNumeral_zeros (n : Nat) : ∀ c ∈ List.replicate n '0', isNumeral c := by
  intro c hc
  rw [List.eq_of_mem_replicate hc]
  decide

theorem isNumeral_positional {d : Digits} (hsome : d.digits ≠ []) (h : ∀ a ∈ d.digits, a < 10) :
    IsNumeral (Layout.exchange.positional d) := by
  obtain ⟨a, more, hdigits⟩ := List.exists_cons_of_ne_nil hsome
  have ha : (digitChar a).isDigit :=
    isDigit_digitChar (h a (by rw [hdigits]; exact List.mem_cons_self))
  have hpoint : isNumeral '.' := by decide
  have hzero : isNumeral '0' := by decide
  unfold Layout.positional
  simp only
  split
  · -- the point stands ahead of the digits
    constructor
    case first => exact ⟨'0', _, rfl, .inr (by decide)⟩
    case all =>
      refine List.forall_mem_append.mpr ⟨?_, isNumeral_digitChars h⟩
      refine List.forall_mem_append.mpr ⟨?_, isNumeral_zeros _⟩
      exact List.forall_mem_cons.mpr ⟨hzero, List.forall_mem_singleton.mpr hpoint⟩
    case mark => simp
  split
  · -- the point stands after the digits
    constructor
    case first => exact ⟨digitChar a, _, by rw [hdigits]; rfl, .inr ha⟩
    case all =>
      refine List.forall_mem_append.mpr ⟨?_, ?_⟩
      · exact List.forall_mem_append.mpr ⟨isNumeral_digitChars h, isNumeral_zeros _⟩
      · exact List.forall_mem_cons.mpr ⟨hpoint, List.forall_mem_singleton.mpr hzero⟩
    case mark => simp [Layout.exchange]
  · next hpositive _ =>
    -- the point stands among the digits, so that the first of them is before it
    obtain ⟨n, hn⟩ : ∃ n, d.point.toNat = n + 1 := ⟨d.point.toNat - 1, by omega⟩
    constructor
    case first =>
      have hbefore : d.digits.take d.point.toNat = a :: more.take n := by
        rw [hn, hdigits, List.take_succ_cons]
      rw [hbefore]
      exact ⟨digitChar a, _, rfl, .inr ha⟩
    case all =>
      refine List.forall_mem_append.mpr ⟨List.forall_mem_append.mpr ⟨?_, ?_⟩, ?_⟩
      · exact isNumeral_digitChars fun a ha => h a (List.mem_of_mem_take ha)
      · exact List.forall_mem_singleton.mpr hpoint
      · exact isNumeral_digitChars fun a ha => h a (List.mem_of_mem_drop ha)
    case mark => simp

theorem isNumeral_scientific {d : Digits} (hsome : d.digits ≠ []) (h : ∀ a ∈ d.digits, a < 10) :
    IsNumeral (scientific d) := by
  obtain ⟨a, more, hdigits⟩ := List.exists_cons_of_ne_nil hsome
  rw [hdigits] at h
  obtain ⟨ha, hmore⟩ := List.forall_mem_cons.mp h
  have hfirst : isNumeral (digitChar a) := isNumeral_of_isDigit (isDigit_digitChar ha)
  have hexponent : ∀ n : Nat, ∀ c ∈ (Nat.repr n).toList, isNumeral c := by
    intro n c hc
    rw [Nat.repr_eq_ofList_toDigits, String.toList_ofList] at hc
    exact isNumeral_of_isDigit (Nat.isDigit_of_mem_toDigits (by decide) (by decide) hc)
  have hsign : ∀ e : Int, isNumeral (if e < 0 then '-' else '+') := by
    intro e
    split <;> decide
  unfold scientific
  rw [hdigits]
  constructor
  case first =>
    cases more with
    | nil => exact ⟨digitChar a, _, rfl, .inr (isDigit_digitChar ha)⟩
    | cons b more => exact ⟨digitChar a, _, rfl, .inr (isDigit_digitChar ha)⟩
  case all =>
    refine List.forall_mem_append.mpr ⟨List.forall_mem_append.mpr ⟨?_, ?_⟩, hexponent _⟩
    · cases more with
      | nil => exact List.forall_mem_singleton.mpr hfirst
      | cons b more =>
        refine List.forall_mem_cons.mpr ⟨hfirst, List.forall_mem_cons.mpr ⟨by decide, ?_⟩⟩
        exact isNumeral_digitChars hmore
    · exact List.forall_mem_cons.mpr ⟨by decide, List.forall_mem_singleton.mpr (hsign _)⟩
  case mark => simp

/-- A sign before it makes no difference. -/
theorem IsNumeral.minus {cs : List Char} (h : IsNumeral cs) : IsNumeral ('-' :: cs) where
  first := ⟨'-', cs, rfl, .inl rfl⟩
  all := List.forall_mem_cons.mpr ⟨by decide, h.all⟩
  mark := h.mark.imp (List.mem_cons_of_mem _) (List.mem_cons_of_mem _)

/-- **The text of a float begins like a number and is not that of a whole one.** -/
theorem isNumeral_finite (x : Float) : IsNumeral (Layout.exchange.finite x) := by
  have hbody : IsNumeral
      (if (shortest x).digits.isEmpty then
          '0' :: (if Layout.exchange.wholeTail then ['.', '0'] else [])
        else if Layout.exchange.usesExponent (shortest x).point then scientific (shortest x)
        else Layout.exchange.positional (shortest x)) := by
    split
    · have hall : ∀ c ∈ ['0', '.', '0'], isNumeral c := by
        simp only [List.forall_mem_cons]
        exact ⟨by decide, by decide, by decide, fun _ hc => absurd hc List.not_mem_nil⟩
      exact ⟨⟨'0', _, rfl, .inr (by decide)⟩, hall, .inl (by simp [Layout.exchange])⟩
    next hsome =>
    rw [List.isEmpty_iff] at hsome
    split
    · exact isNumeral_scientific hsome (shortest_lt x)
    · exact isNumeral_positional hsome (shortest_lt x)
  unfold Layout.finite
  simp only
  split
  · exact hbody.minus
  · exact hbody

end UsageFeed.Decimal
