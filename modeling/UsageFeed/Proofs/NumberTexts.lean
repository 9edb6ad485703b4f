import UsageFeed.Decimal.Layout
import UsageFeed.Proofs.NearestFloats

/-!
# `UsageFeed.Proofs.NumberTexts` — the texts that spell numbers

What a text has to look like to be read as a number, and which number that is, said without a
reader; then that the readers agree.

## Contents
- **Grammar.** `IsSign`, `SpellsWhole`, `SpellsFraction`, `SpellsExponent`, `SpellsUnsigned` and
  `SpellsDecimal`; `Literal.size`, the number that a literal writes.
- **Digits.** `takeDigits_eq_iff`.
- **Whole numbers.** `readInt?_eq_some_iff`; `spellsWhole_toString`, that they are written so.
- **Decimals.** `readUnsigned?_eq_some_iff`.
- **Floats.** `SpellsFloat` and `readFloat?_eq_some_iff`.
-/

namespace UsageFeed.Decimal

/-! ## Grammar -/

/-- What may stand before a number, and whether it is a minus. -/
inductive IsSign : Bool → List Char → Prop where
  | nothing : IsSign false []
  | plus : IsSign false ['+']
  | minus : IsSign true ['-']

/-- A number with a sign. -/
def signed (negative : Bool) (n : ℕ) : ℤ := if negative then -n else n

/-- A whole number: a sign and digits, one at least. -/
inductive SpellsWhole : List Char → ℤ → Prop where
  | digits {negative : Bool} {sign : List Char} {ds : List ℕ} (sign_of : IsSign negative sign)
      (some : ds ≠ []) (lt : ∀ d ∈ ds, d < 10) :
      SpellsWhole (sign ++ digitChars ds) (signed negative (natOfDigits ds))

/-- A fraction: a point and digits, if anything. -/
inductive SpellsFraction : List Char → List ℕ → Prop where
  | nothing : SpellsFraction [] []
  | digits {ds : List ℕ} (lt : ∀ d ∈ ds, d < 10) : SpellsFraction ('.' :: digitChars ds) ds

/-- An exponent: a letter and a whole number, if anything. -/
inductive SpellsExponent : List Char → ℤ → Prop where
  | nothing : SpellsExponent [] 0
  | whole {c : Char} {s : List Char} {e : ℤ} (letter : c = 'e' ∨ c = 'E')
      (spelled : SpellsWhole s e) : SpellsExponent (c :: s) e

/-- A number without a sign: digits with a point before, among or after them, one digit at least,
and an exponent. -/
inductive SpellsUnsigned : List Char → List ℕ → List ℕ → ℤ → Prop where
  | parts {point power : List Char} {whole fraction : List ℕ} {exponent : ℤ}
      (lt : ∀ d ∈ whole, d < 10) (fraction_of : SpellsFraction point fraction)
      (exponent_of : SpellsExponent power exponent) (some : whole ≠ [] ∨ fraction ≠ []) :
      SpellsUnsigned (digitChars whole ++ (point ++ power)) whole fraction exponent

/-- A decimal number. -/
inductive SpellsDecimal : List Char → Literal → Prop where
  | signed {negative : Bool} {sign s : List Char} {whole fraction : List ℕ} {exponent : ℤ}
      (sign_of : IsSign negative sign) (unsigned : SpellsUnsigned s whole fraction exponent) :
      SpellsDecimal (sign ++ s) ⟨negative, whole, fraction, exponent⟩

/-- The number that a literal writes, without its sign. -/
def Literal.size (l : Literal) : ℚ :=
  natOfDigits (l.whole ++ l.fraction) * 10 ^ (l.exponent - l.fraction.length)

/-- **The value of a literal is what its number reads as.** -/
theorem Literal.reads_value (l : Literal) : Reads l.negative l.size l.value :=
  reads_nearestScaled _ _ _

/-! ## Digits -/

theorem digitValue?_eq_some_iff {c : Char} {d : ℕ} :
    digitValue? c = some d ↔ d < 10 ∧ c = digitChar d := by
  have hall : ∀ d < 10, digitValue? (digitChar d) = some d := by decide
  refine ⟨fun h => ?_, fun ⟨hd, hc⟩ => hc ▸ hall d hd⟩
  unfold digitValue? at h
  split at h
  case isTrue hdigit =>
    obtain rfl := Option.some.inj h
    simp only [Char.isDigit, Bool.and_eq_true, decide_eq_true_eq, UInt32.le_iff_toNat_le] at hdigit
    obtain ⟨hlow, hhigh⟩ : 48 ≤ c.toNat ∧ c.toNat ≤ 57 := hdigit
    refine ⟨by omega, ?_⟩
    rw [digitChar, Nat.add_sub_cancel' hlow, Char.ofNat_toNat]
  case isFalse => cases h

theorem digitChars_append (ds es : List ℕ) :
    digitChars (ds ++ es) = digitChars ds ++ digitChars es :=
  List.map_append

/-- No digit stands at the front. -/
def OpensNoDigit (s : List Char) : Prop := ∀ c ∈ s.head?, digitValue? c = none

theorem OpensNoDigit.nil : OpensNoDigit [] := nofun

theorem takeDigits_cons (c : Char) (s : List Char) : takeDigits (c :: s) =
    match digitValue? c with
    | some d => (d :: (takeDigits s).1, (takeDigits s).2)
    | none => ([], c :: s) := rfl

theorem takeDigits_spec (s : List Char) :
    s = digitChars (takeDigits s).1 ++ (takeDigits s).2 ∧ (∀ d ∈ (takeDigits s).1, d < 10) ∧
      OpensNoDigit (takeDigits s).2 := by
  induction s with
  | nil => exact ⟨rfl, nofun, .nil⟩
  | cons c s ih =>
    obtain ⟨heq, hlt, hrest⟩ := ih
    rw [takeDigits_cons]
    cases hc : digitValue? c with
    | some d =>
      obtain ⟨hd, rfl⟩ := digitValue?_eq_some_iff.mp hc
      exact ⟨congrArg _ heq, List.forall_mem_cons.mpr ⟨hd, hlt⟩, hrest⟩
    | none => exact ⟨rfl, nofun, fun b hb => Option.some.inj hb ▸ hc⟩

theorem takeDigits_append {ds : List ℕ} (hlt : ∀ d ∈ ds, d < 10) {rest : List Char}
    (hrest : OpensNoDigit rest) : takeDigits (digitChars ds ++ rest) = (ds, rest) := by
  induction ds with
  | nil =>
    cases rest with
    | nil => rfl
    | cons c rest => rw [digitChars, List.map_nil, List.nil_append, takeDigits_cons, hrest c rfl]
  | cons d ds ih =>
    obtain ⟨hd, hds⟩ := List.forall_mem_cons.mp hlt
    change takeDigits (digitChar d :: (digitChars ds ++ rest)) = _
    rw [takeDigits_cons, digitValue?_eq_some_iff.mpr ⟨hd, rfl⟩, ih hds]

/-- Digits are taken off as far as they go. -/
theorem takeDigits_eq_iff {s rest : List Char} {ds : List ℕ} : takeDigits s = (ds, rest) ↔
    s = digitChars ds ++ rest ∧ (∀ d ∈ ds, d < 10) ∧ OpensNoDigit rest := by
  constructor
  · intro h
    have hspec := takeDigits_spec s
    rwa [h] at hspec
  · rintro ⟨rfl, hlt, hrest⟩
    exact takeDigits_append hlt hrest

/-! ## Signs -/

/-- No sign stands at the front. -/
def OpensNoSign (s : List Char) : Prop := ∀ c ∈ s.head?, c ≠ '+' ∧ c ≠ '-'

theorem takeSign_append {negative : Bool} {sign s : List Char} (hsign : IsSign negative sign)
    (hs : OpensNoSign s) : takeSign (sign ++ s) = (negative, s) := by
  cases hsign with
  | plus => rfl
  | minus => rfl
  | nothing =>
    cases s with
    | nil => rfl
    | cons c s =>
      obtain ⟨hplus, hminus⟩ := hs c rfl
      unfold takeSign
      split
      · next h => exact absurd (List.cons.inj h).1 hminus
      · next h => exact absurd (List.cons.inj h).1 hplus
      · rfl

theorem exists_of_takeSign (s : List Char) :
    ∃ sign, IsSign (takeSign s).1 sign ∧ s = sign ++ (takeSign s).2 := by
  unfold takeSign
  split
  · exact ⟨_, .minus, rfl⟩
  · exact ⟨_, .plus, rfl⟩
  · exact ⟨_, .nothing, rfl⟩

theorem opensNoSign_digitChars {ds : List ℕ} (hlt : ∀ d ∈ ds, d < 10) {s : List Char}
    (hs : OpensNoSign s) : OpensNoSign (digitChars ds ++ s) := by
  cases ds with
  | nil => exact hs
  | cons d ds =>
    have hall : ∀ d < 10, digitChar d ≠ '+' ∧ digitChar d ≠ '-' := by decide
    intro c hc
    obtain rfl := Option.some.inj hc
    exact hall d (hlt d List.mem_cons_self)

/-! ## Whole numbers -/

theorem readInt?_eq (s : List Char) : readInt? s =
    match takeDigits (takeSign s).2 with
    | ([], _) => none
    | (ds, []) => some (signed (takeSign s).1 (natOfDigits ds))
    | (_, _ :: _) => none := rfl

/-- **Whole numbers are read as they are spelled.** -/
theorem readInt?_eq_some_iff {s : List Char} {z : ℤ} : readInt? s = some z ↔ SpellsWhole s z := by
  constructor
  · intro h
    obtain ⟨sign, hsign, hs⟩ := exists_of_takeSign s
    rw [readInt?_eq] at h
    split at h
    · cases h
    · next ds hsome hdigits =>
      obtain ⟨hrest, hlt, -⟩ := takeDigits_eq_iff.mp hdigits
      rw [hs, hrest, List.append_nil]
      obtain rfl := Option.some.inj h
      exact .digits hsign (fun hds => hsome hds) hlt
    · cases h
  · rintro @⟨negative, sign, ds, hsign, hsome, hlt⟩
    have hdigits := takeDigits_append hlt .nil
    rw [List.append_nil] at hdigits
    have hopens := opensNoSign_digitChars hlt (s := []) nofun
    rw [List.append_nil] at hopens
    rw [readInt?_eq, takeSign_append hsign hopens, hdigits]
    cases ds with
    | nil => exact absurd rfl hsome
    | cons d ds => rfl

theorem exists_toDigits (n : ℕ) : ∃ ds, Nat.toDigits 10 n = digitChars ds ∧ ds ≠ [] ∧
    (∀ d ∈ ds, d < 10) ∧ natOfDigits ds = n := by
  have hdigit : ∀ d < 10, Nat.digitChar d = digitChar d := by decide
  induction n using Nat.strongRecOn with
  | _ n ih =>
    by_cases hsmall : n < 10
    · refine ⟨[n], ?_, List.cons_ne_nil _ _, List.forall_mem_singleton.mpr hsmall, ?_⟩
      · rw [Nat.toDigits_of_lt_base hsmall, hdigit n hsmall]
        rfl
      · simp [natOfDigits]
    · obtain ⟨ds, hds, -, hlt, hvalue⟩ := ih (n / 10) (by omega)
      have hlast : n % 10 < 10 := Nat.mod_lt n (by decide)
      refine ⟨ds ++ [n % 10], ?_, by simp, ?_, ?_⟩
      · rw [Nat.toDigits_of_base_le (by decide) (by omega), hds, hdigit _ hlast, digitChars_append]
        rfl
      · exact List.forall_mem_append.mpr ⟨hlt, List.forall_mem_singleton.mpr hlast⟩
      · rw [natOfDigits, List.foldl_append]
        change 10 * natOfDigits ds + n % 10 = n
        omega

/-- **The text of a whole number spells it.** -/
theorem spellsWhole_toString (z : ℤ) : SpellsWhole (toString z).toList z := by
  have hrepr : ∀ {negative : Bool} {sign : List Char}, IsSign negative sign → ∀ n : ℕ,
      SpellsWhole (sign ++ (Nat.repr n).toList) (signed negative n) := by
    intro negative sign hsign n
    obtain ⟨ds, hds, hsome, hlt, hvalue⟩ := exists_toDigits n
    rw [Nat.repr_eq_ofList_toDigits, String.toList_ofList, hds, ← hvalue]
    exact .digits hsign hsome hlt
  cases z with
  | ofNat n => exact hrepr .nothing n
  | negSucc n =>
    have htext : (toString (Int.negSucc n)).toList = ['-'] ++ (Nat.repr (n + 1)).toList :=
      String.toList_append
    rw [htext]
    exact hrepr .minus (n + 1)

/-! ## Decimals -/

theorem readExponent?_eq_some_iff {s : List Char} {e : ℤ} :
    readExponent? s = some e ↔ SpellsExponent s e := by
  have hwhole : ∀ {c : Char} (s : List Char), c = 'e' ∨ c = 'E' →
      readExponent? (c :: s) = readInt? s := by
    intro c s hc
    have hletter : (c == 'e' || c == 'E') = true := by
      simpa only [Bool.or_eq_true, beq_iff_eq] using hc
    rw [readExponent?, if_pos hletter]
    rfl
  constructor
  · intro h
    cases s with
    | nil =>
      obtain rfl := Option.some.inj h
      exact .nothing
    | cons c s =>
      by_cases hc : c = 'e' ∨ c = 'E'
      · rw [hwhole s hc] at h
        exact .whole hc (readInt?_eq_some_iff.mp h)
      · rw [readExponent?, if_neg (by simpa only [Bool.or_eq_true, beq_iff_eq] using hc)] at h
        cases h
  · rintro (_ | ⟨hc, hspelled⟩)
    · rfl
    · rw [hwhole _ hc]
      exact readInt?_eq_some_iff.mpr hspelled

/-- Takes a fraction off the front. -/
def takeFraction : List Char → List ℕ × List Char
  | '.' :: s => takeDigits s
  | s => ([], s)

theorem readUnsigned?_eq (negative : Bool) (s : List Char) : readUnsigned? negative s =
    (let (whole, t) := takeDigits s
     let (fraction, u) := takeFraction t
     if whole.isEmpty && fraction.isEmpty then none
     else (readExponent? u).map fun e => ⟨negative, whole, fraction, e⟩) := rfl

/-- Neither a digit nor a point stands at the front. -/
def OpensNoFraction (s : List Char) : Prop := OpensNoDigit s ∧ ∀ c ∈ s.head?, c ≠ '.'

theorem SpellsExponent.opens {s : List Char} {e : ℤ} (h : SpellsExponent s e) :
    OpensNoFraction s := by
  cases h with
  | nothing => exact ⟨nofun, nofun⟩
  | whole hc =>
    refine ⟨fun b hb => ?_, fun b hb => ?_⟩
    · obtain rfl := Option.some.inj hb
      rcases hc with rfl | rfl <;> rfl
    · obtain rfl := Option.some.inj hb
      rcases hc with rfl | rfl <;> decide

theorem takeFraction_append {point power : List Char} {fraction : List ℕ}
    (h : SpellsFraction point fraction) (hpower : OpensNoFraction power) :
    takeFraction (point ++ power) = (fraction, power) := by
  cases h with
  | digits hlt => exact takeDigits_append hlt hpower.1
  | nothing =>
    rw [List.nil_append]
    unfold takeFraction
    split
    · exact absurd rfl (hpower.2 '.' rfl)
    · rfl

theorem exists_of_takeFraction (s : List Char) : ∃ point,
    SpellsFraction point (takeFraction s).1 ∧ s = point ++ (takeFraction s).2 := by
  unfold takeFraction
  split
  · next s =>
    obtain ⟨hs, hlt, -⟩ := takeDigits_spec s
    exact ⟨_, .digits hlt, congrArg _ hs⟩
  · exact ⟨_, .nothing, rfl⟩

theorem readUnsigned?_eq_some_iff {negative : Bool} {s : List Char} {l : Literal} :
    readUnsigned? negative s = some l ↔
      l.negative = negative ∧ SpellsUnsigned s l.whole l.fraction l.exponent := by
  rw [readUnsigned?_eq]
  constructor
  · intro h
    rcases hwhole : takeDigits s with ⟨whole, t⟩
    rcases hfraction : takeFraction t with ⟨fraction, u⟩
    obtain ⟨rfl, hlt, -⟩ := takeDigits_eq_iff.mp hwhole
    obtain ⟨point, hpoint, ht⟩ := exists_of_takeFraction t
    rw [hfraction] at hpoint ht
    simp only [hwhole, hfraction] at h
    split at h
    · cases h
    next hsome =>
    obtain ⟨e, he, rfl⟩ := Option.map_eq_some_iff.mp h
    rw [ht]
    refine ⟨rfl, .parts hlt hpoint (readExponent?_eq_some_iff.mp he) ?_⟩
    simpa only [Bool.and_eq_true, List.isEmpty_iff, not_and_or] using hsome
  · obtain ⟨negative', whole, fraction, exponent⟩ := l
    rintro ⟨rfl, @⟨point, power, _, _, _, hlt, hpoint, hpower, hsome⟩⟩
    -- the digits end where the point or the exponent begins
    have hdigits : OpensNoDigit (point ++ power) := by
      cases hpoint with
      | nothing => exact hpower.opens.1
      | digits => exact fun c hc => Option.some.inj hc ▸ rfl
    have hempty : ¬(whole.isEmpty && fraction.isEmpty) = true := by
      simpa only [Bool.and_eq_true, List.isEmpty_iff, not_and_or] using hsome
    simp only [takeDigits_append hlt hdigits, takeFraction_append hpoint hpower.opens,
      if_neg hempty, readExponent?_eq_some_iff.mpr hpower, Option.map_some]

theorem SpellsUnsigned.opensNoSign {s : List Char} {whole fraction : List ℕ} {e : ℤ}
    (h : SpellsUnsigned s whole fraction e) : OpensNoSign s := by
  obtain ⟨hlt, hpoint, hpower, hsome⟩ := h
  cases hpoint with
  | digits => exact opensNoSign_digitChars hlt fun c hc => Option.some.inj hc ▸ by decide
  | nothing =>
    refine opensNoSign_digitChars hlt ?_
    cases hpower with
    | nothing => exact nofun
    | whole hc =>
      intro b hb
      obtain rfl := Option.some.inj hb
      rcases hc with rfl | rfl <;> decide

/-! ## Floats -/

/-- The floats that texts spell. -/
inductive SpellsFloat : List Char → Float → Prop where
  | decimal {s : List Char} {l : Literal} {x : Float} (spelled : SpellsDecimal s l)
      (reads : Reads l.negative l.size x) : SpellsFloat s x
  | infinity {negative : Bool} {sign word : List Char} (sign_of : IsSign negative sign)
      (spelled : String.ofList (word.map Char.toLower) ∈ ["inf", "infinity"]) :
      SpellsFloat (sign ++ word) (infinity negative)
  | notANumber {negative : Bool} {sign word : List Char} (sign_of : IsSign negative sign)
      (spelled : String.ofList (word.map Char.toLower) = "nan") :
      SpellsFloat (sign ++ word) notANumber

theorem readFloat?_eq (s : List Char) : readFloat? s =
    match readUnsigned? (takeSign s).1 (takeSign s).2 with
    | some l => some l.value
    | none => special? (takeSign s).1 (takeSign s).2 := rfl

theorem neg_notANumber : -notANumber = notANumber := by
  decide +kernel

theorem special?_eq_some_iff {negative : Bool} {word : List Char} {x : Float} :
    special? negative word = some x ↔
      String.ofList (word.map Char.toLower) ∈ ["inf", "infinity"] ∧ x = infinity negative ∨
      String.ofList (word.map Char.toLower) = "nan" ∧ x = notANumber := by
  unfold special?
  split
  · next h => simp [h, eq_comm]
  · next h => simp [h, eq_comm]
  · next h => simp [h, eq_comm, neg_notANumber]
  · next hinf hinfinity hnan =>
    refine iff_of_false nofun ?_
    rintro (⟨hword, -⟩ | ⟨hword, -⟩)
    · rcases List.mem_cons.mp hword with h | h
      · exact hinf h
      · exact hinfinity (List.mem_singleton.mp h)
    · exact hnan hword

/-- A word begins with neither a sign nor a digit nor a point. -/
theorem opens_word {word : List Char} {c : Char} {cs : List Char} (hc : c.isAlpha)
    (h : String.ofList (word.map Char.toLower) = String.ofList (c :: cs)) :
    OpensNoSign word ∧ OpensNoFraction word := by
  have hmap : word.map Char.toLower = c :: cs := String.ofList_injective h
  obtain ⟨a, more, rfl, rfl, -⟩ := List.map_eq_cons_iff.mp hmap
  have hother : ∀ b : Char, b.toLower.isAlpha = false → a ≠ b := by
    rintro b hb rfl
    exact Bool.false_ne_true (hb.symm.trans hc)
  refine ⟨fun b hb => ?_, fun b hb => ?_, fun b hb => ?_⟩
  all_goals obtain rfl := Option.some.inj hb
  · exact ⟨hother _ (by decide), hother _ (by decide)⟩
  · rw [Option.eq_none_iff_forall_ne_some]
    intro d hd
    have hall : ∀ d < 10, (digitChar d).toLower.isAlpha = false := by decide
    obtain ⟨hlt, heq⟩ := digitValue?_eq_some_iff.mp hd
    exact hother _ (hall d hlt) heq
  · exact hother _ (by decide)

theorem readUnsigned?_eq_none (negative : Bool) {s : List Char} (h : OpensNoFraction s) :
    readUnsigned? negative s = none := by
  have hwhole : takeDigits s = ([], s) := takeDigits_eq_iff.mpr ⟨rfl, nofun, h.1⟩
  have hfraction : takeFraction s = ([], s) := takeFraction_append .nothing h
  simp only [readUnsigned?_eq, hwhole, hfraction]
  rfl

theorem readFloat?_word {negative : Bool} {sign word : List Char} (hsign : IsSign negative sign)
    (c : Char) (cs : List Char) (hc : c.isAlpha)
    (h : String.ofList (word.map Char.toLower) = String.ofList (c :: cs)) :
    readFloat? (sign ++ word) = special? negative word := by
  obtain ⟨hopens, hfraction⟩ := opens_word hc h
  rw [readFloat?_eq, takeSign_append hsign hopens, readUnsigned?_eq_none negative hfraction]

/-- **Floats are read as they are spelled.** -/
theorem readFloat?_eq_some_iff {s : List Char} {x : Float} :
    readFloat? s = some x ↔ SpellsFloat s x := by
  constructor
  · intro h
    obtain ⟨sign, hsign, hs⟩ := exists_of_takeSign s
    rw [readFloat?_eq] at h
    generalize (takeSign s).1 = negative at *
    generalize (takeSign s).2 = body at *
    subst hs
    split at h
    · next l hl =>
      obtain rfl := Option.some.inj h
      obtain ⟨rfl, hspelled⟩ := readUnsigned?_eq_some_iff.mp hl
      exact .decimal (.signed hsign hspelled) l.reads_value
    · rcases special?_eq_some_iff.mp h with ⟨hword, rfl⟩ | ⟨hword, rfl⟩
      · exact .infinity hsign hword
      · exact .notANumber hsign hword
  · intro h
    cases h with
    | decimal hspelled hreads =>
      obtain @⟨negative, sign, body, whole, fraction, exponent, hsign, hunsigned⟩ := hspelled
      have hread : readUnsigned? negative body = some ⟨negative, whole, fraction, exponent⟩ :=
        readUnsigned?_eq_some_iff.mpr ⟨rfl, hunsigned⟩
      rw [readFloat?_eq, takeSign_append hsign hunsigned.opensNoSign, hread]
      exact congrArg some ((Literal.reads_value _).unique hreads)
    | @infinity negative _ word hsign hword =>
      have hspecial : special? negative word = some (infinity negative) :=
        special?_eq_some_iff.mpr (.inl ⟨hword, rfl⟩)
      rcases List.mem_cons.mp hword with h | h
      · exact (readFloat?_word hsign 'i' ['n', 'f'] (by decide) h).trans hspecial
      · exact (readFloat?_word hsign 'i' "nfinity".toList (by decide)
          (List.mem_singleton.mp h)).trans hspecial
    | notANumber hsign hword =>
      rw [readFloat?_word hsign 'n' ['a', 'n'] (by decide) hword]
      exact special?_eq_some_iff.mpr (.inr ⟨hword, rfl⟩)

end UsageFeed.Decimal
