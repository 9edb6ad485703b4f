import UsageFeed.Proofs.Settings

/-!
# `UsageFeed.Proofs.CountSettings` — which texts count

Where a number is asked for, the text of a variable need not spell a whole number: flags and a few
words count as one and zero, and other numbers count as the whole number next to them. What the
setting cannot hold is refused.

## Contents
- **Small letters.** A text spells the same float in small letters (`SpellsFloat.map_small`).
- **Settings.** `CountField`, the settings that are numbers.
- **Rounding.** `IsCount`, the count of a float, and `countOfFloat_eq_iff`.
- **Texts.** `CountOf`, what a text counts as, and `Refused`, why it is refused;
  `toCount_eq_ok_iff` and `toCount_eq_error_iff`. No word that counts is a number
  (`SpellsSwitch.not_spellsFloat`).
- **Loading.** `count_setting`, and a text that counts without being a whole number
  (`port_rounded`).
-/

namespace UsageFeed

/-! ## Small letters -/

namespace Decimal

open Text (small)

theorem IsSign.map_small {negative : Bool} {sign : List Char} (h : IsSign negative sign) :
    sign.map small = sign := by
  cases h <;> rfl

theorem map_small_digitChars {ds : List ℕ} (hlt : ∀ d ∈ ds, d < 10) :
    (digitChars ds).map small = digitChars ds := by
  have hdigit : ∀ d < 10, small (digitChar d) = digitChar d := by decide +kernel
  rw [digitChars, List.map_map]
  exact List.map_congr_left fun d hd => hdigit d (hlt d hd)

theorem SpellsWhole.map_small {s : List Char} {z : ℤ} (h : SpellsWhole s z) :
    s.map small = s := by
  cases h with
  | digits hsign _ hlt => rw [List.map_append, hsign.map_small, map_small_digitChars hlt]

theorem SpellsFraction.map_small {s : List Char} {ds : List ℕ} (h : SpellsFraction s ds) :
    s.map small = s := by
  cases h with
  | nothing => rfl
  | digits hlt =>
    rw [List.map_cons, map_small_digitChars hlt]
    rfl

theorem SpellsExponent.map_small {s : List Char} {e : ℤ} (h : SpellsExponent s e) :
    SpellsExponent (s.map small) e := by
  cases h with
  | nothing => exact .nothing
  | @whole c s e hletter hspelled =>
    have hsmall : small c = 'e' := by rcases hletter with rfl | rfl <;> decide
    rw [List.map_cons, hsmall, hspelled.map_small]
    exact .whole (.inl rfl) hspelled

theorem SpellsUnsigned.map_small {s : List Char} {whole fraction : List ℕ} {e : ℤ}
    (h : SpellsUnsigned s whole fraction e) : SpellsUnsigned (s.map small) whole fraction e := by
  cases h with
  | parts hlt hfraction hexponent hsome =>
    rw [List.map_append, List.map_append, map_small_digitChars hlt, hfraction.map_small]
    exact .parts hlt hfraction hexponent.map_small hsome

theorem SpellsDecimal.map_small {s : List Char} {l : Literal} (h : SpellsDecimal s l) :
    SpellsDecimal (s.map small) l := by
  cases h with
  | signed hsign hunsigned =>
    rw [List.map_append, hsign.map_small]
    exact .signed hsign hunsigned.map_small

/-- Plain letters have plain small ones only. -/
theorem plain_of_toLower {c : Char} (h : c.toLower.toNat < 0x80) : c.toNat < 0x80 := by
  by_cases hupper : c.toNat < 0x80
  · exact hupper
  · have hsame : c.toLower = c := by
      unfold Char.toLower
      refine dif_neg fun hc => hupper ?_
      exact Nat.lt_of_le_of_lt (UInt32.le_iff_toNat_le.mp hc.2) (by decide)
    rwa [hsame] at h

/-- The names of what is no ordinary number are read in small letters. -/
theorem map_toLower_map_small {word : List Char} {name : String} (hplain : Text.IsPlain name.toList)
    (hlower : name.toList.map Char.toLower = name.toList)
    (h : String.ofList (word.map Char.toLower) = name) :
    String.ofList ((word.map small).map Char.toLower) = name := by
  obtain rfl := h
  rw [String.toList_ofList] at hplain hlower
  have hsmall : word.map small = word.map Char.toLower := by
    refine List.map_congr_left fun c hc => if_pos (plain_of_toLower ?_)
    exact hplain _ (List.mem_map_of_mem hc)
  rw [hsmall, hlower]

/-- **In small letters, a text spells the same float.** -/
theorem SpellsFloat.map_small {s : List Char} {x : Float} (h : SpellsFloat s x) :
    SpellsFloat (s.map small) x := by
  have hnames : ∀ name ∈ ["inf", "infinity", "nan"], Text.IsPlain name.toList ∧
      name.toList.map Char.toLower = name.toList := by
    decide +kernel
  cases h with
  | decimal hspelled hreads => exact .decimal hspelled.map_small hreads
  | @infinity negative sign word hsign hword =>
    obtain ⟨hplain, hlower⟩ := hnames _ (List.mem_append_left ["nan"] hword)
    rw [List.map_append, hsign.map_small]
    refine .infinity hsign ?_
    rwa [map_toLower_map_small hplain hlower rfl]
  | notANumber hsign hword =>
    obtain ⟨hplain, hlower⟩ := hnames "nan" (by decide)
    rw [List.map_append, hsign.map_small]
    exact .notANumber hsign (map_toLower_map_small hplain hlower hword)

/-- Whole numbers are floats as well. -/
theorem SpellsWhole.spellsFloat {s : List Char} {z : ℤ} (h : SpellsWhole s z) :
    ∃ x, SpellsFloat s x := by
  cases h with
  | @digits negative sign ds hsign hsome hlt =>
    have hunsigned : SpellsUnsigned (digitChars ds ++ ([] ++ [])) ds [] 0 :=
      .parts hlt .nothing .nothing (.inl hsome)
    rw [List.append_nil, List.append_nil] at hunsigned
    exact ⟨_, .decimal (.signed hsign hunsigned) (Literal.reads_value _)⟩

end Decimal

namespace Config

/-! ## Settings -/

/-- The settings that are numbers. -/
inductive CountField where
  | servicePort
  | timeoutSeconds
  | apiPort
  | trialNumber
  deriving DecidableEq, Repr

namespace CountField

/-- The key of a setting. -/
def key : CountField → String
  | servicePort => "kruize_port"
  | timeoutSeconds => "request_timeout_secs"
  | apiPort => "api_port"
  | trialNumber => "trial_number"

/-- How many bits a setting has. -/
def bits : CountField → ℕ
  | servicePort => 16
  | timeoutSeconds => 64
  | apiPort => 16
  | trialNumber => 32

/-- A configuration with another number for a setting. -/
def put : CountField → Config → ℕ → Config
  | servicePort, c, n => { c with servicePort := n }
  | timeoutSeconds, c, n => { c with timeoutSeconds := n }
  | apiPort, c, n => { c with apiPort := n }
  | trialNumber, c, n => { c with trialNumber := n }

/-- Where the name of a setting stands among all names. -/
def place : CountField → ℕ
  | servicePort => 9
  | timeoutSeconds => 11
  | apiPort => 12
  | trialNumber => 14

variable (f : CountField)

/-- Each setting is taken over under its key. -/
theorem mem_names : countName f.key f.bits f.put ∈ names := by
  have hplace : names[f.place]? = some (countName f.key f.bits f.put) := by cases f <;> rfl
  exact List.mem_of_getElem? hplace

theorem isKey : IsKey f.key := isKey_of_mem f.mem_names

end CountField

/-! ## Rounding -/

/-- What a float counts as: the whole number next to it, a half going up, within 64 bits. Negative
numbers, and what is no number, count as zero. -/
inductive IsCount : Float → ℕ → Prop where
  | notANumber : IsCount Decimal.notANumber 0
  | negative {x : Float} (sign : Decimal.isNegative x = true) : IsCount x 0
  | infinite : IsCount (Decimal.infinity false) (2 ^ 64 - 1)
  | finite {x : Float} (finite : Decimal.isFinite x = true)
      (sign : Decimal.isNegative x = false) :
      IsCount x (min ⌊(Decimal.parts x).size + 1 / 2⌋₊ (2 ^ 64 - 1))

/-- What is over a half of the unit below is rounded up. -/
theorem floor_add_half (m : ℕ) {unit : ℕ} (hunit : 0 < unit) :
    ⌊(m : ℚ) / unit + 1 / 2⌋₊ = (2 * m + unit) / (2 * unit) := by
  have hsum : (m : ℚ) / unit + 1 / 2 = ((2 * m + unit : ℕ) : ℚ) / ((2 * unit : ℕ) : ℚ) := by
    have hne : (unit : ℚ) ≠ 0 := Nat.cast_ne_zero.mpr hunit.ne'
    push_cast
    field_simp
  rw [hsum, Nat.floor_div_eq_div]

theorem floor_size_add_half (p : Decimal.Parts) : ⌊p.size + 1 / 2⌋₊ =
    if p.exponent < 0 then (2 * p.mantissa + 2 ^ p.exponent.natAbs) / (2 * 2 ^ p.exponent.natAbs)
    else p.mantissa * 2 ^ p.exponent.natAbs := by
  rw [Decimal.Parts.size]
  split
  case isTrue h =>
    rw [Decimal.zpow_neg_natAbs 2 h, ← div_eq_mul_inv, floor_add_half _ (Nat.two_pow_pos _)]
  case isFalse h =>
    have hhalf : ⌊(1 / 2 : ℚ)⌋₊ = 0 := Nat.floor_eq_zero.mpr (by norm_num)
    rw [Decimal.zpow_natAbs 2 (Int.not_lt.mp h), ← Nat.cast_mul, add_comm,
      Nat.floor_add_natCast (by norm_num), hhalf, Nat.zero_add]

/-- **Floats are counted by rounding.** -/
theorem countOfFloat_eq_iff {x : Float} {n : ℕ} : Setting.countOfFloat x = n ↔ IsCount x n := by
  unfold Setting.countOfFloat
  simp only [Nat.pow_eq, ← floor_size_add_half]
  constructor
  · rintro rfl
    split
    case isTrue h =>
      rcases Bool.or_eq_true_iff.mp h with hnan | hsign
      · exact Decimal.isNaN_iff.mp hnan ▸ .notANumber
      · exact .negative hsign
    case isFalse h =>
      obtain ⟨hnan, hsign⟩ := Bool.or_eq_false_iff.mp (Bool.not_eq_true _ ▸ h)
      split
      case isTrue hfinite =>
        have hexponent : Decimal.exponentBits x = 2047 := by
          simpa [Decimal.isFinite] using hfinite
        have hfraction : Decimal.fractionBits x = 0 := by
          by_contra hne
          exact absurd (Decimal.isNaN_iff_bits.mpr ⟨hexponent, hne⟩) (by rw [hnan]; decide)
        rw [Decimal.eq_infinity hexponent hfraction, hsign]
        exact .infinite
      case isFalse hfinite =>
        rw [Bool.not_eq_true', Bool.not_eq_false] at hfinite
        exact .finite hfinite hsign
  · intro h
    cases h with
    | notANumber => rfl
    | negative hsign => rw [hsign, Bool.or_true, if_pos rfl]
    | infinite => rfl
    | finite hfinite hsign =>
      have hnan : x.isNaN = false := by
        refine Bool.eq_false_iff.mpr fun h => ?_
        exact bne_iff_ne.mp hfinite (Decimal.isNaN_iff_bits.mp h).1
      rw [hnan, hsign, hfinite]
      rfl

/-! ## Texts -/

/-- The words for one and those for zero. -/
def switchWords : Bool → List String
  | true => ["true", "on", "yes"]
  | false => ["false", "off", "no"]

/-- A text is a word for one or for zero, with letters of any size. -/
def SpellsSwitch (v : String) (b : Bool) : Prop := Text.toSmall v ∈ switchWords b

/-- What a text counts as: a word as one or zero, a whole number as itself, and any other number as
the whole number next to it. -/
inductive CountOf (v : String) : ℕ → Prop where
  | word {b : Bool} (spelled : SpellsSwitch v b) : CountOf v b.toNat
  | whole {n : ℕ} (spelled : SpellsLong v n) : CountOf v n
  | rounded {x : Float} {n : ℕ} (noWhole : ∀ z, ¬SpellsLong v z)
      (spelled : Decimal.SpellsFloat v.toList x) (count : IsCount x n) : CountOf v n

/-- Why a text counts as nothing. -/
inductive Uncounted (v : String) : Mismatch → Prop where
  | negative {z : ℤ} (spelled : SpellsLong v z) (lt : z < 0) : Uncounted v (.negative z)
  | wrongText (noWord : ∀ b, ¬SpellsSwitch v b)
      (noFloat : ∀ x, ¬Decimal.SpellsFloat v.toList x) : Uncounted v (.wrongText v .count)

/-- Why a text is refused where a number of so many bits is asked for. -/
inductive Refused (v : String) (bits : ℕ) : Mismatch → Prop where
  | uncounted {m : Mismatch} (uncounted : Uncounted v m) : Refused v bits m
  | tooLarge {n : ℕ} (count : CountOf v n) (le : 2 ^ bits ≤ n) : Refused v bits (.tooLarge n bits)

variable {v : String} {bits : ℕ}

theorem SpellsFlag.spellsSwitch {b : Bool} (h : SpellsFlag v b) : SpellsSwitch v b := by
  rw [SpellsSwitch, h]
  cases b <;> decide

/-- No word that counts is a number. -/
theorem SpellsSwitch.not_spellsFloat {b : Bool} (h : SpellsSwitch v b) (x : Float) :
    ¬Decimal.SpellsFloat v.toList x := by
  intro hx
  have hwords : ∀ b, ∀ word ∈ switchWords b,
      Text.IsPlain word.toList ∧ (Decimal.readFloat? word.toList).isNone = true := by
    decide +kernel
  obtain ⟨hplain, hnone⟩ := hwords b _ h
  rw [Environment.toList_toSmall] at hplain hnone
  rw [Text.smallFrom_eq_map (Text.isSpecial_of_isPlain hplain),
    Decimal.readFloat?_eq_some_iff.mpr hx.map_small] at hnone
  cases hnone

/-- A text that is no float is no whole number. -/
theorem not_spellsLong (h : ∀ x, ¬Decimal.SpellsFloat v.toList x) (z : ℤ) : ¬SpellsLong v z := by
  intro hz
  obtain ⟨x, hx⟩ := hz.spelled.spellsFloat
  exact h x hx

theorem SpellsFlag.not_spellsLong {b : Bool} (h : SpellsFlag v b) (z : ℤ) : ¬SpellsLong v z :=
  Config.not_spellsLong h.spellsSwitch.not_spellsFloat z

/-- A word counts as one or zero, be it a flag or no more than a text. -/
theorem SpellsSwitch.toWideCount {b : Bool} (h : SpellsSwitch v b) :
    (Setting.ofText v).toWideCount = .ok b.toNat := by
  -- two of the words are flags before they are asked for as numbers
  by_cases hflag : ∃ b, SpellsFlag v b
  · obtain ⟨b', hflag⟩ := hflag
    rw [SpellsSwitch, hflag] at h
    rw [ofText_eq_iff.mpr (.flag hflag)]
    revert h
    cases b <;> cases b' <;> decide
  · have hnoFloat := h.not_spellsFloat
    rw [ofText_eq_iff.mpr (.text (not_exists.mp hflag) (not_spellsLong hnoFloat) hnoFloat)]
    rw [SpellsSwitch] at h
    simp only [Setting.toWideCount]
    generalize Text.toSmall v = small at *
    cases b with
    | true => exact if_pos h
    | false =>
      have hother : ∀ small ∈ switchWords false, small ∉ switchWords true := by decide
      exact (if_neg (hother _ h)).trans (if_pos h)

theorem CountOf.toWideCount {n : ℕ} (h : CountOf v n) :
    (Setting.ofText v).toWideCount = .ok n := by
  cases h with
  | word hspelled => exact hspelled.toWideCount
  | @whole n hspelled =>
    have hnoFlag : ∀ b, ¬SpellsFlag v b := fun _ hflag => hflag.not_spellsLong _ hspelled
    rw [ofText_eq_iff.mpr (.whole hnoFlag hspelled), Setting.toWideCount,
      if_pos (Int.natCast_nonneg n), Int.toNat_natCast]
  | @rounded x _ hnoWhole hspelled hcount =>
    have hnoFlag : ∀ b, ¬SpellsFlag v b := fun _ hflag =>
      hflag.spellsSwitch.not_spellsFloat x hspelled
    rw [ofText_eq_iff.mpr (.float hnoFlag hnoWhole hspelled)]
    exact congrArg Except.ok (countOfFloat_eq_iff.mpr hcount)

theorem Uncounted.toWideCount {m : Mismatch} (h : Uncounted v m) :
    (Setting.ofText v).toWideCount = .error m := by
  cases h with
  | @negative z hspelled hlt =>
    have hnoFlag : ∀ b, ¬SpellsFlag v b := fun _ hflag => hflag.not_spellsLong _ hspelled
    rw [ofText_eq_iff.mpr (.whole hnoFlag hspelled), Setting.toWideCount, if_neg (not_le.mpr hlt)]
  | wrongText hnoWord hnoFloat =>
    have hnoFlag : ∀ b, ¬SpellsFlag v b := fun b hflag => hnoWord b hflag.spellsSwitch
    rw [ofText_eq_iff.mpr (.text hnoFlag (not_spellsLong hnoFloat) hnoFloat), Setting.toWideCount]
    exact (if_neg (hnoWord true)).trans (if_neg (hnoWord false))

/-- A text counts or does not. -/
theorem counts_or_not (v : String) : (∃ n, CountOf v n) ∨ ∃ m, Uncounted v m := by
  by_cases hword : ∃ b, SpellsSwitch v b
  · obtain ⟨b, hword⟩ := hword
    exact .inl ⟨_, .word hword⟩
  by_cases hwhole : ∃ z, SpellsLong v z
  · obtain ⟨z, hwhole⟩ := hwhole
    rcases lt_or_ge z 0 with hlt | hge
    · exact .inr ⟨_, .negative hwhole hlt⟩
    · obtain ⟨n, rfl⟩ := Int.eq_ofNat_of_zero_le hge
      exact .inl ⟨n, .whole hwhole⟩
  by_cases hfloat : ∃ x, Decimal.SpellsFloat v.toList x
  · obtain ⟨x, hfloat⟩ := hfloat
    exact .inl ⟨_, .rounded (not_exists.mp hwhole) hfloat (countOfFloat_eq_iff.mp rfl)⟩
  · exact .inr ⟨_, .wrongText (not_exists.mp hword) (not_exists.mp hfloat)⟩

theorem CountOf.toCount {n : ℕ} (h : CountOf v n) (hlt : n < 2 ^ bits) :
    (Setting.ofText v).toCount bits = .ok n := by
  rw [Setting.toCount, h.toWideCount]
  exact if_pos hlt

theorem Refused.toCount {m : Mismatch} (h : Refused v bits m) :
    (Setting.ofText v).toCount bits = .error m := by
  cases h with
  | uncounted hnot => rw [Setting.toCount, hnot.toWideCount]; rfl
  | tooLarge hcount hle =>
    rw [Setting.toCount, hcount.toWideCount]
    exact if_neg (Nat.not_lt.mpr hle)

theorem counts_or_refused (v : String) (bits : ℕ) :
    (∃ n, CountOf v n ∧ n < 2 ^ bits) ∨ ∃ m, Refused v bits m := by
  rcases counts_or_not v with ⟨n, hcount⟩ | ⟨m, hnot⟩
  · rcases Nat.lt_or_ge n (2 ^ bits) with hlt | hle
    · exact .inl ⟨n, hcount, hlt⟩
    · exact .inr ⟨_, .tooLarge hcount hle⟩
  · exact .inr ⟨m, .uncounted hnot⟩

/-- **A setting holds what its text counts as**, if it is not too large. -/
theorem toCount_eq_ok_iff {n : ℕ} :
    (Setting.ofText v).toCount bits = .ok n ↔ CountOf v n ∧ n < 2 ^ bits := by
  refine ⟨fun h => ?_, fun ⟨hcount, hlt⟩ => hcount.toCount hlt⟩
  rcases counts_or_refused v bits with ⟨n', hcount, hlt⟩ | ⟨m, hrefused⟩
  · exact Except.ok.inj (h.symm.trans (hcount.toCount hlt)) ▸ ⟨hcount, hlt⟩
  · cases h.symm.trans hrefused.toCount

theorem toCount_eq_error_iff {m : Mismatch} :
    (Setting.ofText v).toCount bits = .error m ↔ Refused v bits m := by
  refine ⟨fun h => ?_, Refused.toCount⟩
  rcases counts_or_refused v bits with ⟨n, hcount, hlt⟩ | ⟨m', hrefused⟩
  · cases h.symm.trans (hcount.toCount hlt)
  · exact Except.error.inj (h.symm.trans hrefused.toCount) ▸ hrefused

/-! ## Loading -/

variable {env : Environment} {name : String}

section Loading

variable (f : CountField) (hname : Sets name f.key) (honly : env.IsOnly name v)
include hname honly

/-- In an environment with one variable, loading looks at no other setting. -/
theorem ofEnvironment_count : ofEnvironment env =
    match (Setting.ofText v).toCount f.bits with
    | .ok n => .ok (f.put {} n)
    | .error m => .error ⟨f.key, m⟩ := by
  obtain ⟨hset, hothers⟩ := Environment.setting?_of_isOnly honly f.isKey hname
  rw [ofEnvironment_eq_apply f.mem_names hothers, Name.apply, countName, hset]
  simp only
  cases (Setting.ofText v).toCount f.bits <;> rfl

/-- **Numbers are rounded, and refused where they do not fit.** In an environment with one variable,
for a setting that is a number, loading succeeds just if the text of the variable counts as a number
that the setting can hold. The setting is that number then. -/
theorem count_setting :
    (∀ c, ofEnvironment env = .ok c ↔ ∃ n, CountOf v n ∧ n < 2 ^ f.bits ∧ c = f.put {} n) ∧
      ∀ e, ofEnvironment env = .error e ↔ ∃ m, Refused v f.bits m ∧ e = ⟨f.key, m⟩ := by
  rw [ofEnvironment_count f hname honly]
  refine ⟨fun c => ⟨fun h => ?_, ?_⟩, fun e => ⟨fun h => ?_, ?_⟩⟩
  · split at h
    · next n hn =>
      obtain ⟨hcount, hlt⟩ := toCount_eq_ok_iff.mp hn
      exact ⟨n, hcount, hlt, (Except.ok.inj h).symm⟩
    · cases h
  · rintro ⟨n, hcount, hlt, rfl⟩
    rw [hcount.toCount hlt]
  · split at h
    · cases h
    · next m hm => exact ⟨m, toCount_eq_error_iff.mp hm, (Except.error.inj h).symm⟩
  · rintro ⟨m, hrefused, rfl⟩
    rw [hrefused.toCount]

end Loading

/-- A port with a half is rounded. -/
theorem port_loads :
    ofEnvironment [("ROSOCP_KRUIZE_PORT", "80.5")] = .ok { servicePort := 81 } := by
  decide +kernel

theorem port_sets : Sets "ROSOCP_KRUIZE_PORT" CountField.servicePort.key := by
  rw [Sets]
  decide +kernel

theorem port_isOnly :
    Environment.IsOnly [("ROSOCP_KRUIZE_PORT", "80.5")] "ROSOCP_KRUIZE_PORT" "80.5" :=
  ⟨List.mem_singleton_self _, fun _ hp _ => List.mem_singleton.mp hp⟩

theorem count_setting_port : ∃ n, CountOf "80.5" n ∧ n < 2 ^ CountField.servicePort.bits ∧
    ({ servicePort := 81 } : Config) = CountField.servicePort.put {} n :=
  ((count_setting .servicePort port_sets port_isOnly).1 _).mp port_loads

/-- Not only whole numbers load: a port with a half does. -/
theorem port_rounded :
    ¬ ∀ (env : Environment) (name v : String) (f : CountField) (c : Config),
        Sets name f.key → env.IsOnly name v → ofEnvironment env = .ok c →
          ∃ n : ℕ, Decimal.SpellsWhole v.toList n ∧ n < 2 ^ f.bits ∧ c = f.put {} n := by
  intro h
  obtain ⟨n, hspelled, -⟩ := h _ _ _ .servicePort _ port_sets port_isOnly port_loads
  have hread := Decimal.readInt?_eq_some_iff.mpr hspelled
  have hnone : Decimal.readInt? "80.5".toList = none := by decide +kernel
  cases hnone.symm.trans hread

end Config
end UsageFeed
