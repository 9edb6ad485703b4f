import Mathlib.Data.List.TakeDrop
import Mathlib.Data.List.TakeWhile
import UsageFeed.Config
import UsageFeed.Proofs.NumberTexts

/-!
# `UsageFeed.Proofs.Settings` — which variable a setting comes from

Names of variables are compared in small letters, a variable may stand for a part of a setting, and
of several variables the last one counts. Here the look-up is said by the variables themselves.

## Contents
- **Small letters.** `smallFrom_eq_map`: for plain names each letter goes its own way.
- **Names.** `Sets`, a variable that sets a setting, and `settingName?_eq_some_iff`.
- **Look-up.** `IsSet`, what a setting is set to last, and `setting?_of_isSet`; `IsOnly` for an
  environment with one setting.
- **Loading.** `apply_eq_ok_iff` for one setting; `ofEnvironment_eq_apply`, where there is one only.
-/

namespace UsageFeed

/-! ## Small letters -/

namespace Text

/-- Characters of one byte. -/
def IsPlain (s : List Char) : Prop := ∀ c ∈ s, c.toNat < 0x80

instance : DecidablePred IsPlain := fun s =>
  List.decidableBAll (fun c : Char => c.toNat < 0x80) s

/-- The letters whose small letters are not found one by one. -/
def isSpecial (c : Char) : Bool := c == '\u0130' || c == '\u03A3'

theorem smallFrom_cons {c : Char} (h : isSpecial c = false) (before s : List Char) :
    smallFrom before (c :: s) = small c :: smallFrom (c :: before) s := by
  obtain ⟨hdot, hsigma⟩ := Bool.or_eq_false_iff.mp h
  rw [smallFrom, hdot, hsigma]
  rfl

/-- Special letters show among small ones. -/
theorem smallFrom_special {c : Char} (h : isSpecial c = true) (before s : List Char) :
    ∃ d, 0x80 ≤ d.toNat ∧ (smallFrom before (c :: s) = d :: smallFrom (c :: before) s ∨
      smallFrom before (c :: s) = 'i' :: d :: smallFrom (c :: before) s) := by
  rcases Bool.or_eq_true_iff.mp h with hc | hc
  · exact ⟨'\u0307', by decide, .inr (by rw [smallFrom, if_pos hc]; rfl)⟩
  · obtain rfl := beq_iff_eq.mp hc
    refine ⟨if endsWord before s then '\u03C2' else '\u03C3', ?_, .inl ?_⟩
    · split <;> decide
    · rw [smallFrom]
      rfl

/-- Where nothing special stands, letters become small one by one. -/
theorem smallFrom_eq_map {s : List Char} (h : ∀ c ∈ s, isSpecial c = false) (before : List Char) :
    smallFrom before s = s.map small := by
  induction s generalizing before with
  | nil => rfl
  | cons c s ih =>
    obtain ⟨hc, hs⟩ := List.forall_mem_cons.mp h
    rw [smallFrom_cons hc, ih hs, List.map_cons]

theorem isSpecial_of_isPlain {s before : List Char} (h : IsPlain (smallFrom before s)) :
    ∀ c ∈ s, isSpecial c = false := by
  induction s generalizing before with
  | nil => exact nofun
  | cons c s ih =>
    cases hc : isSpecial c with
    | false =>
      rw [smallFrom_cons hc] at h
      exact List.forall_mem_cons.mpr ⟨hc, ih (List.forall_mem_cons.mp h).2⟩
    | true =>
      obtain ⟨d, hd, heq | heq⟩ := smallFrom_special hc before s
      · exact absurd (h d (by simp [heq])) (Nat.not_lt.mpr hd)
      · exact absurd (h d (by simp [heq])) (Nat.not_lt.mpr hd)

/-- A beginning in small letters is that of as many letters. -/
theorem exists_of_prefix {pre rest s before : List Char} (hpre : ∀ c ∈ pre, c.toNat < 0x80 ∧ c ≠ 'i')
    (h : smallFrom before s = pre ++ rest) :
    ∃ s', s = s' ++ s.drop pre.length ∧ s'.length = pre.length ∧
      (∀ c ∈ s', isSpecial c = false) ∧ s'.map small = pre := by
  induction pre generalizing s before with
  | nil => exact ⟨[], rfl, rfl, nofun, rfl⟩
  | cons p pre ih =>
    obtain ⟨⟨hp, hi⟩, hpre⟩ := List.forall_mem_cons.mp hpre
    cases s with
    | nil => cases h
    | cons c s =>
      cases hc : isSpecial c with
      | false =>
        rw [smallFrom_cons hc] at h
        obtain ⟨hsmall, hrest⟩ := List.cons.inj h
        obtain ⟨s', hs', hlength, hspecial, hmap⟩ := ih hpre hrest
        refine ⟨c :: s', congrArg _ hs', congrArg (· + 1) hlength, ?_, ?_⟩
        · exact List.forall_mem_cons.mpr ⟨hc, hspecial⟩
        · rw [List.map_cons, hsmall, hmap]
      | true =>
        obtain ⟨d, hd, heq | heq⟩ := smallFrom_special hc before s
        · obtain rfl := (List.cons.inj (heq.symm.trans h)).1
          exact absurd hp (Nat.not_lt.mpr hd)
        · exact absurd (List.cons.inj (heq.symm.trans h)).1.symm hi

end Text

namespace Config

/-! ## Names -/

/-- A variable that sets the setting of a key: in small letters its name is the beginning of the
names of settings and then the key. -/
def Sets (variableName key : String) : Prop := Text.toSmall variableName = "rosocp_" ++ key

/-- A variable for a setting, whichever. -/
def IsOurs (variableName : String) : Prop := "rosocp_".toList <+: (Text.toSmall variableName).toList

/-- A key that stands for itself: no letters but plain ones and nothing that sets parts apart. -/
structure IsKey (key : String) : Prop where
  plain : Text.IsPlain key.toList
  name : ∀ c ∈ key.toList, Environment.isNameChar c = true
  some : key.toList ≠ []

namespace Environment

variable {env : Environment} {name key value : String}

theorem toList_toSmall (s : String) : (Text.toSmall s).toList = Text.smallFrom [] s.toList :=
  String.toList_ofList

theorem sets_iff : Sets name key ↔
    Text.smallFrom [] name.toList = opening ++ key.toList := by
  rw [Sets, ← String.toList_inj, toList_toSmall, String.toList_append]
  rfl

/-- The setting of a variable is the one that it sets. -/
theorem settingName?_eq_some_iff (hkey : Text.IsPlain key.toList) :
    settingName? name = some key.toList ↔ Sets name key := by
  have hopening : ∀ c ∈ opening, c.toNat < 0x80 ∧ c ≠ 'i' := by
    have hall : opening.all (fun c => decide (c.toNat < 0x80 ∧ c ≠ 'i')) = true := by decide
    exact fun c hc => of_decide_eq_true (List.all_eq_true.mp hall c hc)
  have hrest : (Text.toSmall (String.ofList (name.toList.drop opening.length))).toList =
      Text.smallFrom [] (name.toList.drop opening.length) := by
    rw [toList_toSmall, String.toList_ofList]
  rw [sets_iff, settingName?, toList_toSmall, hrest]
  constructor
  · intro h
    split at h
    case isFalse => cases h
    case isTrue hprefix =>
      -- the rest is made small on its own, which makes no difference where all of it is plain
      obtain ⟨rest, hrest⟩ := List.isPrefixOf_iff_prefix.mp hprefix
      obtain ⟨s', hname, -, hspecial, hmap⟩ := Text.exists_of_prefix hopening hrest.symm
      have hsmall : Text.smallFrom [] (name.toList.drop opening.length) = key.toList :=
        Option.some.inj h
      have hdrop := Text.isSpecial_of_isPlain (hsmall ▸ hkey)
      rw [Text.smallFrom_eq_map hdrop] at hsmall
      rw [hname, Text.smallFrom_eq_map (List.forall_mem_append.mpr ⟨hspecial, hdrop⟩),
        List.map_append, hmap, hsmall]
  · intro h
    have hplain : Text.IsPlain (Text.smallFrom [] name.toList) := by
      rw [h]
      exact List.forall_mem_append.mpr ⟨fun c hc => (hopening c hc).1, hkey⟩
    have hspecial := Text.isSpecial_of_isPlain hplain
    have hdrop : Text.smallFrom [] (name.toList.drop opening.length) = key.toList := by
      rw [Text.smallFrom_eq_map fun c hc => hspecial c (List.mem_of_mem_drop hc), List.map_drop,
        ← Text.smallFrom_eq_map hspecial [], h, List.drop_left]
    rw [h, if_pos (List.isPrefixOf_iff_prefix.mpr (List.prefix_append _ _)), hdrop]

theorem settingName?_eq_none_iff : settingName? name = none ↔ ¬IsOurs name := by
  rw [settingName?, IsOurs, ← List.isPrefixOf_iff_prefix]
  change (if opening.isPrefixOf _ = true then _ else _) = none ↔ ¬opening.isPrefixOf _ = true
  split
  case isTrue h => exact iff_of_false nofun (not_not.mpr h)
  case isFalse h => exact iff_of_true rfl h

/-! ## Look-up -/

/-- The setting of a key has the key for its name. -/
theorem setting_key (h : IsKey key) (value : String) :
    setting key.toList value = (key, .ofText value) := by
  have hspan : key.toList.span isNameChar = (key.toList, []) := by
    rw [List.span_eq_takeWhile_dropWhile, List.takeWhile_eq_self_iff.mpr h.name,
      List.dropWhile_eq_nil_iff.mpr h.name]
  have hpart : (!key.toList.isEmpty && isTail 1 []) = true := by
    rw [Bool.and_eq_true, Bool.not_eq_true', List.isEmpty_eq_false_iff]
    exact ⟨h.some, rfl⟩
  simp only [setting, hspan, List.length_nil, Nat.zero_add, hpart, if_true, String.ofList_toList]

/-- What has the key of a setting is its text, or stands for a part of it. -/
theorem setting_cases {name : List Char} (h : (setting name value).1 = key) :
    name = key.toList ∨ (setting name value).2 = .group ∨ (setting name value).2 = .sequence := by
  have happend : (name.span isNameChar).1 ++ (name.span isNameChar).2 = name := by
    rw [List.span_eq_takeWhile_dropWhile, List.takeWhile_append_dropWhile]
  unfold setting at h ⊢
  generalize name.span isNameChar = parts at *
  obtain ⟨part, tail⟩ := parts
  simp only at h happend ⊢
  split at h
  case isFalse => exact .inl (by rw [← h, String.toList_ofList])
  case isTrue hpart =>
    rw [if_pos hpart]
    split
    · exact .inl (by rw [← happend, ← h, List.append_nil, String.toList_ofList])
    · exact .inr (.inr rfl)
    · exact .inr (.inl rfl)

/-- The text that a setting is set to: that of the last variable for it. -/
def IsSet (env : Environment) (key value : String) : Prop :=
  ∃ before name after, env = before ++ (name, value) :: after ∧ Sets name key ∧
    ∀ later ∈ after, ¬Sets later.1 key

/-- The setting that a variable stands for, if any. -/
theorem settings_eq (env : Environment) : settings env =
    env.filterMap fun p => (settingName? p.1).map (setting · p.2) := rfl

theorem settings_append (env env' : Environment) :
    settings (env ++ env') = settings env ++ settings env' :=
  List.filterMap_append

theorem settings_cons_of_sets (hkey : IsKey key) (h : Sets name key) (value : String)
    (env : Environment) : settings ((name, value) :: env) = (key, .ofText value) :: settings env := by
  have hname := (settingName?_eq_some_iff hkey.plain).mpr h
  have hsetting : (settingName? name).map (setting · value) = some (key, .ofText value) := by
    rw [hname, Option.map_some, setting_key hkey]
  simp only [settings_eq, List.filterMap_cons, hsetting]

/-- A setting is what it was set to last, unless a part of it was set later. -/
theorem setting?_of_isSet (hkey : IsKey key) (h : IsSet env key value) :
    env.setting? key = some (.ofText value) ∨ env.setting? key = some .group ∨
      env.setting? key = some .sequence := by
  obtain ⟨before, name, after, rfl, hname, hlater⟩ := h
  have hsettings : (settings (before ++ (name, value) :: after)).reverse =
      (settings after).reverse ++ (key, .ofText value) :: (settings before).reverse := by
    rw [settings_append, settings_cons_of_sets hkey hname, List.reverse_append, List.reverse_cons,
      List.append_assoc]
    rfl
  rw [setting?, hsettings, List.find?_append]
  cases hfind : (settings after).reverse.find? (·.1 == key) with
  | none =>
    refine .inl ?_
    rw [Option.none_or, List.find?_cons_of_pos (by exact beq_self_eq_true key)]
    rfl
  | some found =>
    -- what is found later has not the name of the setting
    have hmem := List.mem_reverse.mp (List.mem_of_find?_eq_some hfind)
    rw [settings_eq] at hmem
    obtain ⟨⟨name', value'⟩, hafter, hfound⟩ := List.mem_filterMap.mp hmem
    obtain ⟨n, hn, rfl⟩ := Option.map_eq_some_iff.mp hfound
    have hsame : (setting n value').1 = key := by
      simpa only [beq_iff_eq] using List.find?_some hfind
    refine .inr ((setting_cases hsame).resolve_left ?_ |>.imp (congrArg some) (congrArg some))
    rintro rfl
    exact hlater _ hafter ((settingName?_eq_some_iff hkey.plain).mp hn)

/-- An environment with one variable for settings. -/
structure IsOnly (env : Environment) (name value : String) : Prop where
  mem : (name, value) ∈ env
  only : ∀ p ∈ env, IsOurs p.1 → p = (name, value)

theorem IsOnly.settings (h : IsOnly env name value) (hkey : IsKey key) (hname : Sets name key) :
    (key, .ofText value) ∈ env.settings ∧ ∀ s ∈ env.settings, s = (key, .ofText value) := by
  have hsetting : (settingName? name).map (setting · value) = some (key, .ofText value) := by
    rw [(settingName?_eq_some_iff hkey.plain).mpr hname, Option.map_some, setting_key hkey]
  rw [settings_eq]
  refine ⟨List.mem_filterMap.mpr ⟨_, h.mem, hsetting⟩, fun s hs => ?_⟩
  obtain ⟨⟨name', value'⟩, hmem, hs⟩ := List.mem_filterMap.mp hs
  have hours : IsOurs name' := by
    by_contra hnot
    rw [settingName?_eq_none_iff.mpr hnot] at hs
    cases hs
  obtain ⟨rfl, rfl⟩ := Prod.mk.inj (h.only _ hmem hours)
  exact Option.some.inj (hs.symm.trans hsetting)

/-- The one setting is there, and no other. -/
theorem setting?_of_isOnly (h : IsOnly env name value) (hkey : IsKey key) (hname : Sets name key) :
    env.setting? key = some (.ofText value) ∧ ∀ other ≠ key, env.setting? other = none := by
  obtain ⟨hmem, hall⟩ := h.settings hkey hname
  constructor
  · cases hfind : env.settings.reverse.find? (·.1 == key) with
    | none =>
      have hnot := List.find?_eq_none.mp hfind _ (List.mem_reverse.mpr hmem)
      exact absurd (beq_self_eq_true key) hnot
    | some found =>
      have hfound := hall found (List.mem_reverse.mp (List.mem_of_find?_eq_some hfind))
      rw [setting?, hfind, hfound]
      rfl
  · intro other hne
    have hnone : env.settings.reverse.find? (·.1 == other) = none := by
      refine List.find?_eq_none.mpr fun s hs => ?_
      rw [hall s (List.mem_reverse.mp hs), beq_iff_eq]
      exact hne.symm
    rw [setting?, hnone]
    rfl

end Environment

/-! ## Texts -/

/-- A text spells a flag: its word, with letters of any size. -/
def SpellsFlag (v : String) (b : Bool) : Prop := Text.toSmall v = toString b

/-- A text spells a whole number of 64 bits with a sign. -/
structure SpellsLong (v : String) (z : ℤ) : Prop where
  spelled : Decimal.SpellsWhole v.toList z
  low : -2 ^ 63 ≤ z
  high : z < 2 ^ 63

/-- What a text stands for: the first of a flag, a whole number and a float that it spells, and
otherwise itself. -/
inductive Stands (v : String) : Setting → Prop where
  | flag {b : Bool} (spelled : SpellsFlag v b) : Stands v (.flag b)
  | whole {z : ℤ} (noFlag : ∀ b, ¬SpellsFlag v b) (spelled : SpellsLong v z) : Stands v (.whole z)
  | float {x : Float} (noFlag : ∀ b, ¬SpellsFlag v b) (noWhole : ∀ z, ¬SpellsLong v z)
      (spelled : Decimal.SpellsFloat v.toList x) : Stands v (.float x)
  | text (noFlag : ∀ b, ¬SpellsFlag v b) (noWhole : ∀ z, ¬SpellsLong v z)
      (noFloat : ∀ x, ¬Decimal.SpellsFloat v.toList x) : Stands v (.text v)

theorem readFlag?_eq_some_iff {v : String} {b : Bool} :
    readFlag? (Text.toSmall v) = some b ↔ SpellsFlag v b := by
  rw [SpellsFlag]
  generalize Text.toSmall v = small
  constructor
  · intro h
    unfold readFlag? at h
    split at h
    · exact Option.some.inj h ▸ rfl
    · exact Option.some.inj h ▸ rfl
    · cases h
  · rintro rfl
    cases b <;> rfl

theorem readWhole?_eq_some_iff {v : String} {z : ℤ} : readWhole? v = some z ↔ SpellsLong v z := by
  have hlimit : (wholeLimit : ℤ) = 2 ^ 63 := rfl
  simp only [readWhole?, Option.filter_eq_some_iff, Decimal.readInt?_eq_some_iff, hlimit,
    Bool.and_eq_true, decide_eq_true_eq]
  exact ⟨fun ⟨hspelled, hlow, hhigh⟩ => ⟨hspelled, hlow, hhigh⟩,
    fun ⟨hspelled, hlow, hhigh⟩ => ⟨hspelled, hlow, hhigh⟩⟩

/-- **A text is taken for what it stands for.** -/
theorem ofText_eq_iff {v : String} {s : Setting} : Setting.ofText v = s ↔ Stands v s := by
  have hflag := fun b => readFlag?_eq_some_iff (v := v) (b := b)
  have hwhole := fun z => readWhole?_eq_some_iff (v := v) (z := z)
  have hfloat := fun x => Decimal.readFloat?_eq_some_iff (s := v.toList) (x := x)
  have hnone : ∀ {α : Type} {o : Option α} {P : α → Prop}, (∀ a, o = some a ↔ P a) →
      (o = none ↔ ∀ a, ¬P a) := fun h => by
    rw [Option.eq_none_iff_forall_ne_some]
    exact forall_congr' fun a => not_congr (h a)
  constructor
  · rintro rfl
    unfold Setting.ofText
    split
    · next b h => exact .flag ((hflag b).mp h)
    next hnoFlag =>
    split
    · next z h => exact .whole ((hnone hflag).mp hnoFlag) ((hwhole z).mp h)
    next hnoWhole =>
    split
    · next x h =>
      exact .float ((hnone hflag).mp hnoFlag) ((hnone hwhole).mp hnoWhole) ((hfloat x).mp h)
    · next h =>
      exact .text ((hnone hflag).mp hnoFlag) ((hnone hwhole).mp hnoWhole) ((hnone hfloat).mp h)
  · intro h
    unfold Setting.ofText
    cases h with
    | flag hspelled => rw [(hflag _).mpr hspelled]
    | whole hnoFlag hspelled => rw [(hnone hflag).mpr hnoFlag, (hwhole _).mpr hspelled]
    | float hnoFlag hnoWhole hspelled =>
      rw [(hnone hflag).mpr hnoFlag, (hnone hwhole).mpr hnoWhole, (hfloat _).mpr hspelled]
    | text hnoFlag hnoWhole hnoFloat =>
      rw [(hnone hflag).mpr hnoFlag, (hnone hwhole).mpr hnoWhole, (hnone hfloat).mpr hnoFloat]

/-! ## Loading -/

variable {env : Environment} {c c' : Config}

theorem apply_eq_ok_iff {n : Name} : n.apply env c = .ok c' ↔
    env.setting? n.key = none ∧ c' = c ∨ ∃ s, env.setting? n.key = some s ∧ n.put c s = .ok c' := by
  unfold Name.apply
  cases hsetting : env.setting? n.key with
  | none => simp [eq_comm]
  | some s =>
    cases hput : n.put c s with
    | ok c'' => simp [hput]
    | error m => simp [hput]

/-- With nothing set, nothing changes. -/
theorem foldlM_apply_of_none {names : List Name} (h : ∀ n ∈ names, env.setting? n.key = none)
    (c : Config) : names.foldlM (Name.apply env) c = .ok c := by
  induction names with
  | nil => rfl
  | cons n names ih =>
    obtain ⟨hn, hnames⟩ := List.forall_mem_cons.mp h
    have hstep : n.apply env c = .ok c := apply_eq_ok_iff.mpr (.inl ⟨hn, rfl⟩)
    rw [List.foldlM_cons, hstep]
    exact ih hnames

/-- The keys of settings stand for themselves. -/
theorem isKey_of_mem {n : Name} (h : n ∈ names) : IsKey n.key := by
  have hall : names.all (fun n => !n.key.toList.isEmpty && n.key.toList.all fun c =>
      decide (c.toNat < 0x80) && Environment.isNameChar c) = true := by decide +kernel
  obtain ⟨hsome, hchars⟩ := Bool.and_eq_true_iff.mp (List.all_eq_true.mp hall n h)
  rw [List.all_eq_true] at hchars
  refine ⟨fun c hc => ?_, fun c hc => ?_, ?_⟩
  · exact of_decide_eq_true (Bool.and_eq_true_iff.mp (hchars c hc)).1
  · exact (Bool.and_eq_true_iff.mp (hchars c hc)).2
  · rwa [Bool.not_eq_true', List.isEmpty_eq_false_iff] at hsome

/-- Each name stands once among all. -/
theorem names_split {n : Name} (h : n ∈ names) : ∃ before after, names = before ++ n :: after ∧
    ∀ other ∈ before ++ after, other.key ≠ n.key := by
  have hnodup : (names.map (·.key)).Nodup := by decide
  obtain ⟨before, after, hsplit⟩ := List.append_of_mem h
  refine ⟨before, after, hsplit, fun other hother hsame => ?_⟩
  rw [hsplit, List.map_append, List.map_cons, List.nodup_middle, ← List.map_append] at hnodup
  exact (List.nodup_cons.mp hnodup).1 (List.mem_map.mpr ⟨other, hother, hsame⟩)

/-- Where one setting is set, loading takes that one over. -/
theorem ofEnvironment_eq_apply {n : Name} (hn : n ∈ names)
    (hnone : ∀ other ≠ n.key, env.setting? other = none) : ofEnvironment env = n.apply env {} := by
  obtain ⟨before, after, hnames, hothers⟩ := names_split hn
  obtain ⟨hbefore, hafter⟩ := List.forall_mem_append.mp fun other h => hnone _ (hothers other h)
  rw [ofEnvironment, hnames, List.foldlM_append, foldlM_apply_of_none hbefore]
  change (n :: after).foldlM (Name.apply env) {} = _
  rw [List.foldlM_cons]
  cases n.apply env {} with
  | error e => rfl
  | ok c => exact foldlM_apply_of_none hafter c

end Config
end UsageFeed
