import UsageFeed.Proofs.Figures
import UsageFeed.Proofs.FloatRoundTrip
import UsageFeed.Proofs.Settings

/-!
# `UsageFeed.Proofs.TextSettings` — how texts arrive in settings

The text of a variable is tried as a flag and as a number before it is a text, and what was taken
for one of these is written anew where a text is asked for. Most texts arrive as they are; the
others arrive as a spelling of the same flag or number.

## Contents
- **Settings.** `TextField`, the settings that are texts; taking over another setting leaves them
  (`keeps_of_ne`).
- **Texts.** `Arrives`, what a text comes to, and `arrives_iff`.
- **Loading.** `text_arrives`, and a text that does not arrive as it is (`password_loses_zeros`).
-/

namespace UsageFeed.Config

/-! ## Settings -/

/-- The settings that are texts. -/
inductive TextField where
  | brokers
  | consumerGroup
  | securityProtocol
  | saslMechanism
  | saslUser
  | saslPassword
  | topic
  | serviceHost
  | serviceUrl
  | logLevel
  | separator
  deriving DecidableEq, Repr

namespace TextField

/-- The key of a setting. -/
def key : TextField → String
  | brokers => "kafka_bootstrap_servers"
  | consumerGroup => "kafka_consumer_group_id"
  | securityProtocol => "kafka_security_protocol"
  | saslMechanism => "kafka_sasl_mechanism"
  | saslUser => "kafka_sasl_username"
  | saslPassword => "kafka_sasl_password"
  | topic => "upload_topic"
  | serviceHost => "kruize_host"
  | serviceUrl => "kruize_url"
  | logLevel => "log_level"
  | separator => "experiment_name_separator"

/-- What a setting is, if it is anything. -/
def held : TextField → Config → Option String
  | brokers, c => some c.brokers
  | consumerGroup, c => some c.consumerGroup
  | securityProtocol, c => c.securityProtocol
  | saslMechanism, c => c.saslMechanism
  | saslUser, c => c.saslUser
  | saslPassword, c => c.saslPassword
  | topic, c => some c.topic
  | serviceHost, c => some c.serviceHost
  | serviceUrl, c => c.serviceUrl
  | logLevel, c => some c.logLevel
  | separator, c => some c.separator

/-- A configuration with another text for a setting. -/
def put : TextField → Config → String → Config
  | brokers, c, v => { c with brokers := v }
  | consumerGroup, c, v => { c with consumerGroup := v }
  | securityProtocol, c, v => { c with securityProtocol := some v }
  | saslMechanism, c, v => { c with saslMechanism := some v }
  | saslUser, c, v => { c with saslUser := some v }
  | saslPassword, c, v => { c with saslPassword := some v }
  | topic, c, v => { c with topic := v }
  | serviceHost, c, v => { c with serviceHost := v }
  | serviceUrl, c, v => { c with serviceUrl := some v }
  | logLevel, c, v => { c with logLevel := v }
  | separator, c, v => { c with separator := v }

variable (f g : TextField)

@[simp] theorem held_put (c : Config) (v : String) : f.held (f.put c v) = some v := by
  cases f <;> rfl

theorem held_put_of_ne {f g : TextField} (h : g ≠ f) (c : Config) (v : String) :
    f.held (g.put c v) = f.held c := by
  cases f <;> cases g <;> first | rfl | exact absurd rfl h

/-- Where the name of a setting stands among all names. -/
def place : TextField → Nat
  | brokers => 0
  | consumerGroup => 1
  | securityProtocol => 3
  | saslMechanism => 4
  | saslUser => 5
  | saslPassword => 6
  | topic => 7
  | serviceHost => 8
  | serviceUrl => 10
  | logLevel => 13
  | separator => 15

/-- Each setting is taken over under its key. -/
theorem mem_names : textName f.key f.put ∈ names := by
  have hplace : names[f.place]? = some (textName f.key f.put) := by cases f <;> rfl
  exact List.mem_of_getElem? hplace

theorem isKey : IsKey f.key := isKey_of_mem f.mem_names

end TextField

/-- Taking over a setting leaves a text as it is. -/
def Name.Keeps (n : Name) (f : TextField) : Prop :=
  ∀ c s c', n.put c s = .ok c' → f.held c' = f.held c

theorem exists_ok_of_map {ε α β : Type} {x : Except ε α} {f : α → β} {b : β}
    (h : x.map f = .ok b) : ∃ a, x = .ok a ∧ f a = b := by
  cases x with
  | error e => cases h
  | ok a => exact ⟨a, rfl, Except.ok.inj h⟩

/-- A value that is turned into another kind and then put. -/
theorem keeps_map {α : Type} {f : TextField} {key : String} {read : Setting → Except Mismatch α}
    {put : Config → α → Config} (h : ∀ c a, f.held (put c a) = f.held c) :
    Name.Keeps ⟨key, fun c s => (read s).map (put c)⟩ f := by
  intro c s c' hput
  obtain ⟨a, -, rfl⟩ := exists_ok_of_map hput
  exact h c a

/-- A name is that of a text, or leaves every text as it is. -/
theorem text_or_keeps : ∀ n ∈ names, (∃ g : TextField, n = textName g.key g.put) ∨
    ∀ f, n.Keeps f := by
  have hflag : ∀ (key : String) (put : Config → Bool → Config),
      (∀ f : TextField, ∀ c b, f.held (put c b) = f.held c) → ∀ f, (flagName key put).Keeps f :=
    fun key put h f => keeps_map (h f)
  have hcount : ∀ (key : String) (bits : Nat) (put : Config → Nat → Config),
      (∀ f : TextField, ∀ c b, f.held (put c b) = f.held c) →
        ∀ f, (countName key bits put).Keeps f :=
    fun key bits put h f => keeps_map (h f)
  simp only [names, List.forall_mem_cons]
  exact ⟨.inl ⟨.brokers, rfl⟩, .inl ⟨.consumerGroup, rfl⟩,
    .inr (hflag _ _ fun f _ _ => by cases f <;> rfl), .inl ⟨.securityProtocol, rfl⟩,
    .inl ⟨.saslMechanism, rfl⟩, .inl ⟨.saslUser, rfl⟩, .inl ⟨.saslPassword, rfl⟩,
    .inl ⟨.topic, rfl⟩, .inl ⟨.serviceHost, rfl⟩,
    .inr (hcount _ _ _ fun f _ _ => by cases f <;> rfl), .inl ⟨.serviceUrl, rfl⟩,
    .inr (hcount _ _ _ fun f _ _ => by cases f <;> rfl),
    .inr (hcount _ _ _ fun f _ _ => by cases f <;> rfl), .inl ⟨.logLevel, rfl⟩,
    .inr (hcount _ _ _ fun f _ _ => by cases f <;> rfl), .inl ⟨.separator, rfl⟩,
    .inr (hflag _ _ fun f _ _ => by cases f <;> rfl), nofun⟩

/-- Taking over another setting leaves a text as it is. -/
theorem keeps_of_ne {f : TextField} {n : Name} (hn : n ∈ names) (hne : n.key ≠ f.key) :
    n.Keeps f := by
  rcases text_or_keeps n hn with ⟨g, rfl⟩ | hkeeps
  · have hfield : g ≠ f := fun heq => hne (heq ▸ rfl)
    exact keeps_map fun c v => TextField.held_put_of_ne hfield c v
  · exact hkeeps f

variable {env : Environment} {c c' : Config} {f : TextField}

theorem foldlM_keeps {ns : List Name} (h : ∀ n ∈ ns, n.Keeps f)
    (hrun : ns.foldlM (Name.apply env) c = .ok c') : f.held c' = f.held c := by
  induction ns generalizing c with
  | nil => exact Except.ok.inj hrun ▸ rfl
  | cons n ns ih =>
    obtain ⟨hn, hns⟩ := List.forall_mem_cons.mp h
    rw [List.foldlM_cons] at hrun
    obtain ⟨c₁, hstep, hrun⟩ := exists_ok_of_bind hrun
    rw [ih hns hrun]
    rcases apply_eq_ok_iff.mp hstep with ⟨-, rfl⟩ | ⟨s, -, hput⟩
    · rfl
    · exact hn c s c₁ hput

/-- A text that is set is what its setting is as a text. -/
theorem held_of_load (hload : ofEnvironment env = .ok c) {s : Setting}
    (hs : env.setting? f.key = some s) : ∃ t, s.toText = .ok t ∧ f.held c = some t := by
  obtain ⟨before, after, hnames, hothers⟩ := names_split f.mem_names
  have hmem : ∀ n ∈ after, n ∈ names := fun n hn => by
    rw [hnames]
    exact List.mem_append_right _ (List.mem_cons_of_mem _ hn)
  have hkeeps : ∀ n ∈ after, n.Keeps f := fun n hn =>
    keeps_of_ne (hmem n hn) (hothers n (List.mem_append_right _ hn))
  rw [ofEnvironment, hnames, List.foldlM_append] at hload
  obtain ⟨c₁, -, hload⟩ := exists_ok_of_bind hload
  rw [List.foldlM_cons] at hload
  obtain ⟨c₂, hstep, hload⟩ := exists_ok_of_bind hload
  rcases apply_eq_ok_iff.mp hstep with ⟨hnone, -⟩ | ⟨s', hs', hput⟩
  · cases hnone.symm.trans hs
  · obtain rfl := Option.some.inj (hs'.symm.trans hs)
    obtain ⟨t, htext, rfl⟩ := exists_ok_of_map hput
    refine ⟨t, htext, ?_⟩
    -- what comes after leaves the setting as it was put here
    rw [foldlM_keeps hkeeps hload, TextField.held_put]

/-! ## Texts -/

/-- What a text comes to where a text is asked for. It arrives as it is, unless it spells a flag or
a number; then it arrives as a spelling of the same. -/
inductive Arrives (v : String) : String → Prop where
  | flag {b : Bool} (spelled : SpellsFlag v b) (again : SpellsFlag (toString b) b) :
      Arrives v (toString b)
  | whole {z : ℤ} (noFlag : ∀ b, ¬SpellsFlag v b) (spelled : SpellsLong v z)
      (again : SpellsLong (toString z) z) : Arrives v (toString z)
  | float {x : Float} (noFlag : ∀ b, ¬SpellsFlag v b) (noWhole : ∀ z, ¬SpellsLong v z)
      (spelled : Decimal.SpellsFloat v.toList x)
      (again : Decimal.SpellsFloat (Decimal.Layout.plain.write x).toList x) :
      Arrives v (Decimal.Layout.plain.write x)
  | verbatim (noFlag : ∀ b, ¬SpellsFlag v b) (noWhole : ∀ z, ¬SpellsLong v z)
      (noFloat : ∀ x, ¬Decimal.SpellsFloat v.toList x) : Arrives v v

theorem arrives_iff {v t : String} : Arrives v t ↔ (Setting.ofText v).toText = .ok t := by
  constructor
  · intro h
    cases h with
    | @flag b hspelled =>
      rw [ofText_eq_iff.mpr (.flag hspelled)]
      cases b <;> rfl
    | whole hnoFlag hspelled => rw [ofText_eq_iff.mpr (.whole hnoFlag hspelled)]; rfl
    | float hnoFlag hnoWhole hspelled =>
      rw [ofText_eq_iff.mpr (.float hnoFlag hnoWhole hspelled)]
      rfl
    | verbatim hnoFlag hnoWhole hnoFloat =>
      rw [ofText_eq_iff.mpr (.text hnoFlag hnoWhole hnoFloat)]
      rfl
  · intro h
    have hstands := ofText_eq_iff.mp (rfl : Setting.ofText v = Setting.ofText v)
    generalize Setting.ofText v = s at *
    cases hstands with
    | @flag b hspelled =>
      have ht : toString b = t := by
        cases b <;> exact Except.ok.inj h
      have hagain : ∀ b, SpellsFlag (toString b) b := by
        intro b
        cases b <;> (rw [SpellsFlag]; decide +kernel)
      exact ht ▸ .flag hspelled (hagain b)
    | @whole z hnoFlag hspelled =>
      have hagain : SpellsLong (toString z) z :=
        ⟨Decimal.spellsWhole_toString z, hspelled.low, hspelled.high⟩
      exact Except.ok.inj h ▸ .whole hnoFlag hspelled hagain
    | @float x hnoFlag hnoWhole hspelled =>
      have hagain := Decimal.readFloat?_eq_some_iff.mp (Decimal.readFloat?_write x)
      exact Except.ok.inj h ▸ .float hnoFlag hnoWhole hspelled hagain
    | text hnoFlag hnoWhole hnoFloat =>
      exact Except.ok.inj h ▸ .verbatim hnoFlag hnoWhole hnoFloat

/-! ## Loading -/

/-- **Texts arrive.** Wherever loading succeeds, each text that is set holds what the text of its
variable comes to. -/
theorem text_arrives {v : String} (hload : ofEnvironment env = .ok c)
    (hset : env.IsSet f.key v) : ∃ t, f.held c = some t ∧ Arrives v t := by
  rcases Environment.setting?_of_isSet f.isKey hset with hs | hs | hs
  · obtain ⟨t, htext, hheld⟩ := held_of_load hload hs
    exact ⟨t, hheld, arrives_iff.mpr htext⟩
  · obtain ⟨t, htext, -⟩ := held_of_load hload hs
    cases htext
  · obtain ⟨t, htext, -⟩ := held_of_load hload hs
    cases htext

/-- A password with zeros in front is a whole number for loading. -/
theorem password_loads : ofEnvironment [("ROSOCP_KAFKA_SASL_PASSWORD", "007")] =
    .ok { saslPassword := some "7" } := by
  decide +kernel

theorem password_isSet : Environment.IsSet [("ROSOCP_KAFKA_SASL_PASSWORD", "007")]
    TextField.saslPassword.key "007" := by
  have hname : Sets "ROSOCP_KAFKA_SASL_PASSWORD" TextField.saslPassword.key := by
    rw [Sets]
    decide +kernel
  exact ⟨[], _, [], rfl, hname, List.forall_mem_nil _⟩

theorem text_arrives_password :
    ∃ t, TextField.saslPassword.held { saslPassword := some "7" } = some t ∧ Arrives "007" t :=
  text_arrives password_loads password_isSet

/-- Not every text arrives as it is: a password loses the zeros in front. -/
theorem password_loses_zeros :
    ¬ ∀ (env : Environment) (c : Config) (f : TextField) (v : String),
        ofEnvironment env = .ok c → env.IsSet f.key v → f.held c = some v := by
  intro h
  have hheld := h _ _ .saslPassword _ password_loads password_isSet
  exact absurd (Option.some.inj hheld) (by decide)

end UsageFeed.Config
