import UsageFeed.Proofs.JsonGrammar
import UsageFeed.Json.Record

/-!
# `UsageFeed.Proofs.JsonPresentations` — one value, many texts

A value can be written in many ways: with other white space, other spellings of its texts, members
in another order, members left out or set to null, and members that nobody asked for. All of them
are read as the value.

## Contents
- **Ways to write.** `QuotedAs`, `OptionOf` and `ListOf`; `ObjectOf`, an object with its members as
  they stand, and `RecordOf`, an object that presents what a record knows.
- **Plain values.** `ReadsAs`, a decoder that takes a text for a value, after any white space and
  whatever follows; `readsAs_text`, `ReadsAs.option` and `readsAs_list`.
- **Records.** `Field.Answers`, a field that reads what a known member presents;
  `readMembers_items`, by the names that have been seen, and `readsAs_record`.
-/

namespace UsageFeed.Json

variable {α : Type}

/-! ## Ways to write -/

/-- A text between quotes, in any spelling. -/
def QuotedAs (t : String) (cs : List Char) : Prop :=
  ∃ spelled, SpellsText t.toList spelled ∧ cs = '"' :: (spelled ++ ['"'])

/-- A value that may be lacking: null stands for none. -/
def OptionOf (P : α → List Char → Prop) : Option α → List Char → Prop
  | none, cs => cs = ['n', 'u', 'l', 'l']
  | some a, cs => P a cs

/-- Items with commas between them and white space around each. -/
inductive Items (P : α → List Char → Prop) : List α → List Char → Prop
  | last {a : α} {ws cs ws' : List Char} (before : IsBlank ws) (item : P a cs)
      (after : IsBlank ws') : Items P [a] (ws ++ (cs ++ ws'))
  | more {a : α} {as : List α} {ws cs ws' ds : List Char} (before : IsBlank ws) (item : P a cs)
      (after : IsBlank ws') (rest : Items P as ds) :
      Items P (a :: as) (ws ++ (cs ++ (ws' ++ ',' :: ds)))

/-- What stands between the brackets of a container. -/
inductive Body (P : α → List Char → Prop) : List α → List Char → Prop
  | empty {ws : List Char} (blank : IsBlank ws) : Body P [] ws
  | items {as : List α} {cs : List Char} (items : Items P as cs) : Body P as cs

/-- A list of items. -/
def ListOf (P : α → List Char → Prop) (as : List α) (cs : List Char) : Prop :=
  ∃ body, Body P as body ∧ cs = '[' :: (body ++ [']'])

/-- A member of an object, given by its name and the text of its value: the name in any spelling. -/
def MemberOf (m : String × List Char) (cs : List Char) : Prop :=
  ∃ spelled ws ws', SpellsText m.1.toList spelled ∧ IsBlank ws ∧ IsBlank ws' ∧
    cs = '"' :: (spelled ++ '"' :: (ws ++ ':' :: (ws' ++ m.2)))

/-- An object with these members. -/
def ObjectOf (members : List (String × List Char)) (cs : List Char) : Prop :=
  ∃ body, Body MemberOf members body ∧ cs = '\x7b' :: (body ++ ['\x7d'])

/-- A member that a record knows: its name, the texts that present its value, and whether the record
is the same without it. -/
structure Known where
  name : String
  presents : List Char → Prop
  absent : Prop

/-- Members present what a record knows: each such member at most once and with its value, none left
out without which the record is another, and under all other names any values whatever. -/
structure Describes (known : List Known) (members : List (String × List Char)) : Prop where
  once : ((members.map (·.1)).filter fun name => name ∈ known.map (·.name)).Nodup
  given : ∀ k ∈ known, k.name ∈ members.map (·.1) ∨ k.absent
  presented : ∀ m ∈ members, ∀ k ∈ known, k.name = m.1 → k.presents m.2
  other : ∀ m ∈ members, m.1 ∉ known.map (·.name) → Valid .value m.2

/-- An object that presents what a record knows. -/
def RecordOf (known : List Known) (cs : List Char) : Prop :=
  ∃ members, Describes known members ∧ ObjectOf members cs

/-- Behind the comma after an item the next one begins. -/
theorem at_comma {ws : List Char} (h : IsBlank ws) (t : List UInt8) :
    At false (bytes ws ++ commaByte :: t) t :=
  skipSpace_blank_cons h (by decide) t

/-- There are no fewer bytes than commas. -/
theorem Items.length_le {P : α → List Char → Prop} {as : List α} {cs : List Char}
    (h : Items P as cs) : as.length ≤ (bytes cs).length + 1 := by
  induction h with
  | last => simp
  | @more a as ws cs ws' ds _ _ _ _ ih =>
    have hcomma : String.utf8EncodeChar ',' = [commaByte] := rfl
    simp only [bytes_append, bytes_cons, hcomma, List.length_append, List.length_cons,
      List.length_nil]
    omega

/-! ## Plain values -/

/-- Where `n` containers may yet open, the decoder takes the text for a value, after any white space
and whatever follows. -/
def ReadsAs (n : Nat) (d : Decoder α) (cs : List Char) (a : α) : Prop :=
  ∀ depth ws rest, n ≤ depth → IsBlank ws →
    d depth (bytes ws ++ (bytes cs ++ rest)) = .ok (a, rest)

theorem ReadsAs.mono {m n : Nat} {d : Decoder α} {cs : List Char} {a : α} (h : ReadsAs m d cs a)
    (hmn : m ≤ n) : ReadsAs n d cs a :=
  fun depth ws rest hdepth hws => h depth ws rest (Nat.le_trans hmn hdepth) hws

/-- What a text begins with tells it from white space, from null and from the end of a list. -/
def Begins (cs : List Char) : Prop :=
  ∃ b more, bytes cs = b :: more ∧ isSpace b = false ∧ b ≠ 0x6E ∧ b ≠ closeList

theorem QuotedAs.begins {t : String} {cs : List Char} (h : QuotedAs t cs) : Begins cs := by
  obtain ⟨spelled, -, rfl⟩ := h
  exact ⟨_, _, rfl, by decide, by decide, by decide⟩

theorem RecordOf.begins {known : List Known} {cs : List Char} (h : RecordOf known cs) :
    Begins cs := by
  obtain ⟨members, -, body, -, rfl⟩ := h
  exact ⟨_, _, rfl, by decide, by decide, by decide⟩

theorem atFront_blank {d : Decoder α} {ws : List Char} (hws : IsBlank ws) {b : UInt8}
    (hb : isSpace b = false) (depth : Nat) (s : List UInt8) :
    atFront d depth (bytes ws ++ b :: s) = d depth (b :: s) := by
  unfold atFront
  rw [skipSpace_blank_cons hws hb]

theorem readsAs_text {t : String} {cs : List Char} (h : QuotedAs t cs) :
    ReadsAs 0 .text cs t := by
  intro depth ws rest _ hws
  obtain ⟨spelled, hspelled, rfl⟩ := h
  have hquote : String.utf8EncodeChar '"' = [quoteByte] := rfl
  rw [bytes_between hquote hquote, Decoder.text, atFront_blank hws (by decide)]
  exact readText_spelled hspelled rest

theorem ReadsAs.option {P : α → List Char → Prop} {n : Nat} {d : Decoder α} {o : Option α}
    (h : ∀ a cs, o = some a → P a cs → ReadsAs n d cs a ∧ Begins cs) {cs : List Char}
    (hcs : OptionOf P o cs) : ReadsAs n d.option cs o := by
  intro depth ws rest hdepth hws
  unfold Decoder.option
  rw [skipSpace_blank hws]
  cases o with
  | none =>
    have hnull : cs = ['n', 'u', 'l', 'l'] := hcs
    rw [hnull]
    rfl
  | some a =>
    obtain ⟨hread, b, more, hb, hspace, hnull, -⟩ := h a cs rfl hcs
    have hvalue := hread depth [] rest hdepth (fun _ hc => absurd hc List.not_mem_nil)
    rw [bytes_nil, List.nil_append, hb, List.cons_append] at hvalue
    rw [hb, List.cons_append, skipSpace_cons hspace]
    simp only [if_neg hnull, hvalue]
    rfl

/-- **The items of a list are read one after another**, from any place where one may begin. -/
theorem readItems_items {P : α → List Char → Prop} {item : List UInt8 → Reading α}
    (hitem : ∀ a cs, P a cs → Begins cs ∧ ∀ rest, item (bytes cs ++ rest) = .ok (a, rest))
    {as : List α} {cs : List Char} (h : Items P as cs) {first : Bool} {s rest : List UInt8}
    {fuel : Nat} (hs : At first s (bytes cs ++ closeList :: rest)) (hfuel : as.length < fuel) :
    readItems item fuel first s = .ok (as, rest) := by
  induction h generalizing first s fuel with
  | @last a ws cs ws' before given after =>
    obtain ⟨fuel, rfl⟩ : ∃ n, fuel = n + 2 := ⟨fuel - 2, by simp at hfuel; omega⟩
    obtain ⟨⟨b, more, hb, hspace, -, hclose⟩, hread⟩ := hitem a cs given
    have hvalue := hread (bytes ws' ++ closeList :: rest)
    rw [bytes_pieces] at hs
    rw [hb, List.cons_append] at hs hvalue
    have hnext := nextItem_at hs (skipSpace_blank_cons before hspace _) hclose
    have hlast : nextItem false (bytes ws' ++ closeList :: rest) =
        .ok (false, closeList :: rest) :=
      nextItem_close false (skipSpace_blank_cons after (by decide) _)
    have hend : endList (closeList :: rest) = .ok rest := rfl
    rw [readItems, hnext]
    simp only [bind, Except.bind, hvalue]
    rw [readItems, hlast]
    simp only [bind, Except.bind, hend]
  | @more a as ws cs ws' ds before given after items ih =>
    obtain ⟨fuel, rfl⟩ : ∃ n, fuel = n + 1 := ⟨fuel - 1, by simp at hfuel; omega⟩
    obtain ⟨⟨b, more, hb, hspace, -, hclose⟩, hread⟩ := hitem a cs given
    have hcomma : String.utf8EncodeChar ',' = [commaByte] := rfl
    have hvalue := hread (bytes ws' ++ commaByte :: (bytes ds ++ closeList :: rest))
    rw [bytes_pieces, bytes_around hcomma] at hs
    rw [hb, List.cons_append] at hs hvalue
    have hnext := nextItem_at hs (skipSpace_blank_cons before hspace _) hclose
    have hplace := at_comma after (bytes ds ++ closeList :: rest)
    rw [readItems, hnext]
    simp only [bind, Except.bind, hvalue, ih hplace (by simpa using hfuel)]

theorem readsAs_list {P : α → List Char → Prop} {n : Nat} {d : Decoder α}
    (h : ∀ a cs, P a cs → ReadsAs n d cs a ∧ Begins cs) {as : List α} {cs : List Char}
    (hcs : ListOf P as cs) : ReadsAs (n + 1) d.list cs as := by
  intro depth ws rest hdepth hws
  obtain ⟨depth, rfl⟩ : ∃ m, depth = m + 1 := Nat.exists_eq_add_one.mpr (by omega)
  obtain ⟨body, hbody, rfl⟩ := hcs
  have hopen : String.utf8EncodeChar '[' = [openList] := rfl
  have hclose : String.utf8EncodeChar ']' = [closeList] := rfl
  rw [bytes_between hopen hclose, Decoder.list, atFront_blank hws (by decide)]
  show readItems (d depth) ((bytes body ++ closeList :: rest).length + 1) true
    (bytes body ++ closeList :: rest) = _
  cases hbody with
  | empty blank =>
    rw [readItems, nextItem_close true (skipSpace_blank_cons blank (by decide) _)]
    rfl
  | items items =>
    refine readItems_items (P := P) (fun a cs hP => ?_) items (rfl : At true _ _) ?_
    · obtain ⟨hread, hbegins⟩ := h a cs hP
      refine ⟨hbegins, fun rest => ?_⟩
      exact hread depth [] rest (Nat.le_of_succ_le_succ hdepth)
        fun _ hc => absurd hc List.not_mem_nil
    · have hlength := items.length_le
      simp only [List.length_append, List.length_cons]
      omega

/-! ## Records -/

/-- A field reads what a known member presents: where `state` says how far the record is by the
names that have been seen, it goes from there to the same with its own name among them. -/
structure Field.Answers (n : Nat) (state : List String → α) (f : Field α) (k : Known) :
    Prop where
  name : f.name = k.name
  optional : f.required = false
  reads : ∀ cs, k.presents cs → ∀ seen, f.name ∉ seen → ∀ depth ws rest, n ≤ depth → IsBlank ws →
    f.read depth (state seen) (bytes ws ++ (bytes cs ++ rest)) =
      .ok (state (f.name :: seen), rest)

/-- A field that a decoder is made into reads what the decoder does. -/
theorem answers_defaulted {β : Type} {n : Nat} {state : List String → α} {name : String}
    {d : Decoder β} {set : α → β → α} {v : β} {P : List Char → Prop} {absent : Prop}
    (hread : ∀ cs, P cs → ReadsAs n d cs v)
    (hset : ∀ seen, name ∉ seen → set (state seen) v = state (name :: seen)) :
    ((Field.of name d set).defaulted).Answers n state ⟨name, P, absent⟩ where
  name := rfl
  optional := rfl
  reads cs hcs seen hseen depth ws rest hdepth hws := by
    show (d depth (bytes ws ++ (bytes cs ++ rest))).map _ = _
    rw [hread cs hcs depth ws rest hdepth hws]
    show Except.ok (set (state seen) v, rest) = _
    rw [hset seen hseen]
    rfl

/-- How a record is read: it has the names that are known, and each of its fields answers to one of
them. -/
structure Shape.Answers (n : Nat) (sh : Shape α) (state : List String → α) (known : List Known) :
    Prop where
  names : sh.fields.map (·.name) = known.map (·.name)
  fields : ∀ f ∈ sh.fields, ∃ k ∈ known, f.Answers n state k
  start : sh.start = state []

/-- The bytes of a member: its name between quotes, a colon and its value, with white space around
the colon. -/
theorem MemberOf.exists_bytes {m : String × List Char} {cs : List Char} (h : MemberOf m cs) :
    ∃ spelled ws ws', SpellsText m.1.toList spelled ∧ IsBlank ws ∧ IsBlank ws' ∧
      ∀ rest, bytes cs ++ rest = quoteByte :: (bytes spelled ++
        quoteByte :: (bytes ws ++ colonByte :: (bytes ws' ++ (bytes m.2 ++ rest)))) := by
  obtain ⟨spelled, ws, ws', hspelled, hws, hws', rfl⟩ := h
  refine ⟨spelled, ws, ws', hspelled, hws, hws', fun rest => ?_⟩
  have hquote : String.utf8EncodeChar '"' = [quoteByte] := rfl
  have hcolon : String.utf8EncodeChar ':' = [colonByte] := rfl
  rw [bytes_cons, hquote, List.append_assoc, bytes_around hquote, bytes_around hcolon, bytes_append,
    List.append_assoc]
  rfl

section Record

variable {n : Nat} {sh : Shape α} {state : List String → α} {known : List Known}

theorem Shape.Answers.missing? (h : sh.Answers n state known) (seen : List String) :
    sh.missing? seen = none := by
  unfold Shape.missing?
  rw [List.find?_eq_none.mpr, Option.map_none]
  intro f hf
  obtain ⟨k, -, hk⟩ := h.fields f hf
  simp [hk.optional]

/-- The names seen once a member has been read: its own is among them if it is known. -/
def noted (known : List Known) (seen : List String) (name : String) : List String :=
  if name ∈ known.map (·.name) then name :: seen else seen

theorem mem_noted_of_mem {seen : List String} {x : String} (h : x ∈ seen) (name : String) :
    x ∈ noted known seen name := by
  unfold noted
  split
  · exact List.mem_cons_of_mem _ h
  · exact h

theorem mem_noted_self {name : String} (h : name ∈ known.map (·.name)) (seen : List String) :
    name ∈ noted known seen name := by
  unfold noted
  rw [if_pos h]
  exact List.mem_cons_self

/-- Where no known name comes twice, those of the further members are new after the first one. -/
theorem not_mem_noted {m : String × List Char} {members : List (String × List Char)}
    (honce : (((m :: members).map (·.1)).filter fun name => name ∈ known.map (·.name)).Nodup)
    {seen : List String} (hnew : ∀ x ∈ members, x.1 ∈ known.map (·.name) → x.1 ∉ seen) :
    ∀ x ∈ members, x.1 ∈ known.map (·.name) → x.1 ∉ noted known seen m.1 := by
  intro x hx hk
  unfold noted
  by_cases hknown : m.1 ∈ known.map (·.name)
  · rw [List.map_cons, List.filter_cons, if_pos (by simpa using hknown), List.nodup_cons] at honce
    rw [if_pos hknown, List.mem_cons, not_or]
    refine ⟨fun heq => honce.1 ?_, hnew x hx hk⟩
    rw [← heq]
    exact List.mem_filter.mpr ⟨List.mem_map_of_mem hx, by simpa using hk⟩
  · rw [if_neg hknown]
    exact hnew x hx hk

/-- **One member of a record.** Under a name that is known its value is read, under another one it is
passed over. -/
theorem readMembers_next (h : sh.Answers n state known) {m : String × List Char} {cs : List Char}
    (hm : MemberOf m cs) (hpresented : ∀ k ∈ known, k.name = m.1 → k.presents m.2)
    (hother : m.1 ∉ known.map (·.name) → Valid .value m.2) {seen : List String}
    (hnew : m.1 ∈ known.map (·.name) → m.1 ∉ seen) {depth : Nat} (hdepth : n ≤ depth) (fuel : Nat)
    {first : Bool} {ws : List Char} (hws : IsBlank ws) {s rest : List UInt8}
    (hs : At first s (bytes ws ++ (bytes cs ++ rest))) (hrest : EndsNumber rest) :
    sh.readMembers depth (fuel + 1) first seen (state seen) s =
      sh.readMembers depth fuel false (noted known seen m.1) (state (noted known seen m.1))
        rest := by
  obtain ⟨spelled, ws₁, ws₂, hspelled, hws₁, hws₂, hbytes⟩ := hm.exists_bytes
  rw [hbytes] at hs
  have hnext := nextName_at hs (skipSpace_blank_cons hws (by decide) _)
  have hname := readText_spelled hspelled
    (bytes ws₁ ++ colonByte :: (bytes ws₂ ++ (bytes m.2 ++ rest)))
  rw [Shape.readMembers, hnext]
  simp only [bind, Except.bind, hname, readColon_blank hws₁]
  unfold noted
  cases hfind : sh.fields.find? (·.name == m.1) with
  | none =>
    have hunknown : m.1 ∉ known.map (·.name) := by
      rw [← h.names]
      intro hmem
      obtain ⟨f, hf, hfname⟩ := List.mem_map.mp hmem
      exact absurd (beq_iff_eq.mpr hfname) (List.find?_eq_none.mp hfind f hf)
    simp only [skipValue_valid hws₂ (hother hunknown) hrest, if_neg hunknown]
  | some f =>
    have hfound : (f.name == m.1) = true :=
      List.find?_some (p := fun g : Field α => g.name == m.1) hfind
    have hfname : f.name = m.1 := beq_iff_eq.mp hfound
    obtain ⟨k, hk, hanswers⟩ := h.fields f (List.mem_of_find?_eq_some hfind)
    have hkname : k.name = m.1 := hanswers.name.symm.trans hfname
    have hknown : m.1 ∈ known.map (·.name) := List.mem_map.mpr ⟨k, hk, hkname⟩
    have hunseen : seen.contains m.1 = false := by
      rw [← Bool.not_eq_true, List.contains_iff_mem]
      exact hnew hknown
    have hread := hanswers.reads m.2 (hpresented k hk hkname) seen (hfname ▸ hnew hknown) depth ws₂
      rest hdepth hws₂
    simp only [hunseen, Bool.false_eq_true, if_false, hread, if_pos hknown, hfname]

/-- The record ends where the object does, as nothing is required. -/
theorem readMembers_close (h : sh.Answers n state known) (depth fuel : Nat) (first : Bool)
    (seen : List String) {s rest : List UInt8} (hs : skipSpace s = closeObject :: rest) :
    sh.readMembers depth (fuel + 1) first seen (state seen) s = .ok (state seen, rest) := by
  have hend : endObject (closeObject :: rest) = .ok rest := rfl
  rw [Shape.readMembers, nextName_close first hs]
  simp only [bind, Except.bind, h.missing?, hend]

/-- **The members of a record are read one after another**, in whatever order they stand: at the end
every known name that is there has been seen. -/
theorem readMembers_items (h : sh.Answers n state known) {members : List (String × List Char)}
    {cs : List Char} (hitems : Items MemberOf members cs)
    (hpresented : ∀ m ∈ members, ∀ k ∈ known, k.name = m.1 → k.presents m.2)
    (hother : ∀ m ∈ members, m.1 ∉ known.map (·.name) → Valid .value m.2)
    (honce : ((members.map (·.1)).filter fun name => name ∈ known.map (·.name)).Nodup)
    {seen : List String}
    (hnew : ∀ m ∈ members, m.1 ∈ known.map (·.name) → m.1 ∉ seen) {depth : Nat}
    (hdepth : n ≤ depth) {first : Bool} {s rest : List UInt8} {fuel : Nat}
    (hs : At first s (bytes cs ++ closeObject :: rest)) (hfuel : members.length < fuel) :
    ∃ seen', (∀ name ∈ seen, name ∈ seen') ∧
      (∀ m ∈ members, m.1 ∈ known.map (·.name) → m.1 ∈ seen') ∧
      sh.readMembers depth fuel first seen (state seen) s = .ok (state seen', rest) := by
  induction hitems generalizing first s seen fuel with
  | @last m ws cs ws' before given after =>
    obtain ⟨fuel, rfl⟩ : ∃ n, fuel = n + 2 := ⟨fuel - 2, by simp at hfuel; omega⟩
    obtain ⟨hp, -⟩ := List.forall_mem_cons.mp hpresented
    obtain ⟨ho, -⟩ := List.forall_mem_cons.mp hother
    obtain ⟨hn, -⟩ := List.forall_mem_cons.mp hnew
    rw [bytes_pieces] at hs
    refine ⟨noted known seen m.1, fun _ hx => mem_noted_of_mem hx _,
      List.forall_mem_singleton.mpr fun hk => mem_noted_self hk _, ?_⟩
    rw [readMembers_next h given hp ho hn hdepth _ before hs
      (endsNumber_blank after (.inr (.inr rfl)))]
    exact readMembers_close h _ _ _ _ (skipSpace_blank_cons after (by decide) _)
  | @more m members ws cs ws' ds before given after items ih =>
    obtain ⟨fuel, rfl⟩ : ∃ n, fuel = n + 1 := ⟨fuel - 1, by simp at hfuel; omega⟩
    obtain ⟨hp, hpresented⟩ := List.forall_mem_cons.mp hpresented
    obtain ⟨ho, hother⟩ := List.forall_mem_cons.mp hother
    obtain ⟨hn, hnew⟩ := List.forall_mem_cons.mp hnew
    have hcomma : String.utf8EncodeChar ',' = [commaByte] := rfl
    rw [bytes_pieces, bytes_around hcomma] at hs
    have hplace := at_comma after (bytes ds ++ closeObject :: rest)
    have hlater : ((members.map (·.1)).filter fun name => name ∈ known.map (·.name)).Nodup :=
      honce.sublist ((List.sublist_cons_self _ _).filter _)
    obtain ⟨seen', hkeep, htaken, hread⟩ := ih hpresented hother hlater
      (not_mem_noted honce hnew) hplace (by simpa using hfuel)
    refine ⟨seen', fun x hx => hkeep x (mem_noted_of_mem hx _),
      List.forall_mem_cons.mpr ⟨fun hk => hkeep _ (mem_noted_self hk _), htaken⟩, ?_⟩
    rw [readMembers_next h given hp ho hn hdepth _ before hs
      (endsNumber_blank after (.inl rfl))]
    exact hread

/-- **An object that presents a record is read as the record** that has seen every name without
which it would be another. -/
theorem readsAs_record (h : sh.Answers n state known) {a : α}
    (hall : ∀ seen, (∀ k ∈ known, k.name ∈ seen ∨ k.absent) → state seen = a) {cs : List Char}
    (hcs : RecordOf known cs) : ReadsAs (n + 1) sh.decode cs a := by
  intro depth ws rest hdepth hws
  obtain ⟨depth, rfl⟩ : ∃ m, depth = m + 1 := Nat.exists_eq_add_one.mpr (by omega)
  obtain ⟨members, hdescribes, body, hbody, rfl⟩ := hcs
  have hopen : String.utf8EncodeChar '\x7b' = [openObject] := rfl
  have hclose : String.utf8EncodeChar '\x7d' = [closeObject] := rfl
  rw [bytes_between hopen hclose, Shape.decode, atFront_blank hws (by decide)]
  show sh.readMembers depth ((bytes body ++ closeObject :: rest).length + 1) true [] sh.start
    (bytes body ++ closeObject :: rest) = _
  rw [h.start]
  cases hbody with
  | empty blank =>
    have hstate : state [] = a := hall [] fun k hk =>
      .inr ((hdescribes.given k hk).resolve_left List.not_mem_nil)
    rw [readMembers_close h _ _ _ _ (skipSpace_blank_cons blank (by decide) _),
      hstate]
  | items items =>
    have hplace : At true (bytes body ++ closeObject :: rest)
        (bytes body ++ closeObject :: rest) := rfl
    have hfuel : members.length < (bytes body ++ closeObject :: rest).length + 1 := by
      have hlength := items.length_le
      simp only [List.length_append, List.length_cons]
      omega
    obtain ⟨seen, -, hseen, hread⟩ := readMembers_items h items hdescribes.presented
      hdescribes.other hdescribes.once (fun _ _ _ => List.not_mem_nil)
      (Nat.le_of_succ_le_succ hdepth) hplace hfuel
    have hstate : state seen = a := hall seen fun k hk => by
      refine (hdescribes.given k hk).imp_left fun hmem => ?_
      obtain ⟨m, hm, hname⟩ := List.mem_map.mp hmem
      rw [← hname]
      exact hseen m hm (List.mem_map.mpr ⟨k, hk, hname.symm⟩)
    rw [hread, hstate]

end Record

/-- A value is read from the whole text if its text stands there with white space around it. -/
theorem ReadsAs.run {n : Nat} {d : Decoder α} {cs : List Char} {a : α} (h : ReadsAs n d cs a)
    (hn : n ≤ nestingLimit) {ws ws' : List Char} (hbefore : IsBlank ws) (hafter : IsBlank ws') :
    Decoder.run d (bytes (ws ++ (cs ++ ws'))) = .ok a := by
  have hread := h nestingLimit ws (bytes ws') hn hbefore
  have hend : skipSpace (bytes ws') = [] := by
    have hblank := skipSpace_blank hafter []
    rwa [List.append_nil] at hblank
  unfold Decoder.run
  rw [bytes_append, bytes_append, hread]
  simp only [hend]

end UsageFeed.Json
