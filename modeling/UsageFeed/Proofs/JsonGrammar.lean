import Mathlib.Data.List.DropRight
import UsageFeed.Json.Skip
import UsageFeed.Proofs.JsonNumbers

/-!
# `UsageFeed.Proofs.JsonGrammar` — whatever is valid can be passed over

Members that nobody asked for are passed over, whatever their values are. Passing over a value ends
right behind it, at any place and any depth.

## Contents
- **Blanks.** `IsBlank`, the white space between tokens.
- **Texts.** `TextBody`, what may stand between quotes, and `skipText_body`.
- **Numbers.** `Numeral`, in three parts, and `skipScalar_numeral`.
- **Grammar.** `Valid`, one rule for each production.
- **Passing over.** `Leads`, how one step follows another; `Skipped`, what each form comes to, and
  `Valid.skipped`; `skipValue_valid`.
-/

namespace UsageFeed.Json

open Text.Utf8 (encodeChar_eq_singleton)

/-! ## Blanks -/

/-- White space between tokens. -/
def IsBlank (ws : List Char) : Prop := ∀ c ∈ ws, c ∈ [' ', '\n', '\r', '\t']

theorem isSpace_blank {ws : List Char} (h : IsBlank ws) : ∀ b ∈ bytes ws, isSpace b := by
  intro b hb
  obtain ⟨c, hc, hb⟩ := List.mem_flatMap.mp hb
  have hchar := h c hc
  simp only [List.mem_cons, List.not_mem_nil, or_false] at hchar
  rcases hchar with rfl | rfl | rfl | rfl <;> rw [List.mem_singleton.mp hb] <;> decide

/-- White space in front makes no difference where it is skipped. -/
theorem skipSpace_blank {ws : List Char} (h : IsBlank ws) (s : List UInt8) :
    skipSpace (bytes ws ++ s) = skipSpace s :=
  List.dropWhile_append_of_pos (isSpace_blank h)

/-- White space is skipped up to the first byte that is none. -/
theorem skipSpace_blank_cons {ws : List Char} (h : IsBlank ws) {b : UInt8}
    (hb : isSpace b = false) (s : List UInt8) : skipSpace (bytes ws ++ b :: s) = b :: s :=
  (skipSpace_blank h _).trans (skipSpace_cons hb s)

/-- Once it is skipped there is none left to skip. -/
theorem skipSpace_skipSpace (s : List UInt8) : skipSpace (skipSpace s) = skipSpace s :=
  List.dropWhile_idempotent ..

theorem readColon_blank {ws : List Char} (h : IsBlank ws) (s : List UInt8) :
    readColon (bytes ws ++ colonByte :: s) = .ok s := by
  unfold readColon
  rw [skipSpace_blank_cons h (by decide)]
  rfl

/-! ## Texts -/

/-- What may stand between the quotes of a valid text: spelled characters, and numbers of four
digits, be they a character's or not. -/
inductive TextBody : List Char → Prop
  | nil : TextBody []
  | char {c : Char} {spelled more : List Char} (first : SpellsChar c spelled)
      (rest : TextBody more) : TextBody (spelled ++ more)
  | code {n : Nat} {hex more : List Char} (first : Hex n hex) (rest : TextBody more) :
      TextBody ('\\' :: 'u' :: (hex ++ more))

theorem skipText_close (s : List UInt8) : skipText (quoteByte :: s) = .ok s := by
  rw [skipText.eq_def]
  simp only [if_true]

theorem skipText_plain {bs : List UInt8}
    (h : ∀ b ∈ bs, b ≠ quoteByte ∧ b ≠ backslash ∧ ¬b < 0x20) (s : List UInt8) :
    skipText (bs ++ s) = skipText s := by
  induction bs with
  | nil => rfl
  | cons b bs ih =>
    obtain ⟨⟨hquote, hslash, hcontrol⟩, hbs⟩ := List.forall_mem_cons.mp h
    rw [List.cons_append, skipText.eq_def]
    simp only [if_neg hquote, if_neg hslash, if_neg hcontrol, ih hbs]

theorem skipText_letter {e : UInt8} (h : (simpleEscape? e).isSome) (s : List UInt8) :
    skipText (backslash :: e :: s) = skipText s := by
  have hslash : backslash ≠ quoteByte := by decide
  rw [skipText.eq_def]
  simp only [if_neg hslash, if_true, if_pos h]

theorem skipText_code {n : Nat} {hex : List Char} (h : Hex n hex) (s : List UInt8) :
    skipText (bytes ('\\' :: 'u' :: hex) ++ s) = skipText s := by
  obtain ⟨_, _, _, _, _, _, _, _, hbytes, ha, hb, hc, hd, -⟩ := h.exists_bytes
  have hslash : backslash ≠ quoteByte := by decide
  have hletter : ¬(simpleEscape? 0x75).isSome := by decide
  show skipText (backslash :: 0x75 :: (bytes hex ++ s)) = _
  rw [hbytes, skipText.eq_def]
  simp only [List.cons_append, List.nil_append, if_neg hslash, if_true, if_neg hletter,
    List.all_cons, List.all_nil, ha, hb, hc, hd, Option.isSome_some, Bool.and_self]

/-- A spelled character hides no quote. -/
theorem skipText_spelled {c : Char} {cs : List Char} (h : SpellsChar c cs) (s : List UInt8) :
    skipText (bytes cs ++ s) = skipText s := by
  cases h with
  | plain quote slash control =>
    rw [bytes_cons, bytes_nil, List.append_nil]
    exact skipText_plain (encodeChar_plain quote slash control) s
  | letter known =>
    simp only [escapeLetters, List.mem_cons, Prod.mk.injEq, List.not_mem_nil, or_false] at known
    rcases known with ⟨rfl, rfl⟩ | ⟨rfl, rfl⟩ | ⟨rfl, rfl⟩ | ⟨rfl, rfl⟩ | ⟨rfl, rfl⟩ | ⟨rfl, rfl⟩ |
      ⟨rfl, rfl⟩ | ⟨rfl, rfl⟩ <;> exact skipText_letter (by decide) s
  | code number => exact skipText_code number s
  | @pair high low hs ls _ _ _ firstNumber secondNumber =>
    have hbytes : bytes ('\\' :: 'u' :: (hs ++ '\\' :: 'u' :: ls)) =
        bytes ('\\' :: 'u' :: hs) ++ bytes ('\\' :: 'u' :: ls) :=
      bytes_append ('\\' :: 'u' :: hs) _
    rw [hbytes, List.append_assoc, skipText_code firstNumber, skipText_code secondNumber]

/-- **A text is passed over up to its closing quote.** -/
theorem skipText_body {cs : List Char} (h : TextBody cs) (s : List UInt8) :
    skipText (bytes cs ++ quoteByte :: s) = .ok s := by
  induction h with
  | nil => exact skipText_close s
  | char first _ ih => rw [bytes_append, List.append_assoc, skipText_spelled first, ih]
  | @code n hex more first _ ih =>
    have hbytes : bytes ('\\' :: 'u' :: (hex ++ more)) =
        bytes ('\\' :: 'u' :: hex) ++ bytes more := bytes_append ('\\' :: 'u' :: hex) _
    rw [hbytes, List.append_assoc, skipText_code first, ih]

/-! ## Numbers -/

/-- One digit or more. -/
def IsDigits (ds : List Char) : Prop := ds ≠ [] ∧ ∀ c ∈ ds, c.isDigit

/-- The whole part of a number, without a zero in front of other digits. -/
inductive WholePart : List Char → Prop
  | zero : WholePart ['0']
  | digits {d : Char} {ds : List Char} (first : d.isDigit) (nonzero : d ≠ '0')
      (rest : ∀ c ∈ ds, c.isDigit) : WholePart (d :: ds)

/-- The part of a number after the point, or nothing. -/
inductive FractionPart : List Char → Prop
  | none : FractionPart []
  | point {ds : List Char} (digits : IsDigits ds) : FractionPart ('.' :: ds)

/-- The exponent of a number, or nothing. -/
inductive ExponentPart : List Char → Prop
  | none : ExponentPart []
  | mark {e : Char} {sign ds : List Char} (letter : e = 'e' ∨ e = 'E')
      (signed : sign = [] ∨ sign = ['+'] ∨ sign = ['-']) (digits : IsDigits ds) :
      ExponentPart (e :: (sign ++ ds))

/-- The text of a number. -/
inductive Numeral : List Char → Prop
  | parts {sign whole fraction exponent : List Char} (signed : sign = [] ∨ sign = ['-'])
      (first : WholePart whole) (second : FractionPart fraction)
      (third : ExponentPart exponent) : Numeral (sign ++ (whole ++ (fraction ++ exponent)))

theorem isDigitByte_digits {ds : List Char} (h : ∀ c ∈ ds, c.isDigit) :
    ∀ b ∈ bytes ds, isDigitByte b := by
  intro b hb
  obtain ⟨c, hc, hb⟩ := List.mem_flatMap.mp hb
  obtain ⟨d, hd, hdigit⟩ := encodeChar_isDigit (h c hc)
  rw [hd, List.mem_singleton] at hb
  rw [hb]
  exact hdigit

/-- Digits are passed over up to the first byte that is none. -/
theorem skipDigits_digits {ds : List Char} (h : ∀ c ∈ ds, c.isDigit) {s : List UInt8}
    (hs : opensWithDigit s = false) : skipDigits (bytes ds ++ s) = s := by
  unfold skipDigits
  rw [List.dropWhile_append_of_pos (isDigitByte_digits h)]
  cases s with
  | nil => rfl
  | cons b s =>
    have hb : isDigitByte b = false := hs
    rw [List.dropWhile_cons_of_neg (by rw [hb]; exact Bool.false_ne_true)]

theorem IsDigits.exists_cons {ds : List Char} (h : IsDigits ds) :
    ∃ b more, bytes ds = b :: bytes more ∧ isDigitByte b ∧ ∀ c ∈ more, c.isDigit := by
  obtain ⟨hne, hdigits⟩ := h
  obtain ⟨c, more, rfl⟩ := List.exists_cons_of_ne_nil hne
  obtain ⟨hc, hmore⟩ := List.forall_mem_cons.mp hdigits
  obtain ⟨b, hb, hdigit⟩ := encodeChar_isDigit hc
  exact ⟨b, more, by rw [bytes_cons, hb]; rfl, hdigit, hmore⟩

section Numeral

variable {rest : List UInt8}

theorem skipAfterFraction_exponent (hrest : EndsNumber rest) {cs : List Char}
    (h : ExponentPart cs) : skipAfterFraction (bytes cs ++ rest) = .ok rest := by
  cases h with
  | none =>
    cases rest with
    | nil => rfl
    | cons b rest =>
      show (if isExponentMark b then _ else _) = _
      rw [if_neg (by rw [hrest.2.2]; exact Bool.false_ne_true)]
  | @mark e sign ds letter hsign digits =>
    obtain ⟨b, more, hds, hb, hmore⟩ := digits.exists_cons
    have hskip : skipExponent (bytes (sign ++ ds) ++ rest) = .ok rest := by
      -- after the sign, if there is one, stand the digits
      have hafter : (exponentSign (bytes (sign ++ ds) ++ rest)).2 = b :: (bytes more ++ rest) := by
        rw [bytes_append, hds]
        rcases hsign with rfl | rfl | rfl
        · have hminus := ne_of_isDigitByte hb (c := 0x2D) (by decide)
          have hplus := ne_of_isDigitByte hb (c := 0x2B) (by decide)
          show (if b = 0x2D then _ else if b = 0x2B then _ else _ : Bool × List UInt8).2 = _
          rw [if_neg hminus, if_neg hplus]
          rfl
        · rfl
        · rfl
      unfold skipExponent
      rw [hafter]
      simp only [hb, if_true, skipDigits_digits hmore hrest.opensWithDigit]
    rcases letter with rfl | rfl <;> exact hskip

/-- Neither a fraction nor an exponent goes on with digits. -/
theorem opensWithDigit_parts (hrest : EndsNumber rest) {fraction exponent : List Char}
    (hf : FractionPart fraction) (he : ExponentPart exponent) :
    opensWithDigit (bytes (fraction ++ exponent) ++ rest) = false := by
  have hexponent : opensWithDigit (bytes exponent ++ rest) = false := by
    cases he with
    | none => exact hrest.opensWithDigit
    | mark letter _ _ => rcases letter with rfl | rfl <;> rfl
  cases hf with
  | none => exact hexponent
  | point _ => rfl

theorem skipAfterWhole_parts (hrest : EndsNumber rest) {fraction exponent : List Char}
    (hf : FractionPart fraction) (he : ExponentPart exponent) :
    skipAfterWhole (bytes (fraction ++ exponent) ++ rest) = .ok rest := by
  have hexponent := skipAfterFraction_exponent hrest he
  cases hf with
  | none =>
    cases he with
    | none =>
      -- nothing is left of the number, and what follows does not go on with it
      cases rest with
      | nil => rfl
      | cons b rest =>
        show (if b = 0x2E then _ else skipAfterFraction (b :: rest)) = _
        rw [if_neg hrest.2.1]
        exact hexponent
    | mark letter _ _ => rcases letter with rfl | rfl <;> exact hexponent
  | @point ds digits =>
    obtain ⟨b, more, hds, hb, hmore⟩ := digits.exists_cons
    have hopens : opensWithDigit (bytes exponent ++ rest) = false :=
      opensWithDigit_parts hrest .none he
    have hbytes : bytes ('.' :: ds ++ exponent) ++ rest =
        0x2E :: b :: (bytes more ++ (bytes exponent ++ rest)) := by
      rw [bytes_append, bytes_cons, hds, List.append_assoc, List.append_assoc]
      rfl
    rw [hbytes]
    show (if isDigitByte b then _ else _) = _
    rw [if_pos hb, skipDigits_digits hmore hopens]
    exact hexponent

theorem skipNumber_whole (hrest : EndsNumber rest) {whole fraction exponent : List Char}
    (hw : WholePart whole) (hf : FractionPart fraction) (he : ExponentPart exponent) :
    skipNumber (bytes whole ++ (bytes (fraction ++ exponent) ++ rest)) = .ok rest := by
  have hparts := skipAfterWhole_parts hrest hf he
  have hopens := opensWithDigit_parts hrest hf he
  generalize bytes (fraction ++ exponent) ++ rest = s at hparts hopens
  cases hw with
  | zero =>
    cases s with
    | nil => exact hparts
    | cons b s =>
      have hb : isDigitByte b = false := hopens
      show (if isDigitByte b then _ else _) = _
      rw [hb, if_neg Bool.false_ne_true]
      exact hparts
  | @digits d ds first nonzero digits =>
    obtain ⟨b, hb, hdigit⟩ := encodeChar_isDigit first
    have hzero : b ≠ 0x30 := by
      rintro rfl
      exact nonzero (encodeChar_eq_singleton (by rw [hb]; exact List.mem_cons_self) (by decide)).1
    rw [bytes_cons, hb, List.append_assoc, List.singleton_append]
    show (if b = 0x30 then _ else if isDigitByte b then _ else _) = _
    rw [if_neg hzero, if_pos hdigit, skipDigits_digits digits hopens]
    exact hparts

theorem WholePart.exists_cons {cs : List Char} (h : WholePart cs) :
    ∃ b more, bytes cs = b :: more ∧ isDigitByte b := by
  cases h with
  | zero => exact ⟨_, _, rfl, by decide⟩
  | digits first =>
    obtain ⟨b, hb, hdigit⟩ := encodeChar_isDigit first
    exact ⟨b, _, by rw [bytes_cons, hb]; rfl, hdigit⟩

theorem skipScalar_digit {b : UInt8} (hb : isDigitByte b) (s : List UInt8) :
    skipScalar (b :: s) = skipNumber (b :: s) := by
  have hne : ∀ c, isDigitByte c = false → b ≠ c := fun _ => ne_of_isDigitByte hb
  rw [skipScalar, if_neg (hne _ (by decide)), if_neg (hne _ (by decide)),
    if_neg (hne _ (by decide)), if_neg (hne _ (by decide)), if_pos hb]

/-- **A number is passed over**, wherever what follows does not go on with it. -/
theorem skipScalar_numeral (hrest : EndsNumber rest) {cs : List Char} (h : Numeral cs) :
    skipScalar (bytes cs ++ rest) = .ok rest := by
  cases h with
  | @parts sign whole fraction exponent signed first second third =>
    have hnumber := skipNumber_whole hrest first second third
    rw [bytes_pieces]
    rcases signed with rfl | rfl
    · obtain ⟨b, more, hwhole, hb⟩ := first.exists_cons
      rw [hwhole] at hnumber ⊢
      exact (skipScalar_digit hb _).trans hnumber
    · exact hnumber

end Numeral

/-! ## Grammar -/

/-- What a part of a document can be. -/
inductive Form where
  | value
  /-- A value with white space around it. -/
  | element
  /-- Elements with commas between them. -/
  | elements
  /-- A name and an element with a colon between them. -/
  | member
  /-- Members with commas between them. -/
  | members

/-- The values that are words. -/
def fixedWords : List (List Char) :=
  [['n', 'u', 'l', 'l'], ['t', 'r', 'u', 'e'], ['f', 'a', 'l', 's', 'e']]

/-- The grammar of JSON: the texts of each form. -/
inductive Valid : Form → List Char → Prop
  | word {cs : List Char} (known : cs ∈ fixedWords) : Valid .value cs
  | number {cs : List Char} (numeral : Numeral cs) : Valid .value cs
  | text {cs : List Char} (body : TextBody cs) : Valid .value ('"' :: (cs ++ ['"']))
  | emptyList {ws : List Char} (blank : IsBlank ws) : Valid .value ('[' :: (ws ++ [']']))
  | list {cs : List Char} (elements : Valid .elements cs) : Valid .value ('[' :: (cs ++ [']']))
  | emptyObject {ws : List Char} (blank : IsBlank ws) :
      Valid .value ('\x7b' :: (ws ++ ['\x7d']))
  | object {cs : List Char} (members : Valid .members cs) :
      Valid .value ('\x7b' :: (cs ++ ['\x7d']))
  | element {ws cs ws' : List Char} (before : IsBlank ws) (value : Valid .value cs)
      (after : IsBlank ws') : Valid .element (ws ++ (cs ++ ws'))
  | lastElement {cs : List Char} (element : Valid .element cs) : Valid .elements cs
  | moreElements {cs ds : List Char} (element : Valid .element cs) (elements : Valid .elements ds) :
      Valid .elements (cs ++ ',' :: ds)
  | member {ws name ws' cs : List Char} (before : IsBlank ws) (body : TextBody name)
      (after : IsBlank ws') (element : Valid .element cs) :
      Valid .member (ws ++ '"' :: (name ++ '"' :: (ws' ++ ':' :: cs)))
  | lastMember {cs : List Char} (member : Valid .member cs) : Valid .members cs
  | moreMembers {cs ds : List Char} (member : Valid .member cs) (members : Valid .members ds) :
      Valid .members (cs ++ ',' :: ds)

/-! ## Passing over -/

/-- Where passing over stands: its stage, the open containers and the bytes from there on. -/
abbrev Standing := Stage × List Bracket × List UInt8

/-- Passing over goes from one place to another in so many steps. -/
def Leads (n : Nat) (a b : Standing) : Prop :=
  ∀ fuel, skipFrom (n + (fuel + 1)) a.1 a.2.1 a.2.2 = skipFrom (fuel + 1) b.1 b.2.1 b.2.2

theorem Leads.trans {m n : Nat} {a b c : Standing} (h : Leads m a b) (h' : Leads n b c) :
    Leads (m + n) a c := by
  intro fuel
  have hm : skipFrom (m + (n + (fuel + 1))) a.1 a.2.1 a.2.2 =
      skipFrom (n + (fuel + 1)) b.1 b.2.1 b.2.2 := h (n + fuel)
  rw [Nat.add_assoc, hm, h' fuel]

/-- One step, whatever fuel is left behind it. -/
theorem leads_one {a b : Standing} (h : ∀ fuel,
    skipFrom (fuel + 1) a.1 a.2.1 a.2.2 = skipFrom fuel b.1 b.2.1 b.2.2) : Leads 1 a b := by
  intro fuel
  rw [Nat.add_comm 1]
  exact h (fuel + 1)

section Steps

attribute [local simp] skipFrom

variable {opened : List Bracket} {k : Bracket} {b : UInt8} {r s t : List UInt8}

theorem leads_scalar (hs : skipSpace s = b :: r) (hlist : b ≠ openList) (hobject : b ≠ openObject)
    (hscalar : skipScalar (b :: r) = .ok t) :
    Leads 1 (.value, opened, s) (.after, opened, t) :=
  leads_one fun _ => by simp [hs, hlist, hobject, hscalar]

theorem leads_openList (hs : skipSpace s = openList :: r) :
    Leads 1 (.value, opened, s) (.first, .list :: opened, r) :=
  leads_one fun _ => by simp [hs]

theorem leads_openObject (hs : skipSpace s = openObject :: r) :
    Leads 1 (.value, opened, s) (.first, .object :: opened, r) := by
  have hne : openObject ≠ openList := by decide
  exact leads_one fun _ => by simp [hs, hne]

theorem leads_empty (hs : skipSpace s = k.close :: r) :
    Leads 1 (.first, k :: opened, s) (.after, opened, r) :=
  leads_one fun _ => by simp [hs]

theorem leads_close (hs : skipSpace s = k.close :: r) :
    Leads 1 (.after, k :: opened, s) (.after, opened, r) :=
  leads_one fun _ => by simp [hs]

theorem leads_firstItem (hs : skipSpace s = b :: r) (hb : b ≠ closeList) :
    Leads 1 (.first, .list :: opened, s) (.value, .list :: opened, b :: r) :=
  leads_one fun _ => by simp [hs, Bracket.close, hb]

theorem leads_firstName (hs : skipSpace s = b :: r) (hb : b ≠ closeObject)
    (hname : skipName (b :: r) = .ok t) :
    Leads 1 (.first, .object :: opened, s) (.value, .object :: opened, t) :=
  leads_one fun _ => by simp [hs, Bracket.close, hb, hname]

theorem leads_nextItem (hs : skipSpace s = commaByte :: r) :
    Leads 1 (.after, .list :: opened, s) (.value, .list :: opened, r) := by
  have hne : commaByte ≠ closeList := by decide
  exact leads_one fun _ => by simp [hs, Bracket.close, hne]

theorem leads_nextName (hs : skipSpace s = commaByte :: r) (hname : skipName r = .ok t) :
    Leads 1 (.after, .object :: opened, s) (.value, .object :: opened, t) := by
  have hne : commaByte ≠ closeObject := by decide
  exact leads_one fun _ => by simp [hs, Bracket.close, hne, hname]

end Steps

/-- A number begins with a digit or a minus sign. -/
theorem Numeral.exists_cons {cs : List Char} (h : Numeral cs) :
    ∃ b more, bytes cs = b :: more ∧ (isDigitByte b ∨ b = 0x2D) := by
  cases h with
  | @parts sign whole fraction exponent signed first second third =>
    rcases signed with rfl | rfl
    · obtain ⟨b, more, hwhole, hb⟩ := first.exists_cons
      refine ⟨b, more ++ bytes (fraction ++ exponent), ?_, .inl hb⟩
      rw [List.nil_append, bytes_append, hwhole]
      rfl
    · exact ⟨_, _, rfl, .inr rfl⟩

/-- The first byte that is no space is not one that closes a container. -/
theorem Valid.starts {form : Form} {cs : List Char} (h : Valid form cs) (rest : List UInt8) :
    ∃ b r, skipSpace (bytes cs ++ rest) = b :: r ∧ b ≠ closeList ∧ b ≠ closeObject := by
  have hfirst : ∀ {cs : List Char} {b : UInt8} {more : List UInt8}, bytes cs = b :: more →
      isSpace b = false → b ≠ closeList → b ≠ closeObject → ∀ rest,
        ∃ b r, skipSpace (bytes cs ++ rest) = b :: r ∧ b ≠ closeList ∧ b ≠ closeObject := by
    intro cs b more hb hspace hlist hobject rest
    exact ⟨b, more ++ rest, by rw [hb]; exact skipSpace_cons hspace _, hlist, hobject⟩
  induction h generalizing rest with
  | word known =>
    simp only [fixedWords, List.mem_cons, List.not_mem_nil, or_false] at known
    rcases known with rfl | rfl | rfl <;>
      exact hfirst rfl (by decide) (by decide) (by decide) rest
  | text | emptyList | list | emptyObject | object =>
    exact hfirst rfl (by decide) (by decide) (by decide) rest
  | number numeral =>
    obtain ⟨b, more, hb, hdigit | rfl⟩ := numeral.exists_cons
    · exact hfirst hb (isSpace_of_isDigitByte hdigit) (ne_of_isDigitByte hdigit (by decide))
        (ne_of_isDigitByte hdigit (by decide)) rest
    · exact hfirst hb (by decide) (by decide) (by decide) rest
  | element before _ _ ih =>
    rw [bytes_pieces, skipSpace_blank before]
    exact ih _
  | lastElement _ ih => exact ih rest
  | moreElements _ _ ih _ =>
    rw [bytes_append, List.append_assoc]
    exact ih _
  | member before _ _ _ _ =>
    rw [bytes_append, List.append_assoc, skipSpace_blank before]
    exact hfirst rfl (by decide) (by decide) (by decide) rest
  | lastMember _ ih => exact ih rest
  | moreMembers _ _ ih _ =>
    rw [bytes_append, List.append_assoc]
    exact ih _

/-- What passing over a form comes to, in no more than two steps for each byte: a value is behind it
in any container or in none, what stands in a container is behind it as far as that goes. -/
def Skipped : Form → List Char → Prop
  | .value, cs => ∃ n ≤ 2 * (bytes cs).length, ∀ opened s rest,
      skipSpace s = skipSpace (bytes cs ++ rest) → EndsNumber rest →
        Leads n (.value, opened, s) (.after, opened, rest)
  | .element, cs => ∃ n ≤ 2 * (bytes cs).length, ∀ opened s rest,
      skipSpace s = skipSpace (bytes cs ++ rest) → Ends rest →
        ∃ t, skipSpace t = skipSpace rest ∧ Leads n (.value, opened, s) (.after, opened, t)
  | .elements, cs => ∃ n ≤ 2 * (bytes cs).length + 1, ∀ opened s rest,
      skipSpace s = skipSpace (bytes cs ++ closeList :: rest) →
        Leads n (.value, .list :: opened, s) (.after, opened, rest)
  | .member, cs => ∃ n ≤ 2 * (bytes cs).length, ∀ opened s rest,
      skipSpace s = skipSpace (bytes cs ++ rest) → Ends rest →
        ∃ t u, skipName s = .ok u ∧ skipSpace t = skipSpace rest ∧
          Leads n (.value, opened, u) (.after, opened, t)
  | .members, cs => ∃ n ≤ 2 * (bytes cs).length + 1, ∀ opened s rest,
      skipSpace s = skipSpace (bytes cs ++ closeObject :: rest) →
        ∃ u, skipName s = .ok u ∧ Leads n (.value, .object :: opened, u) (.after, opened, rest)

section Skipped

variable {cs ds ws ws' name : List Char} {rest : List UInt8}

/-- White space before what follows does not go on with a number. -/
theorem endsNumber_blank (h : IsBlank ws) (hrest : Ends rest) :
    EndsNumber (bytes ws ++ rest) := by
  cases ws with
  | nil => exact hrest.endsNumber
  | cons c ws =>
    have hc := (List.forall_mem_cons.mp h).1
    simp only [List.mem_cons, List.not_mem_nil, or_false] at hc
    rcases hc with rfl | rfl | rfl | rfl <;> exact ⟨by decide, by decide, by decide⟩

/-- A value that is no container is passed over in one step. -/
theorem Skipped.scalar {b : UInt8} {more : List UInt8} (hb : bytes cs = b :: more)
    (hspace : isSpace b = false) (hlist : b ≠ openList) (hobject : b ≠ openObject)
    (h : ∀ rest, EndsNumber rest → skipScalar (bytes cs ++ rest) = .ok rest) :
    Skipped .value cs := by
  refine ⟨1, by rw [hb, List.length_cons]; omega, fun opened s rest hs hrest => ?_⟩
  have hscalar := h rest hrest
  rw [hb, List.cons_append] at hs hscalar
  rw [skipSpace_cons hspace] at hs
  exact leads_scalar hs hlist hobject hscalar

theorem Skipped.word (known : cs ∈ fixedWords) : Skipped .value cs := by
  simp only [fixedWords, List.mem_cons, List.not_mem_nil, or_false] at known
  rcases known with rfl | rfl | rfl <;>
    exact .scalar rfl (by decide) (by decide) (by decide) fun _ _ => rfl

theorem Skipped.number (h : Numeral cs) : Skipped .value cs := by
  obtain ⟨b, more, hb, hdigit | rfl⟩ := h.exists_cons
  · exact .scalar hb (isSpace_of_isDigitByte hdigit) (ne_of_isDigitByte hdigit (by decide))
      (ne_of_isDigitByte hdigit (by decide)) fun _ hrest => skipScalar_numeral hrest h
  · exact .scalar hb (by decide) (by decide) (by decide) fun _ hrest =>
      skipScalar_numeral hrest h

theorem Skipped.text (h : TextBody cs) : Skipped .value ('"' :: (cs ++ ['"'])) := by
  refine .scalar rfl (by decide) (by decide) (by decide) fun rest _ => ?_
  rw [bytes_between rfl rfl]
  exact skipText_body h rest

theorem Skipped.emptyList (h : IsBlank ws) : Skipped .value ('[' :: (ws ++ [']'])) := by
  refine ⟨2, by rw [length_between rfl rfl]; omega, fun opened s rest hs _ => ?_⟩
  rw [bytes_between rfl rfl, skipSpace_cons (by decide)] at hs
  have hclose := skipSpace_blank_cons h (by decide : isSpace closeList = false) rest
  exact (leads_openList hs).trans (leads_empty hclose)

theorem Skipped.emptyObject (h : IsBlank ws) :
    Skipped .value ('\x7b' :: (ws ++ ['\x7d'])) := by
  refine ⟨2, by rw [length_between rfl rfl]; omega, fun opened s rest hs _ => ?_⟩
  rw [bytes_between rfl rfl, skipSpace_cons (by decide)] at hs
  have hclose := skipSpace_blank_cons h (by decide : isSpace closeObject = false) rest
  exact (leads_openObject hs).trans (leads_empty hclose)

/-- A list is passed over by opening it, seeing that it is not empty, and then its elements. -/
theorem Skipped.list (hvalid : Valid .elements cs) (h : Skipped .elements cs) :
    Skipped .value ('[' :: (cs ++ [']'])) := by
  obtain ⟨n, hn, h⟩ := h
  refine ⟨1 + (1 + n), by rw [length_between rfl rfl]; omega, fun opened s rest hs _ => ?_⟩
  rw [bytes_between rfl rfl, skipSpace_cons (by decide)] at hs
  obtain ⟨b, r, hb, hclose, -⟩ := hvalid.starts (closeList :: rest)
  have hsame : skipSpace (b :: r) = skipSpace (bytes cs ++ closeList :: rest) := by
    rw [← hb, skipSpace_skipSpace]
  exact (leads_openList hs).trans ((leads_firstItem hb hclose).trans (h opened _ rest hsame))

theorem Skipped.object (hvalid : Valid .members cs) (h : Skipped .members cs) :
    Skipped .value ('\x7b' :: (cs ++ ['\x7d'])) := by
  obtain ⟨n, hn, h⟩ := h
  refine ⟨1 + (1 + n), by rw [length_between rfl rfl]; omega, fun opened s rest hs _ => ?_⟩
  rw [bytes_between rfl rfl, skipSpace_cons (by decide)] at hs
  obtain ⟨b, r, hb, -, hclose⟩ := hvalid.starts (closeObject :: rest)
  have hsame : skipSpace (b :: r) = skipSpace (bytes cs ++ closeObject :: rest) := by
    rw [← hb, skipSpace_skipSpace]
  obtain ⟨u, hname, hleads⟩ := h opened _ rest hsame
  exact (leads_openObject hs).trans ((leads_firstName hb hclose hname).trans hleads)

theorem Skipped.element (hbefore : IsBlank ws) (h : Skipped .value cs) (hafter : IsBlank ws') :
    Skipped .element (ws ++ (cs ++ ws')) := by
  obtain ⟨n, hn, h⟩ := h
  refine ⟨n, by simp only [bytes_append, List.length_append]; omega,
    fun opened s rest hs hrest => ?_⟩
  refine ⟨bytes ws' ++ rest, skipSpace_blank hafter rest, h opened s _ ?_
    (endsNumber_blank hafter hrest)⟩
  rw [hs, bytes_pieces, skipSpace_blank hbefore]

theorem Skipped.lastElement (h : Skipped .element cs) : Skipped .elements cs := by
  obtain ⟨n, hn, h⟩ := h
  refine ⟨n + 1, by omega, fun opened s rest hs => ?_⟩
  obtain ⟨t, ht, hleads⟩ := h (.list :: opened) s (closeList :: rest) hs (.inr (.inl rfl))
  rw [skipSpace_cons (by decide)] at ht
  exact hleads.trans (leads_close ht)

theorem Skipped.moreElements (h : Skipped .element cs) (hmore : Skipped .elements ds) :
    Skipped .elements (cs ++ ',' :: ds) := by
  obtain ⟨n, hn, h⟩ := h
  obtain ⟨m, hm, hmore⟩ := hmore
  refine ⟨n + (1 + m), by rw [length_around rfl]; omega, fun opened s rest hs => ?_⟩
  rw [bytes_around rfl] at hs
  obtain ⟨t, ht, hleads⟩ := h (.list :: opened) s _ hs (.inl rfl)
  rw [skipSpace_cons (by decide)] at ht
  exact hleads.trans ((leads_nextItem ht).trans (hmore opened _ rest rfl))

/-- A member is passed over by its name and then its element. -/
theorem Skipped.member (hbefore : IsBlank ws) (hname : TextBody name) (hafter : IsBlank ws')
    (h : Skipped .element cs) :
    Skipped .member (ws ++ '"' :: (name ++ '"' :: (ws' ++ ':' :: cs))) := by
  obtain ⟨n, hn, h⟩ := h
  have hquote : String.utf8EncodeChar '"' = [quoteByte] := rfl
  have hmark : String.utf8EncodeChar ':' = [colonByte] := rfl
  refine ⟨n, ?_, fun opened s rest hs hrest => ?_⟩
  · simp only [length_around hquote, length_around hmark]
    omega
  obtain ⟨t, ht, hleads⟩ := h opened (bytes cs ++ rest) rest rfl hrest
  refine ⟨t, bytes cs ++ rest, ?_, ht, hleads⟩
  rw [bytes_around hquote, skipSpace_blank_cons hbefore (by decide), bytes_around hquote,
    bytes_around hmark] at hs
  unfold skipName
  rw [hs]
  simp only [if_true, skipText_body hname, bind, Except.bind]
  exact readColon_blank hafter _

theorem Skipped.lastMember (h : Skipped .member cs) : Skipped .members cs := by
  obtain ⟨n, hn, h⟩ := h
  refine ⟨n + 1, by omega, fun opened s rest hs => ?_⟩
  obtain ⟨t, u, hname, ht, hleads⟩ :=
    h (.object :: opened) s (closeObject :: rest) hs (.inr (.inr rfl))
  rw [skipSpace_cons (by decide)] at ht
  exact ⟨u, hname, hleads.trans (leads_close ht)⟩

theorem Skipped.moreMembers (h : Skipped .member cs) (hmore : Skipped .members ds) :
    Skipped .members (cs ++ ',' :: ds) := by
  obtain ⟨n, hn, h⟩ := h
  obtain ⟨m, hm, hmore⟩ := hmore
  refine ⟨n + (1 + m), by rw [length_around rfl]; omega, fun opened s rest hs => ?_⟩
  rw [bytes_around rfl] at hs
  obtain ⟨t, u, hname, ht, hleads⟩ := h (.object :: opened) s _ hs (.inl rfl)
  rw [skipSpace_cons (by decide)] at ht
  obtain ⟨v, hnext, hrest⟩ := hmore opened _ rest rfl
  exact ⟨u, hname, hleads.trans ((leads_nextName ht hnext).trans hrest)⟩

/-- **Every form is passed over**, production by production. -/
theorem Valid.skipped {form : Form} (h : Valid form cs) : Skipped form cs := by
  induction h with
  | word known => exact .word known
  | number numeral => exact .number numeral
  | text body => exact .text body
  | emptyList blank => exact .emptyList blank
  | list elements ih => exact .list elements ih
  | emptyObject blank => exact .emptyObject blank
  | object members ih => exact .object members ih
  | element before _ after ih => exact .element before ih after
  | lastElement _ ih => exact ih.lastElement
  | moreElements _ _ ih ihMore => exact ih.moreElements ihMore
  | member before body after _ ih => exact .member before body after ih
  | lastMember _ ih => exact ih.lastMember
  | moreMembers _ _ ih ihMore => exact ih.moreMembers ihMore

/-- **A valid value is passed over**, with the white space before it, up to where it ends. -/
theorem skipValue_valid (hblank : IsBlank ws) (h : Valid .value cs) (hrest : EndsNumber rest) :
    skipValue (bytes ws ++ (bytes cs ++ rest)) = .ok rest := by
  obtain ⟨n, hn, hleads⟩ := h.skipped
  obtain ⟨fuel, hfuel⟩ : ∃ fuel,
      2 * (bytes ws ++ (bytes cs ++ rest)).length + 2 = n + (fuel + 1) := by
    refine ⟨2 * (bytes ws ++ (bytes cs ++ rest)).length + 1 - n, ?_⟩
    simp only [List.length_append]
    omega
  unfold skipValue
  rw [hfuel]
  exact (hleads [] _ rest (skipSpace_blank hblank _) hrest fuel).trans rfl

end Skipped

end UsageFeed.Json
