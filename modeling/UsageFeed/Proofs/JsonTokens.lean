import UsageFeed.Json.Document
import UsageFeed.Json.Text
import UsageFeed.Proofs.Encoding

/-!
# `UsageFeed.Proofs.JsonTokens` — the tokens of written JSON

A reader is given the bytes of what was written, and after them whatever else follows. All that a
reader has to know of the latter is that it does not go on with the token before it.

## Contents
- **Bytes.** `bytes` of characters; `Ends`, what may follow a document inside another.
- **Between the items.** `At`, where an item may begin, and what `nextItem` and `nextName` find there.
- **Spellings.** `SpellsChar`, the ways to spell a character inside a text, of which the writer
  chooses one (`spells_escapeChar`), and `SpellsText` for a whole text.
- **Texts.** `readChars_spelled`, one character, and `readText_spelled`, a whole text.
-/

namespace UsageFeed.Json

open Text.Utf8 (next_eq_char_iff encodeChar_cases)

/-! ## Bytes -/

/-- The bytes of characters. -/
def bytes (cs : List Char) : List UInt8 := cs.flatMap String.utf8EncodeChar

@[simp] theorem bytes_nil : bytes [] = [] := rfl

@[simp] theorem bytes_append (cs ds : List Char) : bytes (cs ++ ds) = bytes cs ++ bytes ds :=
  List.flatMap_append

theorem bytes_cons (c : Char) (cs : List Char) :
    bytes (c :: cs) = String.utf8EncodeChar c ++ bytes cs :=
  List.flatMap_cons

/-- The bytes of the text of a document. -/
theorem encode_write (j : Json) : Text.Utf8.encode j.write = bytes j.chars := by
  unfold Text.Utf8.encode write
  rw [String.toList_ofList]
  rfl

/-- There are at least as many bytes as characters. -/
theorem length_le_bytes (cs : List Char) : cs.length ≤ (bytes cs).length := by
  induction cs with
  | nil => exact Nat.le_refl _
  | cons c cs ih =>
    have hpos : 0 < (String.utf8EncodeChar c).length :=
      List.length_pos_iff.mpr String.utf8EncodeChar_ne_nil
    rw [bytes_cons, List.length_append, List.length_cons]
    omega

/-- The bytes of three pieces. -/
theorem bytes_pieces (as cs ds : List Char) (s : List UInt8) :
    bytes (as ++ (cs ++ ds)) ++ s = bytes as ++ (bytes cs ++ (bytes ds ++ s)) := by
  rw [bytes_append, bytes_append, List.append_assoc, List.append_assoc]

section Bytes

variable {a b : Char} {p q : UInt8}

/-- Characters between two others that are one byte each. -/
theorem bytes_between (ha : String.utf8EncodeChar a = [p]) (hb : String.utf8EncodeChar b = [q])
    (cs : List Char) (s : List UInt8) :
    bytes (a :: (cs ++ [b])) ++ s = p :: (bytes cs ++ q :: s) := by
  rw [bytes_cons, bytes_append, bytes_cons, ha, hb, List.append_assoc, List.append_assoc]
  rfl

/-- Characters before and after one that is one byte. -/
theorem bytes_around (hb : String.utf8EncodeChar b = [q]) (cs ds : List Char) (s : List UInt8) :
    bytes (cs ++ b :: ds) ++ s = bytes cs ++ q :: (bytes ds ++ s) := by
  rw [bytes_append, bytes_cons, hb, List.append_assoc]
  rfl

theorem length_between (ha : String.utf8EncodeChar a = [p]) (hb : String.utf8EncodeChar b = [q])
    (cs : List Char) : (bytes (a :: (cs ++ [b]))).length = (bytes cs).length + 2 := by
  have h := congrArg List.length (bytes_between ha hb cs [])
  simpa using h

theorem length_around (hb : String.utf8EncodeChar b = [q]) (cs ds : List Char) :
    (bytes (cs ++ b :: ds)).length = (bytes cs).length + (bytes ds).length + 1 := by
  have h := congrArg List.length (bytes_around hb cs ds [])
  simp only [List.append_nil, List.length_append, List.length_cons] at h
  omega

end Bytes

/-- What may follow a document: nothing, a comma or the end of the container it stands in. -/
def Ends : List UInt8 → Prop
  | [] => True
  | b :: _ => b = commaByte ∨ b = closeList ∨ b = closeObject

theorem skipSpace_cons {b : UInt8} (h : isSpace b = false) (s : List UInt8) :
    skipSpace (b :: s) = b :: s := by
  simp [skipSpace, h]

/-! ## Between the items -/

/-- A place in a container from which the next item begins at `t`: it may stand there right away, or
it stands behind a comma. -/
def At (first : Bool) (s t : List UInt8) : Prop :=
  if first then s = t else skipSpace s = commaByte :: t

section Between

variable {first : Bool} {b : UInt8} {r s t : List UInt8}

theorem nextItem_at (h : At first s t) (ht : skipSpace t = b :: r) (hb : b ≠ closeList) :
    nextItem first s = .ok (true, b :: r) := by
  unfold nextItem
  cases first with
  | true =>
    obtain rfl : s = t := h
    simp only [ht, if_neg hb, if_true]
  | false =>
    have hs : skipSpace s = commaByte :: t := h
    have hne : commaByte ≠ closeList := by decide
    simp only [hs, ht, if_neg hb, if_neg hne, if_true, Bool.false_eq_true, if_false]

theorem nextItem_close (first : Bool) (hs : skipSpace s = closeList :: r) :
    nextItem first s = .ok (false, closeList :: r) := by
  unfold nextItem
  simp only [hs, if_true]

theorem nextName_at (h : At first s t) (ht : skipSpace t = quoteByte :: r) :
    nextName first s = .ok (true, r) := by
  unfold nextName
  have hquote : quoteByte ≠ closeObject := by decide
  cases first with
  | true =>
    obtain rfl : s = t := h
    simp only [ht, if_neg hquote, if_true]
  | false =>
    have hs : skipSpace s = commaByte :: t := h
    have hne : commaByte ≠ closeObject := by decide
    simp only [hs, ht, if_neg hne, if_true, Bool.false_eq_true, if_false]

theorem nextName_close (first : Bool) (hs : skipSpace s = closeObject :: r) :
    nextName first s = .ok (false, closeObject :: r) := by
  unfold nextName
  simp only [hs, if_true]

end Between

/-! ## Spellings -/

/-- The character is the hexadecimal digit of that value, as a small letter or a capital one. -/
def HexDigit (d : Nat) (c : Char) : Prop := d < 16 ∧ (c = d.digitChar ∨ c = d.digitChar.toUpper)

/-- The characters are the four hexadecimal digits of a number. -/
inductive Hex : Nat → List Char → Prop
  | digits {a b c d : Nat} {p q r s : Char} (first : HexDigit a p) (second : HexDigit b q)
      (third : HexDigit c r) (fourth : HexDigit d s) :
      Hex (((a * 16 + b) * 16 + c) * 16 + d) [p, q, r, s]

/-- The characters that may stand after a backslash, each with what it stands for there. -/
def escapeLetters : List (Char × Char) :=
  [('"', '"'), ('\\', '\\'), ('/', '/'), ('b', '\x08'), ('f', '\x0c'), ('n', '\n'), ('r', '\r'),
    ('t', '\t')]

/-- The ways to spell a character inside a text: as itself, unless it is a quote, a backslash or a
control; by an escape of one letter, if there is one; by its number; or, if that takes more than
four digits, by two numbers that stand for it together. -/
inductive SpellsChar (c : Char) : List Char → Prop
  | plain (quote : c ≠ '"') (slash : c ≠ '\\') (control : 0x20 ≤ c.toNat) : SpellsChar c [c]
  | letter {l : Char} (known : (l, c) ∈ escapeLetters) : SpellsChar c ['\\', l]
  | code {hex : List Char} (number : Hex c.toNat hex) : SpellsChar c ('\\' :: 'u' :: hex)
  | pair {high low : Nat} {hs ls : List Char} (first : 0xD800 ≤ high ∧ high ≤ 0xDBFF)
      (second : 0xDC00 ≤ low ∧ low ≤ 0xDFFF)
      (together : c.toNat = 0x10000 + (high - 0xD800) * 0x400 + (low - 0xDC00))
      (firstNumber : Hex high hs) (secondNumber : Hex low ls) :
      SpellsChar c ('\\' :: 'u' :: (hs ++ '\\' :: 'u' :: ls))

/-- The ways to spell a text between its quotes: character by character. -/
inductive SpellsText : List Char → List Char → Prop
  | nil : SpellsText [] []
  | cons {c : Char} {cs spelled more : List Char} (first : SpellsChar c spelled)
      (rest : SpellsText cs more) : SpellsText (c :: cs) (spelled ++ more)

/-- The writer spells a character in one of these ways. -/
theorem spells_escapeChar (c : Char) : SpellsChar c (escapeChar c) := by
  by_cases hnamed : c ∈ ['"', '\\', '\x08', '\x0c', '\n', '\r', '\t']
  · simp only [List.mem_cons, List.not_mem_nil, or_false] at hnamed
    rcases hnamed with rfl | rfl | rfl | rfl | rfl | rfl | rfl <;> exact .letter (by decide)
  · simp only [List.mem_cons, List.not_mem_nil, or_false, not_or] at hnamed
    obtain ⟨hquote, hslash, h⟩ := hnamed
    have hescape : escapeChar c = if c.toNat < 0x20 then controlEscape c else [c] := by
      simp only [escapeChar, hquote, hslash, h, if_false]
    by_cases hcontrol : c.toNat < 0x20
    · rw [hescape, if_pos hcontrol]
      -- two zeros and the two digits of the character
      have hnumber : c.toNat =
          ((0 * 16 + 0) * 16 + c.toNat / 16) * 16 + c.toNat % 16 := by omega
      have hhex : Hex c.toNat
          ['0', '0', Nat.digitChar (c.toNat / 16), Nat.digitChar (c.toNat % 16)] := by
        conv => arg 1; rw [hnumber]
        exact .digits ⟨by decide, .inl rfl⟩ ⟨by decide, .inl rfl⟩ ⟨by omega, .inl rfl⟩
          ⟨by omega, .inl rfl⟩
      exact .code hhex
    · rw [hescape, if_neg hcontrol]
      exact .plain hquote hslash (Nat.le_of_not_lt hcontrol)

theorem spells_escapeChars (cs : List Char) : SpellsText cs (cs.flatMap escapeChar) := by
  induction cs with
  | nil => exact .nil
  | cons c cs ih =>
    rw [List.flatMap_cons]
    exact .cons (spells_escapeChar c) ih

/-- A text in which nothing has to be escaped can be spelled as itself. -/
theorem spellsText_self {cs : List Char}
    (h : ∀ c ∈ cs, c ≠ '"' ∧ c ≠ '\\' ∧ 0x20 ≤ c.toNat) : SpellsText cs cs := by
  induction cs with
  | nil => exact .nil
  | cons c cs ih =>
    obtain ⟨⟨hquote, hslash, hcontrol⟩, hcs⟩ := List.forall_mem_cons.mp h
    exact .cons (.plain hquote hslash hcontrol) (ih hcs)

/-! ## Texts -/

theorem HexDigit.hexValue? {d : Nat} {c : Char} (h : HexDigit d c) :
    ∃ b, String.utf8EncodeChar c = [b] ∧ Json.hexValue? b = some d := by
  have hall : ∀ d < 16, (String.utf8EncodeChar d.digitChar).map Json.hexValue? = [some d] ∧
      (String.utf8EncodeChar d.digitChar.toUpper).map Json.hexValue? = [some d] := by
    decide
  obtain ⟨hd, rfl | rfl⟩ := h
  · obtain ⟨b, hb, hvalue⟩ := List.map_eq_singleton_iff.mp (hall d hd).1
    exact ⟨b, hb, hvalue⟩
  · obtain ⟨b, hb, hvalue⟩ := List.map_eq_singleton_iff.mp (hall d hd).2
    exact ⟨b, hb, hvalue⟩

/-- Four digits are four bytes, each of which is read as its value. -/
theorem Hex.exists_bytes {n : Nat} {cs : List Char} (h : Hex n cs) : ∃ p q r s a b c d,
    bytes cs = [p, q, r, s] ∧ hexValue? p = some a ∧ hexValue? q = some b ∧
      hexValue? r = some c ∧ hexValue? s = some d ∧ n = ((a * 16 + b) * 16 + c) * 16 + d := by
  cases h with
  | @digits a b c d _ _ _ _ first second third fourth =>
    obtain ⟨p, hp, ha⟩ := first.hexValue?
    obtain ⟨q, hq, hb⟩ := second.hexValue?
    obtain ⟨r, hr, hc⟩ := third.hexValue?
    obtain ⟨s, hs, hd⟩ := fourth.hexValue?
    refine ⟨p, q, r, s, a, b, c, d, ?_, ha, hb, hc, hd, rfl⟩
    simp only [bytes_cons, hp, hq, hr, hs]
    rfl

theorem readHex_hex {n : Nat} {cs : List Char} (h : Hex n cs) (s : List UInt8) :
    readHex (bytes cs ++ s) = .ok (n, s) := by
  obtain ⟨_, _, _, _, _, _, _, _, hbytes, ha, hb, hc, hd, rfl⟩ := h.exists_bytes
  rw [hbytes]
  simp only [List.cons_append, List.nil_append, readHex, ha, hb, hc, hd]

/-- A character is read from its number. -/
theorem readHexChar_code {c : Char} {hex : List Char} (h : Hex c.toNat hex) (s : List UInt8) :
    readHexChar (bytes hex ++ s) = .ok (c, s) := by
  have hvalid : c.toNat < 0xD800 ∨ 0xDFFF < c.toNat ∧ c.toNat < 0x110000 := c.valid
  unfold readHexChar
  rw [readHex_hex h]
  show (if 0xDC00 ≤ c.toNat && c.toNat ≤ 0xDFFF then _ else _) = _
  rw [if_neg (by simp; omega), if_pos (by simp; omega), Char.ofNat_toNat]

/-- A character is read from two numbers. -/
theorem readHexChar_pair {c : Char} {high low : Nat} {hs ls : List Char}
    (hhigh : 0xD800 ≤ high ∧ high ≤ 0xDBFF) (hlow : 0xDC00 ≤ low ∧ low ≤ 0xDFFF)
    (hc : c.toNat = 0x10000 + (high - 0xD800) * 0x400 + (low - 0xDC00)) (hhs : Hex high hs)
    (hls : Hex low ls) (s : List UInt8) :
    readHexChar (bytes (hs ++ '\\' :: 'u' :: ls) ++ s) = .ok (c, s) := by
  have hbytes : bytes (hs ++ '\\' :: 'u' :: ls) ++ s =
      bytes hs ++ (backslash :: 0x75 :: (bytes ls ++ s)) := by
    rw [bytes_append, List.append_assoc]
    rfl
  unfold readHexChar
  rw [hbytes, readHex_hex hhs]
  show (if 0xDC00 ≤ high && high ≤ 0xDFFF then _ else _) = _
  rw [if_neg (by simp; omega), if_neg (by simp; omega)]
  simp only [readPairMark, if_true, bind, Except.bind, readHex_hex hls]
  rw [if_neg (by simp; omega), ← hc, Char.ofNat_toNat]

/-- A character is escaped, and its escape is read as it, or it is spelled as itself. -/
theorem SpellsChar.escaped_or_plain {c : Char} {cs : List Char} (h : SpellsChar c cs) :
    (∃ e, bytes cs = backslash :: e ∧ ∀ s, readEscape (e ++ s) = .ok (c, s)) ∨
      (cs = [c] ∧ c ≠ '"' ∧ c ≠ '\\' ∧ 0x20 ≤ c.toNat) := by
  cases h with
  | plain quote slash control => exact .inr ⟨rfl, quote, slash, control⟩
  | letter known =>
    left
    simp only [escapeLetters, List.mem_cons, Prod.mk.injEq, List.not_mem_nil, or_false] at known
    rcases known with ⟨rfl, rfl⟩ | ⟨rfl, rfl⟩ | ⟨rfl, rfl⟩ | ⟨rfl, rfl⟩ | ⟨rfl, rfl⟩ | ⟨rfl, rfl⟩ |
      ⟨rfl, rfl⟩ | ⟨rfl, rfl⟩ <;> exact ⟨_, rfl, fun _ => rfl⟩
  | @code hex number => exact .inl ⟨0x75 :: bytes hex, rfl, readHexChar_code number⟩
  | @pair high low hs ls first second together firstNumber secondNumber =>
    exact .inl ⟨0x75 :: bytes (hs ++ '\\' :: 'u' :: ls), rfl,
      readHexChar_pair first second together firstNumber secondNumber⟩

/-- The bytes of a character that is not escaped have no other meaning. -/
theorem encodeChar_plain {c : Char} (hquote : c ≠ '"') (hslash : c ≠ '\\') (h : 0x20 ≤ c.toNat) :
    ∀ b ∈ String.utf8EncodeChar c, b ≠ quoteByte ∧ b ≠ backslash ∧ ¬b < 0x20 := by
  have hnumber : ∀ d : Char, c ≠ d → c.toNat ≠ d.toNat := by
    intro d hd heq
    exact hd (Char.toNat_inj.mp heq)
  have hq : c.toNat ≠ 0x22 := hnumber '"' hquote
  have hs : c.toNat ≠ 0x5C := hnumber '\\' hslash
  intro b hb
  simp only [ne_eq, ← UInt8.toNat_inj, UInt8.lt_iff_toNat_lt, UInt8.toNat_ofNat]
  rcases encodeChar_cases c with ⟨hlow, hone⟩ | ⟨-, hall⟩
  · rw [hone, List.mem_singleton] at hb
    rw [hb, UInt8.toNat_ofNat']
    omega
  · have hhigh := hall b hb
    omega

/-- **A character is read as it was spelled.** -/
theorem readChars_spelled {c : Char} {cs : List Char} (h : SpellsChar c cs) (read : List Char)
    (size fuel : Nat) (s : List UInt8) :
    readChars read size none (fuel + 1) (bytes cs ++ s) =
      readChars (c :: read) (size + c.utf8Size) none fuel s := by
  rcases h.escaped_or_plain with ⟨e, he, hread⟩ | ⟨rfl, hquote, hslash, hc⟩
  · rw [he, List.cons_append, readChars, if_neg (by decide), if_pos rfl, hread]
  · obtain ⟨b, more, hencode⟩ := List.exists_cons_of_ne_nil (String.utf8EncodeChar_ne_nil (c := c))
    obtain ⟨hq, hs, hb⟩ :=
      encodeChar_plain hquote hslash hc b (by rw [hencode]; exact List.mem_cons_self)
    -- the first byte has no other meaning, so that a character is decoded, and it is this one
    have hnext : Text.Utf8.next (b :: (more ++ s)) = .char c s := by
      rw [next_eq_char_iff, hencode]
      rfl
    rw [bytes_cons, hencode, bytes_nil, List.append_nil, List.cons_append, readChars,
      if_neg hq, if_neg hs, if_neg hb, hnext]

theorem SpellsChar.ne_nil {c : Char} {cs : List Char} (h : SpellsChar c cs) : cs ≠ [] := by
  cases h <;> exact List.cons_ne_nil _ _

theorem SpellsText.length_le {cs spelled : List Char} (h : SpellsText cs spelled) :
    cs.length ≤ (bytes spelled).length := by
  refine Nat.le_trans ?_ (length_le_bytes spelled)
  induction h with
  | nil => exact Nat.le_refl _
  | cons first rest ih =>
    have hpos := List.length_pos_iff.mpr first.ne_nil
    rw [List.length_cons, List.length_append]
    omega

theorem readChars_text {cs spelled : List Char} (h : SpellsText cs spelled) (read : List Char)
    (size : Nat) {fuel : Nat} (hfuel : cs.length < fuel) (s : List UInt8) :
    readChars read size none fuel (bytes spelled ++ quoteByte :: s) =
      .ok (read.reverse ++ cs, s) := by
  induction h generalizing read size fuel with
  | nil =>
    obtain ⟨fuel, rfl⟩ := Nat.exists_eq_add_of_lt hfuel
    rw [List.append_nil]
    rfl
  | cons first rest ih =>
    obtain ⟨fuel, rfl⟩ : ∃ n, fuel = n + 1 := Nat.exists_eq_add_one.mpr (Nat.zero_lt_of_lt hfuel)
    rw [bytes_append, List.append_assoc, readChars_spelled first,
      ih _ _ (Nat.lt_of_succ_lt_succ hfuel), List.reverse_cons, List.append_assoc]
    rfl

/-- **A text is read as it was spelled**, after its opening quote. -/
theorem readText_spelled {t : String} {spelled : List Char} (h : SpellsText t.toList spelled)
    (s : List UInt8) : readText (bytes spelled ++ quoteByte :: s) = .ok (t, s) := by
  have hlength := h.length_le
  unfold readText
  rw [readChars_text h _ _ (by rw [List.length_append, List.length_cons]; omega)]
  exact congrArg (fun t => Except.ok (t, s)) String.ofList_toList

/-- A text is read as it was quoted. -/
theorem readText_quote (t : String) (s : List UInt8) :
    ∃ spelled, bytes (quote t) ++ s = quoteByte :: spelled ∧ readText spelled = .ok (t, s) := by
  refine ⟨bytes (t.toList.flatMap escapeChar) ++ quoteByte :: s, ?_,
    readText_spelled (spells_escapeChars t.toList) s⟩
  unfold quote
  rw [List.cons_append, bytes_cons, bytes_append, List.append_assoc, List.append_assoc]
  rfl

end UsageFeed.Json
