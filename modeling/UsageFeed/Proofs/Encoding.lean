import UsageFeed.Text.Utf8

/-!
# `UsageFeed.Proofs.Encoding` — texts and their bytes

Reading bytes as text undoes writing the text, and nothing but a written text can be read.

## Contents
- **Lead bytes.** `Follows`, the second bytes that go with a lead byte.
- **One character.** `Opens`, the byte sequences of a character with its number, found by `next`
  (`opens_of_next`, `Opens.next`) and written by the encoder (`Opens.eq_encode`, `opens_encode`).
- **Texts.** `next_eq_char_iff` and `decode_eq_ok_iff`.
- **Bytes below 0x80.** Such a byte is a character wherever it stands (`encodeChar_cases`), so a
  text may be cut beside it (`flatMap_eq_cons`, `flatMap_eq_concat`, `encode_eq_concat`).
-/

namespace UsageFeed.Text.Utf8

/-! ## Lead bytes -/

/-- The second bytes that go with a lead byte. -/
def Follows (a b : UInt8) : Prop :=
  (0x80 ≤ b.toNat ∧ b.toNat ≤ 0xBF) ∧ (a.toNat = 0xE0 → 0xA0 ≤ b.toNat) ∧
    (a.toNat = 0xED → b.toNat ≤ 0x9F) ∧ (a.toNat = 0xF0 → 0x90 ≤ b.toNat) ∧
    (a.toNat = 0xF4 → b.toNat ≤ 0x8F)

theorem follows_iff (a b : UInt8) :
    Follows a b ↔ (secondLow a).toNat ≤ b.toNat ∧ b.toNat ≤ (secondHigh a).toNat := by
  have hlow : (secondLow a).toNat =
      if a.toNat = 0xE0 then 0xA0 else if a.toNat = 0xF0 then 0x90 else 0x80 := by
    unfold secondLow
    simp only [← UInt8.toNat_inj, apply_ite UInt8.toNat]
    rfl
  have hhigh : (secondHigh a).toNat =
      if a.toNat = 0xED then 0x9F else if a.toNat = 0xF4 then 0x8F else 0xBF := by
    unfold secondHigh
    simp only [← UInt8.toNat_inj, apply_ite UInt8.toNat]
    rfl
  rw [hlow, hhigh]
  unfold Follows
  repeat' split
  all_goals omega

theorem isContinuation_iff (b : UInt8) : isContinuation b ↔ 0x80 ≤ b.toNat ∧ b.toNat ≤ 0xBF := by
  simp [isContinuation, UInt8.le_iff_toNat_le]

/-! ## One character -/

/-- The bytes open with those of the character whose number is `n`. -/
inductive Opens (s : List UInt8) : List UInt8 → Nat → Prop
  | one {a : UInt8} {n : Nat} (ha : a.toNat < 0x80) (hn : n = a.toNat) : Opens s (a :: s) n
  | two {a b : UInt8} {n : Nat} (ha : 0xC2 ≤ a.toNat ∧ a.toNat < 0xE0) (hb : Follows a b)
      (hn : n = (a.toNat - 0xC0) * 64 + (b.toNat - 0x80)) : Opens s (a :: b :: s) n
  | three {a b c : UInt8} {n : Nat} (ha : 0xE0 ≤ a.toNat ∧ a.toNat < 0xF0) (hb : Follows a b)
      (hc : isContinuation c)
      (hn : n = ((a.toNat - 0xE0) * 64 + (b.toNat - 0x80)) * 64 + (c.toNat - 0x80)) :
      Opens s (a :: b :: c :: s) n
  | four {a b c d : UInt8} {n : Nat} (ha : 0xF0 ≤ a.toNat ∧ a.toNat ≤ 0xF4) (hb : Follows a b)
      (hc : isContinuation c) (hd : isContinuation d)
      (hn : n = (((a.toNat - 0xF0) * 64 + (b.toNat - 0x80)) * 64 + (c.toNat - 0x80)) * 64 +
        (d.toNat - 0x80)) :
      Opens s (a :: b :: c :: d :: s) n

theorem opens_of_next {bytes s : List UInt8} {c : Char} (h : next bytes = .char c s) :
    ∃ n, Opens s bytes n ∧ c = Char.ofNat n := by
  unfold next at h
  -- only the four ends at which a character is found are left
  repeat' split at h
  all_goals try contradiction
  all_goals obtain ⟨rfl, rfl⟩ := Next.char.inj h
  all_goals
    simp only [UInt8.lt_iff_toNat_lt, UInt8.toNat_ofNat, Bool.or_eq_true, decide_eq_true_eq, not_or,
      Nat.not_lt, Bool.not_eq_true', Bool.not_eq_false, ← follows_iff] at *
  · exact ⟨_, .one ‹_› rfl, rfl⟩
  · exact ⟨_, .two (by omega) ‹_› rfl, rfl⟩
  · exact ⟨_, .three (by omega) ‹_› ‹_› rfl, rfl⟩
  · exact ⟨_, .four (by omega) ‹_› ‹_› ‹_› rfl, rfl⟩

theorem Opens.next {bytes s : List UInt8} {n : Nat} (h : Opens s bytes n) :
    next bytes = .char (Char.ofNat n) s := by
  cases h with
  | one ha hn => simp [Utf8.next, UInt8.lt_iff_toNat_lt, ha, hn]
  | two ha hb hn =>
    rw [follows_iff] at hb
    simp only [Utf8.next, UInt8.lt_iff_toNat_lt, UInt8.toNat_ofNat, Bool.or_eq_true,
      decide_eq_true_eq]
    rw [if_neg (by omega), if_neg (by omega), if_neg (by omega), if_pos (by omega), hn]
    rfl
  | three ha hb hc hn =>
    rw [follows_iff] at hb
    simp only [Utf8.next, hc, UInt8.lt_iff_toNat_lt, UInt8.toNat_ofNat, Bool.or_eq_true,
      decide_eq_true_eq]
    rw [if_neg (by omega), if_neg (by omega), if_neg (by omega), if_neg (by omega),
      if_neg (by simp), if_pos (by omega), hn]
    rfl
  | four ha hb hc hd hn =>
    rw [follows_iff] at hb
    simp only [Utf8.next, hc, hd, UInt8.lt_iff_toNat_lt, UInt8.toNat_ofNat, Bool.or_eq_true,
      decide_eq_true_eq]
    rw [if_neg (by omega), if_neg (by omega), if_neg (by omega), if_neg (by omega),
      if_neg (by simp), if_neg (by omega), if_neg (by simp), hn]
    rfl

/-- Such a number is a character's. -/
theorem Opens.valid {bytes s : List UInt8} {n : Nat} (h : Opens s bytes n) : n.isValidChar := by
  unfold Nat.isValidChar
  cases h with
  | one ha hn => omega
  | two ha hb hn =>
    unfold Follows at hb
    omega
  | three ha hb hc hn =>
    unfold Follows at hb
    rw [isContinuation_iff] at hc
    omega
  | four ha hb hc hd hn =>
    unfold Follows at hb
    rw [isContinuation_iff] at hc hd
    omega

/-- The bytes of a character, by its number. -/
theorem encodeChar_ofNat {n : Nat} (h : n.isValidChar) :
    String.utf8EncodeChar (Char.ofNat n) =
      if n ≤ 0x7F then [UInt8.ofNat n]
      else if n ≤ 0x7FF then [UInt8.ofNat (n / 64 % 32 + 0xC0), UInt8.ofNat (n % 64 + 0x80)]
      else if n ≤ 0xFFFF then
        [UInt8.ofNat (n / 4096 % 16 + 0xE0), UInt8.ofNat (n / 64 % 64 + 0x80),
          UInt8.ofNat (n % 64 + 0x80)]
      else
        [UInt8.ofNat (n / 262144 % 8 + 0xF0), UInt8.ofNat (n / 4096 % 64 + 0x80),
          UInt8.ofNat (n / 64 % 64 + 0x80), UInt8.ofNat (n % 64 + 0x80)] := by
  have hval : (Char.ofNat n).val.toNat = n := by
    rw [Char.ofNat, dif_pos h]
    rfl
  unfold String.utf8EncodeChar
  simp only [hval]

theorem Opens.eq_encode {bytes s : List UInt8} {n : Nat} (h : Opens s bytes n) :
    bytes = String.utf8EncodeChar (Char.ofNat n) ++ s := by
  have hbyte : ∀ {a : UInt8} {m : Nat}, m % 256 = a.toNat → UInt8.ofNat m = a := by
    intro a m hm
    rw [← UInt8.toNat_inj, UInt8.toNat_ofNat', ← hm]
  rw [encodeChar_ofNat h.valid]
  cases h with
  | @one a _ ha hn =>
    rw [if_pos (by omega), hbyte (a := a) (by omega)]
    rfl
  | @two a b _ ha hb hn =>
    unfold Follows at hb
    rw [if_neg (by omega), if_pos (by omega), hbyte (a := a) (by omega),
      hbyte (a := b) (by omega)]
    rfl
  | @three a b c _ ha hb hc hn =>
    unfold Follows at hb
    rw [isContinuation_iff] at hc
    rw [if_neg (by omega), if_neg (by omega), if_pos (by omega), hbyte (a := a) (by omega),
      hbyte (a := b) (by omega), hbyte (a := c) (by omega)]
    rfl
  | @four a b c d _ ha hb hc hd hn =>
    unfold Follows at hb
    rw [isContinuation_iff] at hc hd
    rw [if_neg (by omega), if_neg (by omega), if_neg (by omega), hbyte (a := a) (by omega),
      hbyte (a := b) (by omega), hbyte (a := c) (by omega), hbyte (a := d) (by omega)]
    rfl

theorem opens_encode (c : Char) (s : List UInt8) :
    Opens s (String.utf8EncodeChar c ++ s) c.toNat := by
  have hvalid : c.toNat < 0xD800 ∨ 0xDFFF < c.toNat ∧ c.toNat < 0x110000 := c.valid
  have hencode := encodeChar_ofNat hvalid
  rw [Char.ofNat_toNat] at hencode
  rw [hencode]
  generalize c.toNat = n at hvalid
  have hbyte : ∀ m, (UInt8.ofNat m).toNat = m % 256 := fun m => UInt8.toNat_ofNat'
  repeat' split
  case isTrue => refine Opens.one ?_ ?_ <;> rw [hbyte] <;> omega
  case isFalse.isTrue =>
    refine Opens.two ?_ ?_ ?_ <;> simp only [Follows, hbyte] <;> omega
  case isFalse.isFalse.isTrue =>
    refine Opens.three ?_ ?_ ?_ ?_ <;> simp only [Follows, isContinuation_iff, hbyte] <;> omega
  case isFalse.isFalse.isFalse =>
    refine Opens.four ?_ ?_ ?_ ?_ ?_ <;> simp only [Follows, isContinuation_iff, hbyte] <;> omega

/-! ## Texts -/

/-- **A character is read where it has been written**, and nowhere else. -/
theorem next_eq_char_iff {bytes s : List UInt8} {c : Char} :
    next bytes = .char c s ↔ bytes = String.utf8EncodeChar c ++ s := by
  constructor
  · intro h
    obtain ⟨n, hn, rfl⟩ := opens_of_next h
    exact hn.eq_encode
  · rintro rfl
    rw [(opens_encode c s).next, Char.ofNat_toNat]

theorem next_eq_done_iff {bytes : List UInt8} : next bytes = .done ↔ bytes = [] := by
  constructor
  · intro h
    cases bytes with
    | nil => rfl
    | cons a s =>
      unfold next at h
      simp only at h
      repeat' split at h
      all_goals cases h
  · rintro rfl
    rfl

theorem decodeFrom_flatMap (read : List Char) (length : Nat) (cs : List Char) :
    decodeFrom read length (cs.flatMap String.utf8EncodeChar) = .ok (read.reverse ++ cs) := by
  induction cs generalizing read length with
  | nil =>
    unfold decodeFrom
    exact congrArg Except.ok (List.append_nil _).symm
  | cons c cs ih =>
    have hnext : next ((c :: cs).flatMap String.utf8EncodeChar) = .char c _ :=
      next_eq_char_iff.mpr List.flatMap_cons
    unfold decodeFrom
    split
    case h_2 c' rest hchar =>
      -- the character found is the one written first
      obtain ⟨rfl, rfl⟩ := Next.char.inj (hchar.symm.trans hnext)
      rw [ih, List.reverse_cons, List.append_assoc]
      rfl
    all_goals
      rename_i hother
      rw [hnext] at hother
      cases hother

theorem eq_flatMap_of_decodeFrom {read : List Char} {length : Nat} {bytes : List UInt8}
    {cs : List Char} (h : decodeFrom read length bytes = .ok cs) :
    ∃ more, cs = read.reverse ++ more ∧ bytes = more.flatMap String.utf8EncodeChar := by
  fun_induction decodeFrom read length bytes with
  | case1 read length bytes hdone =>
    cases h
    exact ⟨[], (List.append_nil _).symm, next_eq_done_iff.mp hdone⟩
  | case2 read length bytes c rest hchar ih =>
    obtain ⟨more, rfl, rfl⟩ := ih h
    refine ⟨c :: more, ?_, ?_⟩
    · rw [List.reverse_cons, List.append_assoc]
      rfl
    · rw [List.flatMap_cons, ← next_eq_char_iff]
      exact hchar
  | case3 => cases h
  | case4 => cases h

/-- **Bytes are read as the text that is written as them**, if there is one. -/
theorem decode_eq_ok_iff {bytes : List UInt8} {s : String} :
    decode bytes = .ok s ↔ bytes = encode s := by
  unfold decode decodeChars
  constructor
  · intro h
    cases hread : decodeFrom [] 0 bytes with
    | error d =>
      rw [hread] at h
      cases h
    | ok cs =>
      rw [hread] at h
      obtain ⟨more, rfl, rfl⟩ := eq_flatMap_of_decodeFrom hread
      cases h
      unfold encode
      rw [String.toList_ofList]
  · rintro rfl
    unfold encode
    rw [decodeFrom_flatMap]
    exact congrArg Except.ok String.ofList_toList

theorem decode_encode (s : String) : decode (encode s) = .ok s := decode_eq_ok_iff.mpr rfl

theorem decode?_eq_some_iff {bytes : List UInt8} {s : String} :
    decode? bytes = some s ↔ bytes = encode s := by
  rw [← decode_eq_ok_iff, decode?]
  cases decode bytes <;> simp [Except.toOption]

theorem decode?_eq_none_iff {bytes : List UInt8} :
    decode? bytes = none ↔ ∀ s, bytes ≠ encode s := by
  simp only [Option.eq_none_iff_forall_ne_some, ne_eq, decode?_eq_some_iff]

/-! ## Bytes below 0x80 -/

/-- A character is written as one byte below 0x80 or as bytes from there on. -/
theorem encodeChar_cases (c : Char) :
    (c.toNat < 0x80 ∧ String.utf8EncodeChar c = [UInt8.ofNat c.toNat]) ∨
      (0x80 ≤ c.toNat ∧ ∀ b ∈ String.utf8EncodeChar c, 0x80 ≤ b.toNat) := by
  have h := opens_encode c []
  rw [List.append_nil] at h
  generalize String.utf8EncodeChar c = bytes at h
  cases h
  case one a ha hn =>
    left
    rw [hn, UInt8.ofNat_toNat]
    exact ⟨ha, rfl⟩
  case two | three | four =>
    simp only [Follows, isContinuation_iff] at *
    right
    refine ⟨by omega, ?_⟩
    simp only [List.mem_cons, List.not_mem_nil, or_false, forall_eq_or_imp, forall_eq]
    omega

/-- A character with such a byte in it has no other. -/
theorem encodeChar_eq_singleton {c : Char} {b : UInt8} (h : b ∈ String.utf8EncodeChar c)
    (hb : b.toNat < 0x80) : c = Char.ofNat b.toNat ∧ String.utf8EncodeChar c = [b] := by
  rcases encodeChar_cases c with ⟨hc, hencode⟩ | ⟨_, hhigh⟩
  · rw [hencode, List.mem_singleton] at h
    have hnumber : b.toNat = c.toNat := by
      rw [h, UInt8.toNat_ofNat']
      omega
    rw [hnumber, Char.ofNat_toNat, hencode, h]
    exact ⟨rfl, rfl⟩
  · have hbyte := hhigh b h
    omega

/-- If such a byte stands first, the first character is this one. -/
theorem flatMap_eq_cons {cs : List Char} {b : UInt8} {bytes : List UInt8}
    (h : cs.flatMap String.utf8EncodeChar = b :: bytes) (hb : b.toNat < 0x80) :
    ∃ more, cs = Char.ofNat b.toNat :: more ∧ bytes = more.flatMap String.utf8EncodeChar := by
  cases cs with
  | nil => cases h
  | cons c more =>
    rw [List.flatMap_cons] at h
    have hmem : b ∈ String.utf8EncodeChar c := by
      cases hencode : String.utf8EncodeChar c with
      | nil =>
        exact absurd hencode String.utf8EncodeChar_ne_nil
      | cons b' _ =>
        rw [hencode] at h
        rw [(List.cons.inj h).1]
        exact List.mem_cons_self
    obtain ⟨rfl, hencode⟩ := encodeChar_eq_singleton hmem hb
    rw [hencode] at h
    exact ⟨more, rfl, (List.cons.inj h).2.symm⟩

/-- If such a byte stands last, the last character is this one. -/
theorem flatMap_eq_concat {cs : List Char} {b : UInt8} {bytes : List UInt8}
    (h : cs.flatMap String.utf8EncodeChar = bytes ++ [b]) (hb : b.toNat < 0x80) :
    ∃ init, cs = init ++ [Char.ofNat b.toNat] ∧ bytes = init.flatMap String.utf8EncodeChar := by
  rcases List.eq_nil_or_concat cs with rfl | ⟨init, c, rfl⟩
  · cases bytes <;> cases h
  · rw [List.concat_eq_append] at h ⊢
    rw [List.flatMap_append, List.flatMap_singleton] at h
    have hmem : b ∈ String.utf8EncodeChar c := by
      rcases List.eq_nil_or_concat (String.utf8EncodeChar c) with hencode | ⟨_, b', hencode⟩
      · exact absurd hencode String.utf8EncodeChar_ne_nil
      · rw [List.concat_eq_append] at hencode
        rw [hencode, ← List.append_assoc] at h
        rw [hencode, List.singleton_inj.mp (List.append_inj_right' h rfl)]
        exact List.mem_append_right _ (List.mem_singleton_self b)
    obtain ⟨rfl, hencode⟩ := encodeChar_eq_singleton hmem hb
    rw [hencode] at h
    exact ⟨init, rfl, (List.append_cancel_right h).symm⟩

/-- **Such a byte at the end is taken for itself**: what is before it is text if the whole is. -/
theorem encode_eq_concat {t : String} {b : UInt8} {bytes : List UInt8}
    (h : encode t = bytes ++ [b]) (hb : b.toNat < 0x80) :
    ∃ s, t = s.push (Char.ofNat b.toNat) ∧ bytes = encode s := by
  obtain ⟨init, hinit, rfl⟩ := flatMap_eq_concat h hb
  refine ⟨String.ofList init, ?_, ?_⟩
  · rw [← String.ofList_toList (s := t), hinit]
    simp
  · unfold encode
    rw [String.toList_ofList]

theorem encode_push (s : String) {b : UInt8} (hb : b.toNat < 0x80) :
    encode (s.push (Char.ofNat b.toNat)) = encode s ++ [b] := by
  have hvalid : b.toNat.isValidChar := .inl (by omega)
  unfold encode
  rw [String.toList_push, List.flatMap_append, List.flatMap_singleton, encodeChar_ofNat hvalid,
    if_pos (by omega), UInt8.ofNat_toNat]

end UsageFeed.Text.Utf8
