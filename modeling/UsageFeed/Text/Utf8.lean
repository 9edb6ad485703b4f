/-!
# `UsageFeed.Text.Utf8` — characters as bytes

## Contents
- **Writing.** `encode` lists the bytes of a text.
- **Reading.** `next` takes one character off a byte list; `decode` reads a whole list or says where
  and how it stops being text (`Defect`).
- **Repairing.** `repair` reads any bytes, with U+FFFD for each run that is no character.
-/

namespace UsageFeed.Text.Utf8

/-! ## Writing -/

/-- The bytes of a text. -/
def encode (s : String) : List UInt8 := s.toList.flatMap String.utf8EncodeChar

/-! ## Reading -/

/-- What a byte list starts with. -/
inductive Next where
  /-- Nothing is left. -/
  | done
  /-- One character, and the bytes after it. -/
  | char (c : Char) (rest : List UInt8)
  /-- So many bytes that belong to no character. -/
  | broken (length : Nat)
  /-- The first bytes of a character that the list ends within. -/
  | cut

/-- A byte that can only continue a character. -/
def isContinuation (b : UInt8) : Bool := 0x80 ≤ b && b ≤ 0xBF

/-- The least second byte after a lead byte: it shuts out overlong forms. -/
def secondLow (lead : UInt8) : UInt8 :=
  if lead = 0xE0 then 0xA0 else if lead = 0xF0 then 0x90 else 0x80

/-- The greatest second byte after a lead byte: it shuts out surrogates and values past U+10FFFF. -/
def secondHigh (lead : UInt8) : UInt8 :=
  if lead = 0xED then 0x9F else if lead = 0xF4 then 0x8F else 0xBF

/-- The character with the payload bits of a lead byte and of the continuation bytes after it. -/
def assemble (lead : Nat) (more : List UInt8) : Char :=
  Char.ofNat (more.foldl (fun n b => n * 64 + (b.toNat - 0x80)) lead)

/-- Takes one character off the front. A bad byte is charged to the longest sequence that could
still have become a character, so that the rest can be read on its own. -/
def next : List UInt8 → Next
  | [] => .done
  | a :: s =>
    if a < 0x80 then .char (Char.ofNat a.toNat) s
    else if a < 0xC2 || 0xF4 < a then .broken 1
    else match s with
      | [] => .cut
      | b :: s =>
        if b < secondLow a || secondHigh a < b then .broken 1
        else if a < 0xE0 then .char (assemble (a.toNat - 0xC0) [b]) s
        else match s with
          | [] => .cut
          | c :: s =>
            if !isContinuation c then .broken 2
            else if a < 0xF0 then .char (assemble (a.toNat - 0xE0) [b, c]) s
            else match s with
              | [] => .cut
              | d :: s =>
                if !isContinuation d then .broken 3
                else .char (assemble (a.toNat - 0xF0) [b, c, d]) s

/-- Taking a character shortens the list. -/
theorem next_shorter {bytes rest : List UInt8} {c : Char} (h : next bytes = .char c rest) :
    rest.length < bytes.length := by
  unfold next at h
  repeat' split at h
  all_goals simp_all
  all_goals omega

/-- Where a byte list stops being text: the length of the part that is text, and the number of bad
bytes after it, absent when the list ends inside a character. -/
structure Defect where
  validLength : Nat
  badLength : Option Nat
  deriving DecidableEq, Repr

/-- Reads the rest of a text whose first characters, `length` bytes of them, are in `read`,
last one first. -/
def decodeFrom (read : List Char) (length : Nat) (bytes : List UInt8) : Except Defect (List Char) :=
  match _h : next bytes with
  | .done => .ok read.reverse
  | .char c rest => decodeFrom (c :: read) (length + c.utf8Size) rest
  | .broken n => .error ⟨length, some n⟩
  | .cut => .error ⟨length, none⟩
termination_by bytes.length
decreasing_by exact next_shorter _h

/-- Reads bytes as characters. -/
def decodeChars (bytes : List UInt8) : Except Defect (List Char) := decodeFrom [] 0 bytes

/-- Reads bytes as text. -/
def decode (bytes : List UInt8) : Except Defect String := (decodeChars bytes).map String.ofList

/-- The text of the bytes, if they are text. -/
def decode? (bytes : List UInt8) : Option String := (decode bytes).toOption

/-! ## Repairing -/

/-- Reads on after the characters in `read`, last one first, replacing what is no character. -/
def repairFrom (read : List Char) (bytes : List UInt8) : List Char :=
  match _h : next bytes with
  | .done => read.reverse
  | .char c rest => repairFrom (c :: read) rest
  | .broken n =>
    match _hb : bytes.drop (max n 1) with
    | [] => ('\uFFFD' :: read).reverse
    | b :: rest => repairFrom ('\uFFFD' :: read) (b :: rest)
  | .cut => ('\uFFFD' :: read).reverse
termination_by bytes.length
decreasing_by
  · exact next_shorter _h
  · have := congrArg List.length _hb
    simp at this ⊢
    omega

/-- Reads bytes as text, each run that is no character as one U+FFFD. -/
def repair (bytes : List UInt8) : String := String.ofList (repairFrom [] bytes)

/-- The mark that a text may open with to show its byte order. -/
def byteOrderMark : List UInt8 := [0xEF, 0xBB, 0xBF]

/-- The bytes without a leading byte order mark. -/
def dropMark (bytes : List UInt8) : List UInt8 :=
  if byteOrderMark.isPrefixOf bytes then bytes.drop 3 else bytes

end UsageFeed.Text.Utf8
