import UsageFeed.Json.Error
import UsageFeed.Text.Utf8

/-!
# `UsageFeed.Json.Cursor` — reading JSON from the front of a byte list

## Contents
- `Reading`, a value and the bytes after it, or a fault.
- **Places.** `ahead` blames the next byte, `here` what has just been read.
- **Tokens.** Space, fixed words and the colon.
- **Texts.** Escapes and characters, `readText` after an opening quote; `skipText`, which checks
  less and keeps nothing.
-/

namespace UsageFeed.Json

/-- A value and the bytes after it, or a fault. -/
abbrev Reading (α : Type) := Except Fault (α × List UInt8)

/-! ## Bytes with a meaning -/

/-- Opens and closes a text. -/
@[match_pattern] abbrev quoteByte : UInt8 := 0x22
/-- Stands between items. -/
@[match_pattern] abbrev commaByte : UInt8 := 0x2C
/-- Stands between a name and its value. -/
@[match_pattern] abbrev colonByte : UInt8 := 0x3A
/-- Opens a list. -/
@[match_pattern] abbrev openList : UInt8 := 0x5B
/-- Begins an escape. -/
@[match_pattern] abbrev backslash : UInt8 := 0x5C
/-- Closes a list. -/
@[match_pattern] abbrev closeList : UInt8 := 0x5D
/-- Opens an object. -/
@[match_pattern] abbrev openObject : UInt8 := 0x7B
/-- Closes an object. -/
@[match_pattern] abbrev closeObject : UInt8 := 0x7D

/-- A decimal digit. -/
def isDigitByte (b : UInt8) : Bool := 0x30 ≤ b && b ≤ 0x39

/-! ## Places -/

/-- A fault of the next byte, or of the end of the text. -/
def ahead (c : Cause) (s : List UInt8) : Fault := ⟨c, s.length - 1⟩

/-- A fault of what ends where `s` begins. -/
def here (c : Cause) (s : List UInt8) : Fault := ⟨c, s.length⟩

/-! ## Tokens -/

/-- Space, line feed, carriage return and tab. -/
def isSpace (b : UInt8) : Bool := b == 0x20 || b == 0x0A || b == 0x0D || b == 0x09

/-- The bytes after leading space. -/
def skipSpace (s : List UInt8) : List UInt8 := s.dropWhile isSpace

/-- Reads the rest of a fixed word. -/
def readWord : List UInt8 → List UInt8 → Except Fault (List UInt8)
  | [], s => .ok s
  | _ :: _, [] => .error (here .endInValue [])
  | w :: ws, b :: s => if b = w then readWord ws s else .error (here .expectedIdent s)

/-- The letters of `null` after the first. -/
def restOfNull : List UInt8 := [0x75, 0x6C, 0x6C]

/-- The letters of `true` after the first. -/
def restOfTrue : List UInt8 := [0x72, 0x75, 0x65]

/-- The letters of `false` after the first. -/
def restOfFalse : List UInt8 := [0x61, 0x6C, 0x73, 0x65]

/-- Reads the colon between a name and its value. -/
def readColon (s : List UInt8) : Except Fault (List UInt8) :=
  match skipSpace s with
  | [] => .error (ahead .endInObject [])
  | b :: r => if b = colonByte then .ok r else .error (ahead .expectedColon (b :: r))

/-! ## Texts -/

/-- The value of a hexadecimal digit. -/
def hexValue? (b : UInt8) : Option Nat :=
  if isDigitByte b then some (b.toNat - 0x30)
  else if 0x41 ≤ b && b ≤ 0x46 then some (b.toNat - 0x41 + 10)
  else if 0x61 ≤ b && b ≤ 0x66 then some (b.toNat - 0x61 + 10)
  else none

/-- Reads four hexadecimal digits. -/
def readHex : List UInt8 → Reading Nat
  | a :: b :: c :: d :: s =>
    match hexValue? a, hexValue? b, hexValue? c, hexValue? d with
    | some a, some b, some c, some d => .ok (((a * 16 + b) * 16 + c) * 16 + d, s)
    | _, _, _, _ => .error (here .invalidEscape s)
  | _ => .error (here .endInText [])

/-- Takes the next byte, which has to be `wanted`, as the start of the second half of a pair. -/
def readPairMark (wanted : UInt8) : List UInt8 → Except Fault (List UInt8)
  | [] => .error (here .endInText [])
  | b :: s => if b = wanted then .ok s else .error (here .endOfHexEscape s)

/-- Reads a hexadecimal escape, or two that make up one character, after the `u`. -/
def readHexChar (s : List UInt8) : Except Fault (Char × List UInt8) := do
  let (n, s) ← readHex s
  if 0xDC00 ≤ n && n ≤ 0xDFFF then .error (here .loneSurrogate s)
  else if n < 0xD800 || 0xDBFF < n then .ok (Char.ofNat n, s)
  else
    let s ← readPairMark backslash s
    let s ← readPairMark 0x75 s
    let (m, s) ← readHex s
    if m < 0xDC00 || 0xDFFF < m then .error (here .loneSurrogate s)
    else .ok (Char.ofNat (0x10000 + (n - 0xD800) * 0x400 + (m - 0xDC00)), s)

/-- The character that a one-letter escape stands for. -/
def simpleEscape? (b : UInt8) : Option Char :=
  if b = quoteByte then some '"'
  else if b = backslash then some '\\'
  else if b = 0x2F then some '/'
  else if b = 0x62 then some '\x08'
  else if b = 0x66 then some '\x0c'
  else if b = 0x6E then some '\n'
  else if b = 0x72 then some '\r'
  else if b = 0x74 then some '\t'
  else none

/-- Reads an escape after its backslash. -/
def readEscape : List UInt8 → Reading Char
  | [] => .error (here .endInText [])
  | b :: s =>
    match simpleEscape? b with
    | some c => .ok (c, s)
    | none => if b = 0x75 then readHexChar s else .error (here .invalidEscape s)

/-- Reads characters up to the closing quote. `read` holds those before, last one first, and `size`
counts their bytes. `bad` is the number of bytes before the first one, if any, that belongs to no
character: it is reported once the text is known to close, as that many bytes short of the end. -/
def readChars (read : List Char) (size : Nat) (bad : Option Nat) :
    Nat → List UInt8 → Reading (List Char)
  | 0, s => .error (here .endInText s)
  | _ + 1, [] => .error (here .endInText [])
  | fuel + 1, b :: s =>
    if b = quoteByte then
      match bad with
      | none => .ok (read.reverse, s)
      | some valid => .error ⟨.invalidCodePoint, s.length + (size - valid)⟩
    else if b = backslash then
      match readEscape s with
      | .ok (c, s) => readChars (c :: read) (size + c.utf8Size) bad fuel s
      | .error f => .error f
    else if b < 0x20 then .error (here .controlCharacter s)
    else
      match Text.Utf8.next (b :: s) with
      | .char c rest => readChars (c :: read) (size + c.utf8Size) bad fuel rest
      | _ => readChars read (size + 1) (some (bad.getD size)) fuel s

/-- Reads a text after its opening quote. -/
def readText (s : List UInt8) : Except Fault (String × List UInt8) := do
  let (cs, s) ← readChars [] 0 none (s.length + 1) s
  .ok (String.ofList cs, s)

/-- Passes over a text after its opening quote. Only what could hide the closing quote, and the
controls, are checked. -/
def skipText : List UInt8 → Except Fault (List UInt8)
  | [] => .error (here .endInText [])
  | b :: s =>
    if b = quoteByte then .ok s
    else if b = backslash then
      match s with
      | [] => .error (here .endInText [])
      | e :: s =>
        if (simpleEscape? e).isSome then skipText s
        else if e = 0x75 then
          match s with
          | h1 :: h2 :: h3 :: h4 :: s =>
            if [h1, h2, h3, h4].all fun h => (hexValue? h).isSome then skipText s
            else .error (here .invalidEscape s)
          | _ => .error (here .endInText [])
        else .error (here .invalidEscape s)
    else if b < 0x20 then .error (here .controlCharacter (b :: s))
    else skipText s

end UsageFeed.Json
