import UsageFeed.Text.Charset.Jis0208
import UsageFeed.Text.Charset.Jis0212
import UsageFeed.Text.Charset.Taken

/-!
# `UsageFeed.Text.Charset.Japanese` — three encodings of Japanese

## Contents
- `narrowKana`, syllables of one byte.
- `Euc.take` and `ShiftJis.take`, which take a character off the front of bytes.
- **Escapes.** `Escaped.Mode`, what bytes stand for until an escape says otherwise; `Escaped.read`.
-/

namespace UsageFeed.Text.Charset.Japanese

/-- The narrow syllable that stands so many places after the first one. -/
def narrowKana (place : Nat) : Char := Char.ofNat (0xFF61 + place)

/-! ## Characters of one to three bytes -/

namespace Euc

/-- A byte of a character of more than one. -/
def isHigh (b : UInt8) : Bool := 0xA1 ≤ b && b ≤ 0xFE

/-- The character of two bytes. -/
def pairAt? (t : Table) (lead trail : UInt8) : Option Char :=
  if isHigh lead && isHigh trail then
    t.charAt? ((lead.toNat - 0xA1) * 94 + (trail.toNat - 0xA1))
  else none

/-- Takes a rare character whose first byte is gone. -/
def takeRare : List UInt8 → Taken
  | [] => .bad
  | [a] => if isHigh a then ⟨['\uFFFD'], 1⟩ else .ofPair none a
  | a :: b :: _ =>
    if isHigh a then
      let pair := Taken.ofPair ((pairAt? Jis0212.table a b).map ([·])) b
      { pair with more := pair.more + 1 }
    else .ofPair none a

/-- Takes a character off the front of bytes. -/
def take (a : UInt8) (s : List UInt8) : Taken :=
  if a < 0x80 then .char (Char.ofNat a.toNat)
  else if a == 0x8F then takeRare s
  else
    match s with
    | [] => .bad
    | b :: _ =>
      if a == 0x8E then
        .ofPair (if 0xA1 ≤ b && b ≤ 0xDF then some [narrowKana (b.toNat - 0xA1)] else none) b
      else if isHigh a then .ofPair ((pairAt? Jis0208.table a b).map ([·])) b
      else .bad

end Euc

/-! ## Characters of one or two bytes -/

namespace ShiftJis

/-- The character of two bytes. Ten rows are for private ones. -/
def pairAt? (lead trail : Nat) : Option Char :=
  if trail < 0x40 || trail == 0x7F || 0xFC < trail then none
  else
    let row := lead - (if lead < 0xA0 then 0x81 else 0xC1)
    let place := row * 188 + trail - (if trail < 0x7F then 0x40 else 0x41)
    if 8836 ≤ place && place < 10716 then some (Char.ofNat (0xE000 + (place - 8836)))
    else Jis0208.table.charAt? place

/-- Takes a character off the front of bytes. -/
def take (a : UInt8) (s : List UInt8) : Taken :=
  if a ≤ 0x80 then .char (Char.ofNat a.toNat)
  else if 0xA1 ≤ a && a ≤ 0xDF then .char (narrowKana (a.toNat - 0xA1))
  else if a == 0xA0 || 0xFC < a then .bad
  else
    match s with
    | [] => .bad
    | b :: _ => .ofPair ((pairAt? a.toNat b.toNat).map ([·])) b

end ShiftJis

/-! ## Characters after escapes -/

namespace Escaped

/-- What bytes stand for until an escape says otherwise. -/
inductive Mode where
  | ascii
  /-- ASCII with other signs for a backslash and a tilde. -/
  | roman
  /-- Narrow syllables. -/
  | kana
  /-- Two bytes each. -/
  | pairs
  deriving DecidableEq, Repr

/-- What bytes stand for after an escape. -/
def Mode.ofEscape? : UInt8 → UInt8 → Option Mode
  | 0x28, 0x42 => some .ascii
  | 0x28, 0x4A => some .roman
  | 0x28, 0x49 => some .kana
  | 0x24, 0x40 | 0x24, 0x42 => some .pairs
  | _, _ => none

/-- The character of one byte. -/
def Mode.charOf (mode : Mode) (b : UInt8) : Char :=
  let isAscii := b < 0x80 && b != 0x0E && b != 0x0F
  match mode with
  | .ascii => if isAscii then Char.ofNat b.toNat else '\uFFFD'
  | .roman =>
    if b == 0x5C then '¥' else if b == 0x7E then '‾'
    else if isAscii then Char.ofNat b.toNat else '\uFFFD'
  | .kana => if 0x21 ≤ b && b ≤ 0x5F then narrowKana (b.toNat - 0x21) else '\uFFFD'
  | .pairs => '\uFFFD'

/-- A byte of a character of two. -/
def isHalf (b : UInt8) : Bool := 0x21 ≤ b && b ≤ 0x7E

/-- The character of two bytes. -/
def pairAt (lead trail : UInt8) : Char :=
  if isHalf trail then
    (Jis0208.table.charAt? ((lead.toNat - 0x21) * 94 + (trail.toNat - 0x21))).getD '\uFFFD'
  else '\uFFFD'

/-- Reads bytes. An escape right after another one, with nothing between them, stands for a bad
character. -/
def read (mode : Mode) (escaped : Bool) : List UInt8 → List Char
  | [] => []
  | 0x1B :: a :: b :: s =>
    match Mode.ofEscape? a b with
    | some mode => (if escaped then ['\uFFFD'] else []) ++ read mode true s
    | none => '\uFFFD' :: read mode false (a :: b :: s)
  | 0x1B :: s => '\uFFFD' :: read mode false s
  | [a] => [mode.charOf a]
  | a :: b :: s =>
    if mode = .pairs && isHalf a && b != 0x1B then pairAt a b :: read mode false s
    else mode.charOf a :: read mode false (b :: s)

end Escaped

end UsageFeed.Text.Charset.Japanese
