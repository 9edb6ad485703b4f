import UsageFeed.Text.Blank
import UsageFeed.Text.Charset.Big5
import UsageFeed.Text.Charset.Gb18030
import UsageFeed.Text.Charset.Japanese
import UsageFeed.Text.Charset.Korean
import UsageFeed.Text.Charset.Page
import UsageFeed.Text.Utf8

/-!
# `UsageFeed.Text.Charset` — texts in other encodings

## Contents
- `Charset` and `Charset.ofLabel?`.
- **Units.** `ofUnits`, characters of one or two units of two bytes each.
- `Charset.decode`, which reads any bytes; a mark at their beginning tells more than the label.
-/

namespace UsageFeed.Text

/-- How bytes stand for characters. -/
inductive Charset where
  | utf8
  /-- Two or four bytes each, the low byte first or not. -/
  | utf16 (lowFirst : Bool)
  | page (page : Charset.Page)
  | gb18030
  | big5
  | eucJp
  | shiftJis
  /-- Japanese characters after escapes. -/
  | iso2022Jp
  | eucKr
  /-- One that is known and not read. -/
  | unread
  deriving DecidableEq, Repr

namespace Charset

/-- The names of encodings, in small letters, with blanks between them. -/
def labels : List (Charset × String) :=
  [ (.utf8, "utf-8 utf8 unicode-1-1-utf-8 unicode11utf8 unicode20utf8 x-unicode20utf8"),
    (.utf16 true, "utf-16 utf-16le unicode unicodefeff ucs-2 csunicode iso-10646-ucs-2"),
    (.utf16 false, "utf-16be unicodefffe"),
    (.gb18030, "chinese csgb2312 csiso58gb231280 gb2312 gb_2312 gb_2312-80 gbk iso-ir-58 x-gbk
      gb18030"),
    (.big5, "big5 big5-hkscs cn-big5 csbig5 x-x-big5"),
    (.eucJp, "cseucpkdfmtjapanese euc-jp x-euc-jp"),
    (.shiftJis, "csshiftjis ms932 ms_kanji shift-jis shift_jis sjis windows-31j x-sjis"),
    (.iso2022Jp, "csiso2022jp iso-2022-jp"),
    (.eucKr, "cseuckr csksc56011987 euc-kr iso-ir-149 korean ks_c_5601-1987 ks_c_5601-1989 ksc5601
      ksc_5601 windows-949"),
    (.unread, "csiso2022kr hz-gb-2312 iso-2022-cn iso-2022-cn-ext iso-2022-kr replacement") ] ++
  Page.all.map fun p => (.page p, p.labels)

/-- A blank around the name of an encoding. -/
def isLabelBlank (c : Char) : Bool := c ∈ [' ', '\t', '\n', '\x0c', '\r']

/-- The encoding of a name in any case, with any blanks around it. -/
def ofLabel? (label : String) : Option Charset :=
  let name := (trimBy isLabelBlank label.toList).map Char.toLower
  (labels.find? fun entry => name ∈ Runs.words entry.2).map (·.1)

/-! ## Units of two bytes -/

/-- Pairs of bytes as units; a byte left over is none. -/
def units (lowFirst : Bool) : List UInt8 → List (Option Nat)
  | [] => []
  | [_] => [none]
  | a :: b :: s =>
    some (if lowFirst then b.toNat * 256 + a.toNat else a.toNat * 256 + b.toNat) :: units lowFirst s

/-- A unit that opens a pair. -/
def isHigh (n : Nat) : Bool := 0xD800 ≤ n && n < 0xDC00

/-- A unit that closes a pair. -/
def isLow (n : Nat) : Bool := 0xDC00 ≤ n && n < 0xE000

/-- Units as characters; one that stands for none becomes U+FFFD. -/
def ofUnits : List (Option Nat) → List Char
  | [] => []
  | [some n] => [if isHigh n || isLow n then '\uFFFD' else Char.ofNat n]
  | none :: s => '\uFFFD' :: ofUnits s
  | some a :: none :: s =>
    -- a byte left over goes with an open pair
    if isHigh a then '\uFFFD' :: ofUnits s
    else (if isLow a then '\uFFFD' else Char.ofNat a) :: ofUnits (none :: s)
  | some a :: some b :: s =>
    if isHigh a then
      if isLow b then Char.ofNat (0x10000 + (a - 0xD800) * 0x400 + (b - 0xDC00)) :: ofUnits s
      else '\uFFFD' :: ofUnits (some b :: s)
    else (if isLow a then '\uFFFD' else Char.ofNat a) :: ofUnits (some b :: s)

/-! ## Reading -/

/-- Reads bytes, with U+FFFD for what stands for no character. -/
def decodeAs (bytes : List UInt8) : Charset → String
  | utf8 => Utf8.repair bytes
  | utf16 lowFirst => String.ofList (ofUnits (units lowFirst bytes))
  | page p =>
    let table := p.table
    String.ofList (bytes.map (Page.charOf table))
  | gb18030 => String.ofList (readAll Gb18030.take bytes)
  | big5 => String.ofList (readAll Big5.take bytes)
  | eucJp => String.ofList (readAll Japanese.Euc.take bytes)
  | shiftJis => String.ofList (readAll Japanese.ShiftJis.take bytes)
  | iso2022Jp => String.ofList (Japanese.Escaped.read .ascii false bytes)
  | eucKr => String.ofList (readAll Korean.take bytes)
  | unread => if bytes.isEmpty then "" else "\uFFFD"

/-- Reads bytes. A mark at their beginning says how, and is left out. -/
def decode (c : Charset) (bytes : List UInt8) : String :=
  match bytes with
  | 0xEF :: 0xBB :: 0xBF :: rest => decodeAs rest utf8
  | 0xFE :: 0xFF :: rest => decodeAs rest (utf16 false)
  | 0xFF :: 0xFE :: rest => decodeAs rest (utf16 true)
  | _ => decodeAs bytes c

end Charset

end UsageFeed.Text
