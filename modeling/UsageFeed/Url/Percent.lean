import UsageFeed.Text.Utf8

/-!
# `UsageFeed.Url.Percent` — bytes behind percent signs

## Contents
- **Sets.** The characters that each part of a URL cannot hold as they are.
- **Writing.** `encode`, and `formEncode` for names and values of forms.
- **Reading.** `decode`.
-/

namespace UsageFeed.Url.Percent

/-! ## Sets -/

/-- The controls among the ASCII characters. -/
def isControl (c : Char) : Bool := c.toNat < 0x20 || c.toNat == 0x7F

/-- What a fragment cannot hold. -/
def inFragment (c : Char) : Bool := isControl c || c ∈ [' ', '"', '<', '>', '`']

/-- What a segment of a path cannot hold. -/
def inPath (c : Char) : Bool := inFragment c || c ∈ ['#', '?', '\x7b', '\x7d']

/-- What the name or the password of a user cannot hold. -/
def inUser (c : Char) : Bool :=
  inPath c || c ∈ ['/', ':', ';', '=', '@', '[', '\\', ']', '^', '|']

/-- What a query cannot hold; the query of a common scheme has no apostrophe either. -/
def inQuery (common : Bool) (c : Char) : Bool :=
  isControl c || c ∈ [' ', '"', '#', '<', '>'] || (common && c == '\'')

/-! ## Writing -/

/-- A digit of base sixteen, with capital letters. -/
def hexDigit (n : Nat) : Char := Char.ofNat (if n < 10 then 48 + n else 55 + n)

/-- A byte behind a percent sign. -/
def escape (b : UInt8) : List Char := ['%', hexDigit (b.toNat / 16), hexDigit (b.toNat % 16)]

/-- A character as it is, or its bytes behind percent signs if it is not ASCII or in the set. -/
def encodeChar (inSet : Char → Bool) (c : Char) : List Char :=
  if 0x80 ≤ c.toNat || inSet c then (String.utf8EncodeChar c).flatMap escape else [c]

/-- A text without characters of a set. -/
def encode (inSet : Char → Bool) (s : List Char) : List Char := s.flatMap (encodeChar inSet)

/-- The bytes that stand for themselves in a form. -/
def isFormPlain (b : UInt8) : Bool :=
  (0x30 ≤ b && b ≤ 0x39) || (0x41 ≤ b && b ≤ 0x5A) || (0x61 ≤ b && b ≤ 0x7A) ||
  b == 0x2A || b == 0x2D || b == 0x2E || b == 0x5F

/-- A byte in a form: a blank is a plus sign. -/
def formByte (b : UInt8) : List Char :=
  if isFormPlain b then [Char.ofNat b.toNat] else if b = 0x20 then ['+'] else escape b

/-- A name or a value in a form. -/
def formEncode (s : String) : String := String.ofList ((Text.Utf8.encode s).flatMap formByte)

/-- Names with their values as a form. -/
def form (pairs : List (String × String)) : String :=
  "&".intercalate (pairs.map fun (k, v) => formEncode k ++ "=" ++ formEncode v)

/-! ## Reading -/

/-- The value of a digit of base sixteen. -/
def hexValue? (b : UInt8) : Option UInt8 :=
  if 0x30 ≤ b && b ≤ 0x39 then some (b - 0x30)
  else if 0x41 ≤ b && b ≤ 0x46 then some (b - 0x37)
  else if 0x61 ≤ b && b ≤ 0x66 then some (b - 0x57)
  else none

/-- The bytes with all those behind percent signs; a percent sign without two digits stands for
itself. -/
def decode : List UInt8 → List UInt8
  | [] => []
  | [a] => [a]
  | [a, b] => [a, b]
  | a :: b :: c :: s =>
    match if a = 0x25 then (hexValue? b, hexValue? c) else (none, none) with
    | (some h, some l) => (h * 16 + l) :: decode s
    | _ => a :: decode (b :: c :: s)

/-- The text with all bytes behind percent signs, if they are text. -/
def decodeText? (s : List Char) : Option (List Char) :=
  (Text.Utf8.decodeChars (decode (Text.Utf8.encode (String.ofList s)))).toOption

end UsageFeed.Url.Percent
