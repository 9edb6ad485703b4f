import UsageFeed.Json.Value
import UsageFeed.Decimal.Layout
import UsageFeed.Text.Quoted

/-!
# `UsageFeed.Json.Text` — writing JSON

## Contents
- `escapeChar` and `quote`, the spelling of texts.
- `Number.chars` and `Json.write`, the compact text of a number and of a document.
-/

namespace UsageFeed.Json

/-! ## Texts -/

/-- A control character as four hexadecimal digits. -/
def controlEscape (c : Char) : List Char :=
  let n := c.toNat
  ['\\', 'u', '0', '0', Nat.digitChar (n / 16), Nat.digitChar (n % 16)]

/-- The spelling of one character inside a text: quote, backslash and controls are escaped, and
nothing else is. -/
def escapeChar (c : Char) : List Char :=
  if c = '"' then ['\\', '"']
  else if c = '\\' then ['\\', '\\']
  else if c = '\x08' then ['\\', 'b']
  else if c = '\x0c' then ['\\', 'f']
  else if c = '\n' then ['\\', 'n']
  else if c = '\r' then ['\\', 'r']
  else if c = '\t' then ['\\', 't']
  else if c.toNat < 0x20 then controlEscape c
  else [c]

/-- A text between quotes. -/
def quote (s : String) : List Char := '"' :: s.toList.flatMap escapeChar ++ ['"']

/-! ## Numbers -/

/-- The characters of a whole number. -/
def intChars (n : Int) : List Char :=
  if n < 0 then '-' :: (Nat.repr n.natAbs).toList else (Nat.repr n.natAbs).toList

/-- The characters of a number; a float that is not finite has none, and null stands for it. -/
def Number.chars : Number → List Char
  | .whole n => intChars n
  | .float x =>
    if Decimal.isFinite x then Decimal.Layout.exchange.finite x else ['n', 'u', 'l', 'l']

/-! ## Documents -/

mutual

/-- The characters of a document. -/
def chars : Json → List Char
  | .null => ['n', 'u', 'l', 'l']
  | .bool true => ['t', 'r', 'u', 'e']
  | .bool false => ['f', 'a', 'l', 's', 'e']
  | .number n => n.chars
  | .text s => quote s
  | .list items => '[' :: itemChars items ++ [']']
  | .object members => '\x7b' :: memberChars members ++ ['\x7d']

/-- The characters of list items with commas between them. -/
def itemChars : List Json → List Char
  | [] => []
  | [j] => chars j
  | j :: k :: rest => chars j ++ ',' :: itemChars (k :: rest)

/-- The characters of object members with commas between them. -/
def memberChars : List (String × Json) → List Char
  | [] => []
  | [(name, j)] => quote name ++ ':' :: chars j
  | (name, j) :: m :: rest => quote name ++ ':' :: chars j ++ ',' :: memberChars (m :: rest)

end

/-- The compact text of a document: members in order, no spaces. -/
def write (j : Json) : String := String.ofList (chars j)

end UsageFeed.Json
