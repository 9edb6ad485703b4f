import UsageFeed.Text.Printable

/-!
# `UsageFeed.Text.Quoted` — texts shown inside messages

## Contents
- `quoted`, a text between double quotes with everything in it visible: backslash forms for the
  common controls, quotes and backslashes, and `\u{…}` for other characters that do not show.
-/

namespace UsageFeed.Text

/-- A number in hexadecimal, in small letters. -/
def hexDigits (n : Nat) : List Char := Nat.toDigits 16 n

/-- One character of a quoted text. -/
def quotedChar (c : Char) : List Char :=
  if c == '\x00' then ['\\', '0']
  else if c == '\t' then ['\\', 't']
  else if c == '\r' then ['\\', 'r']
  else if c == '\n' then ['\\', 'n']
  else if c == '"' then ['\\', '"']
  else if c == '\\' then ['\\', '\\']
  else if isPrintable c then [c]
  else ['\\', 'u', '\x7b'] ++ hexDigits c.toNat ++ ['\x7d']

/-- A text between double quotes, with everything in it visible. -/
def quoted (s : String) : String := String.ofList ('"' :: s.toList.flatMap quotedChar ++ ['"'])

end UsageFeed.Text
