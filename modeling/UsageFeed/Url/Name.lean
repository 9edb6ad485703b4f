import UsageFeed.Url.Name.Label
import UsageFeed.Url.Percent
import UsageFeed.Url.Punycode

/-!
# `UsageFeed.Url.Name` — names of hosts

## Contents
- `isForbidden` and `isForbiddenInName`, what hosts and names cannot hold.
- **Labels.** `labelOf?`, the characters that a label stands for; `asciiLabel`, how they are
  written.
- `ofText?`, the name that a text spells, in small letters and ASCII.
-/

namespace UsageFeed.Url.Name

/-- What a host cannot hold. -/
def isForbidden (c : Char) : Bool :=
  c ∈ ['\x00', '\t', '\n', '\r', ' ', '#', '/', ':', '<', '>', '?', '@', '[', '\\', ']', '^', '|']

/-- What the name of a host of a common scheme cannot hold. -/
def isForbiddenInName (c : Char) : Bool := isForbidden c || Percent.isControl c || c == '%'

/-! ## Labels -/

/-- The beginning of a label that is written in ASCII and stands for other letters. -/
def asciiMark : List Char := "xn--".toList

/-- How long the written form of other letters can be. -/
def longestWritten : Nat := 2000

/-- The characters that a label in usual form stands for. One that begins with the mark is read, and
has to stand for characters in usual form. -/
def labelOf? (s : List Char) : Option (List Char) :=
  if asciiMark.isPrefixOf s then
    let written := s.drop asciiMark.length
    if written.isEmpty || written.getLast? = some '-' || longestWritten < written.length then none
    else (Punycode.decode? written).filter isUsual
  else some s

/-- A label in ASCII. -/
def asciiLabel (s : List Char) : List Char :=
  if s.all (·.toNat < 0x80) then s else asciiMark ++ Punycode.encode s

/-! ## Names -/

/-- The labels of the name that a text spells. Where one of them is read from right to left, each
keeps to one direction. -/
def labelsOfText? (s : List Char) : Option (List (List Char)) := do
  let s ← usualForm? (← Percent.decodeText? s)
  let labels ← (s.splitOnP (· == '.')).mapM labelOf?
  if labels.any (·.any isForbiddenInName) || !labels.all isSound then none
  else if labels.any hasRight && !labels.all isDirected then none
  else return labels

/-- The name that a text spells, in small letters and ASCII. -/
def ofText? (s : List Char) : Option (List Char) :=
  (labelsOfText? s).map fun labels => ['.'].intercalate (labels.map asciiLabel)

end UsageFeed.Url.Name
