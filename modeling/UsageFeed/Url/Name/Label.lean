import UsageFeed.Text.Mark
import UsageFeed.Url.Name.Form

/-!
# `UsageFeed.Url.Name.Label` — the parts of names between points

## Contents
- **Directions.** `Direction`, which way a character is written; `isDirected`, whether a label keeps
  to one.
- **Joiners.** `joinersFit`, whether signs that join letters or keep them apart stand between
  letters that can be joined.
- `isSound`, what holds of the characters of every label.
-/

namespace UsageFeed.Url.Name

open Text (Runs)

/-! ## Directions -/

/-- Which way a character is written. -/
inductive Direction where
  | left
  | right
  /-- A digit of scripts that are written from right to left. -/
  | rightDigit
  | digit
  /-- Written the way of what is around it. -/
  | neutral
  /-- A mark, written with the character before. -/
  | attached
  deriving DecidableEq, Repr

/-- The directions of usable characters other than letters from left to right, as gaps,
counts and marks. -/
def directionGaps : String := "
  0 9 4 5 E 4 5 F 4 0 A 3 0 27 4 1A 5D 4 1F 1 4 1C1 2 4 7 E 4 2 1C 4 1 11 4 75 1 4 80 1 4 193 6
  4 2E 1 1 1 1 1 2 1 1 2 1 1 9 25 1 11 2 4 0 1 1 0 2 4 0 1 1 0 1 4 0 1 1 0 2 4 B 30 1 15 A 2 0 1
  4 0 2 2 0 3 1 1 65 1 8 1 4 6 2 1 2 1 4 4 2 1 0 A 3 0 17 1 1 1E 1 1D 59 1 B 3A 1 9 2 1 0 4 4 0
  1 1 3 18 1 4 1 1 9 1 1 3 1 1 7 29 1 5 32 1 10 2A 1 128 2 4 7 1 4 F5 1 4 101 8 4 7D 7 4 1C0 1 4
  FA 4 4 452 A 4 66 1 4 29A 2 4 13E 1 4 14 1B 4 135 6 4 98 22 4 60C B6 4 42 4A 4 3C 1AC 4 45 1A
  4 1 316 4 1 153 4 100 300 4 E5 6 4 E 7 4 100 205 4 3 19 4 F 1 4 6 1 4 5 3 4 60 1 4 5A 1 4 C4
  26 4 1BDA 40 4 5690 37 4 146 3 4 63 1 4 A 2 4 80 22 4 66 1 4 9F 4 4 C 2 4 3A 4 4 2F2 2 4 5046
  11 1 0 23D 4 45 2 4 2C 1 1 28D 1 4 3E 4D 4 3 11 4 140 1B 3 504 11C 1 3 1 4 0 E1 1 F 26 1 A A5
  1 6 4B 1 3 7 4 0 1E4 1 C 1A 2 0 6 1 1E 1 4 0 21 1 D0 1F 2 1 2A 1 3 1B 1 8 9 4 27 46 1 B 31 1 4
  71 1 5B 14 4 5FA D 4 968 1D 4 4FF0 1 4 5C1D 2F1 4 2F8 59 4 3 1 4 BA 57 4 FA8 1 4 500 D0 1 52
  22 1 7 3F3 1 1B2 240 4 3D 3 4 3D 1 4 B2 99B 4"

/-- The directions of usable characters. -/
def directions : Runs Nat := .ofMarkedGaps directionGaps

/-- The marks that are written like letters from left to right. -/
def leftMarks : List Char :=
  ['\u0CBF', '\u0CC6', Char.ofNat 0x11A07, Char.ofNat 0x11A08, Char.ofNat 0x11C3F]

/-- The direction of a usable character. -/
def Direction.of (c : Char) : Direction :=
  match directions.value? c with
  | some 1 => .right
  | some 2 => .rightDigit
  | some 3 => .digit
  | some _ => .neutral
  | none => if Text.isAttached c && !leftMarks.contains c then .attached else .left

/-- Whether characters with these directions make a name one that is read from right to left. -/
def hasRight (s : List Char) : Bool :=
  s.any fun c => Direction.of c == .right || Direction.of c == .rightDigit

/-- Whether a label keeps to one direction: it begins with a letter, holds nothing of the other
direction, and ends with a letter or digit of its own, marks after it left out. From right to left
it has digits of one kind only. -/
def isDirected (label : List Char) : Bool :=
  match label.map Direction.of with
  | [] => true
  | first :: more =>
    let rest := (more.reverse.dropWhile (· == .attached)).reverse
    match first with
    | .left =>
      rest.all (fun d => d != .right && d != .rightDigit) &&
        rest.getLast?.all fun d => d == .left || d == .digit
    | .right =>
      rest.all (· != .left) && !(rest.contains .digit && rest.contains .rightDigit) &&
        rest.getLast?.all fun d => d == .right || d == .digit || d == .rightDigit
    | _ => false

/-! ## Joiners -/

/-- The usable letters that are joined to both neighbours (1), to the one after (2) or to the one
before (3), as gaps, counts and marks. -/
def joiningGaps : String := "
  620 1 1 1 4 3 0 1 1 0 1 3 0 1 1 0 1 3 0 5 1 0 4 3 0 D 1 1 7 1 0 1 3 0 2 1 23 2 1 1 3 3 5 F 1 0
  12 3 0 26 1 0 1 3 0 2 1 0 9 3 0 1 1 0 1 3 0 1 1 0 1 3 0 2 1 0 2 3 1 1 3 18 2 3 A 3 1 2 1 1 10
  1 3 1 3 1 0 5 3 0 4 1 0 1 3 0 9 1 0 1 3 0 1 1 0 1 3 0 1 1 0 1 3 0 2 1 0 1 3 1D 1 3 0 B 1 0 3 3
  0 F 1 0 2 3 0 4 1 0 1 3 0 1 1 0 2 3 0 3 1 0 2 3 0 6 1 4A 21 1 55 1 3 0 5 1 0 2 3 0 1 1 0 1 3 0
  A 1 0 1 3 0 1 1 0 3 3 7 1 1 1 4 1 1 1 3 0 1 1 0 1A 3 3 1 1 2 5 1 0 1 3 0 1 1 10 A 1 0 3 3 1 1
  3 0 2 1 0 2 3 0 6 1 0 1 3 0 F 1 F3E 1 1 18 59 1 E 22 1 1 1 1 8F95 32 1 0 1 2 624D 5 1 0 1 3 1
  1 3 1 2 3 2 1 2 0 5 3 0 4 1 0 1 2 0 5 1 0 1 3 0 3 1 0 1 3 2 1 3 6 4 1 0 1 3 90 1 1 0 1 3 0 1 1
  0 3 3 0 3 1 0 1 3 0 2 1 0 1 3 0 1 1 0 2 3 0 1 1 0 1 3 17 4 3 0 2 1 151 1 2 0 21 1 0 1 3 0 1 1
  19E 1 3 0 2 1 1 2 1 68 3 1 0 1 3 0 11 1 C 3 1 0 1 3 1B 4 1 0 2 3 0 C 1 2E 1 1 1 2 1 0 3 3 1 1
  1 0 2 3 0 2 1 0 1 3 0 2 1 1 1 1 0 2 3 0 1 1 4 1 3 0 1 1 0 1 2 D956 22 1"

/-- The usable letters that are joined to others. -/
def joining : Runs Nat := .ofMarkedGaps joiningGaps

/-- Whether a character does not come between letters that are joined. -/
def isSeeThrough (c : Char) : Bool := Text.isAttached c || c == Char.ofNat 0x1E94B

/-- Whether the first letter, marks before it left out, is joined in one of two ways. -/
def meetsJoining (way : Nat) (s : List Char) : Bool :=
  match (s.dropWhile isSeeThrough).head?.bind joining.value? with
  | some w => w == 1 || w == way
  | none => false

/-- Whether the joiners in a label fit, after the characters in `before`, last one first. Either
comes after a mark that takes the vowel from a letter. The one that keeps letters apart also comes
between two that would be joined. -/
def joinersFit (before : List Char) : List Char → Bool
  | [] => true
  | c :: s =>
    (if c == '\u200D' then before.head?.any Text.takesVowel
      else if c == '\u200C' then
        before.head?.any Text.takesVowel || (meetsJoining 2 before && meetsJoining 3 s)
      else true) && joinersFit (c :: before) s

/-! ## Labels -/

/-- How many characters a label that is not all ASCII can have. -/
def longestLabel : Nat := 1000

/-- What holds of the characters of every label: it does not begin with a mark, its joiners fit, and
it is not too long. -/
def isSound (label : List Char) : Bool :=
  !label.head?.any Text.isMark && joinersFit [] label &&
    (label.all (·.toNat < 0x80) || label.length ≤ longestLabel)

end UsageFeed.Url.Name
