/-!
# `UsageFeed.Text.Pattern.CharSet` — sets of characters

## Contents
- `CharSet` and `CharSet.holds`.
- **Sets with names.** `CharSet.ofName?` for those of ASCII; `CharSet.all` and `CharSet.ascii`.
-/

namespace UsageFeed.Text.Pattern

/-- A set of characters by their numbers. -/
inductive CharSet where
  | empty
  | range (first last : Nat)
  | union (a b : CharSet)
  | inter (a b : CharSet)
  | compl (a : CharSet)
  /-- A set with every letter of ASCII in it in either case. -/
  | eitherCase (a : CharSet)
  deriving DecidableEq, Repr

namespace CharSet

/-- The number of a letter of ASCII in the other case. -/
def swapCase (n : Nat) : Nat :=
  if 65 ≤ n && n ≤ 90 then n + 32 else if 97 ≤ n && n ≤ 122 then n - 32 else n

/-- Whether a set holds the character with a number. -/
def holds : CharSet → Nat → Bool
  | empty, _ => false
  | range first last, n => first ≤ n && n ≤ last
  | union a b, n => a.holds n || b.holds n
  | inter a b, n => a.holds n && b.holds n
  | compl a, n => !a.holds n
  | eitherCase a, n => a.holds n || a.holds (swapCase n)

/-- The set of one character. -/
def one (n : Nat) : CharSet := range n n

/-- The characters of one set that another lacks. -/
def without (a b : CharSet) : CharSet := inter a (compl b)

/-- The characters of just one of two sets. -/
def either (a b : CharSet) : CharSet := union (without a b) (without b a)

/-- The union of several sets. -/
def ofList (l : List CharSet) : CharSet := l.foldl union empty

/-- All characters. -/
def all : CharSet := range 0 0x10FFFF

/-- The characters of ASCII. -/
def ascii : CharSet := range 0 0x7F

/-- Whether a set of bytes holds ASCII only. -/
def isAscii (a : CharSet) : Bool := (List.range' 0x80 0x80).all fun n => !a.holds n

/-! ## Sets with names -/

/-- Capital letters. -/
def upper : CharSet := range 65 90

/-- Small letters. -/
def lower : CharSet := range 97 122

/-- Figures. -/
def digit : CharSet := range 48 57

/-- Letters. -/
def alpha : CharSet := union upper lower

/-- Letters and figures. -/
def alnum : CharSet := union alpha digit

/-- Letters, figures and the low line. -/
def word : CharSet := union alnum (one 95)

/-- Blanks and the ends of lines and pages. -/
def space : CharSet := union (range 9 13) (one 32)

/-- Visible characters. -/
def graph : CharSet := range 33 126

/-- A set by its name in brackets. -/
def ofName? : String → Option CharSet
  | "alnum" => some alnum
  | "alpha" => some alpha
  | "ascii" => some ascii
  | "blank" => some (union (one 9) (one 32))
  | "cntrl" => some (union (range 0 31) (one 127))
  | "digit" => some digit
  | "graph" => some graph
  | "lower" => some lower
  | "print" => some (range 32 126)
  | "punct" => some (without graph alnum)
  | "space" => some space
  | "upper" => some upper
  | "word" => some word
  | "xdigit" => some (ofList [digit, range 65 70, range 97 102])
  | _ => none

end CharSet
end UsageFeed.Text.Pattern
