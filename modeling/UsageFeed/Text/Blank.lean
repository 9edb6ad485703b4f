/-!
# `UsageFeed.Text.Blank` — white space and trimming

## Contents
- **Classes.** `isBlank`, the Unicode property White_Space; `isAsciiBlank`, the part of it that one
  byte can show, less the vertical tab.
- **Trimming.** `trimBy` on lists, `trim` on texts.
-/

namespace UsageFeed.Text

/-! ## Classes -/

/-- The characters with the Unicode property White_Space. -/
def isBlank (c : Char) : Bool :=
  let n := c.toNat
  (9 ≤ n && n ≤ 13) || n == 0x20 || n == 0x85 || n == 0xA0 || n == 0x1680 ||
  (0x2000 ≤ n && n ≤ 0x200A) || n == 0x2028 || n == 0x2029 || n == 0x202F || n == 0x205F ||
  n == 0x3000

/-- Space, tab, line feed, form feed and carriage return. -/
def isAsciiBlank (b : UInt8) : Bool := b == 0x20 || b == 9 || b == 10 || b == 12 || b == 13

/-! ## Trimming -/

/-- The list without the elements at either end that satisfy `p`. -/
def trimBy {α : Type} (p : α → Bool) (l : List α) : List α :=
  ((l.dropWhile p).reverse.dropWhile p).reverse

/-- The text without white space at either end. -/
def trim (s : String) : String := String.ofList (trimBy isBlank s.toList)

/-- A text with nothing but white space in it. -/
def allBlank (s : String) : Bool := s.toList.all isBlank

end UsageFeed.Text
