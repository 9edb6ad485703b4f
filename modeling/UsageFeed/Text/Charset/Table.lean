/-!
# `UsageFeed.Text.Charset.Table` — characters by place

## Contents
- `Table`, and `Table.charAt?`.
- `Table.ofText`, the table that a text spells.
- `Table.others`, the characters of a block that a table leaves out.
-/

namespace UsageFeed.Text.Charset

/-- Characters by place. Some places hold none. -/
abbrev Table := Array (Option Char)

namespace Table

/-- The character at a place. -/
def charAt? (t : Table) (place : Nat) : Option Char := t[place]?.join

/-- Puts all characters from one to another at the end of a table. -/
def pushAll (t : Table) (first last : Char) : Table :=
  (List.range (last.toNat + 1 - first.toNat)).foldl
    (fun t i => t.push (some (Char.ofNat (first.toNat + i)))) t

/-- Puts so many empty places at the end of a table. -/
def pushNone (t : Table) (count : Nat) : Table := t ++ Array.replicate count none

/-- Adds the places that a text spells, after `gap` empty ones. A number tells of so many empty
places, two characters with a hyphen between them of all from one to the other, and any other
character of itself. Blanks count for nothing. -/
def pushText (t : Table) (gap : Nat) : List Char → Table
  | [] => t.pushNone gap
  | a :: '-' :: b :: s => pushText ((t.pushNone gap).pushAll a b) 0 s
  | c :: s =>
    if c.isDigit then pushText t (gap * 10 + (c.toNat - 48)) s
    else if c.isWhitespace then pushText t gap s
    else pushText ((t.pushNone gap).push (some c)) 0 s

/-- The table that a text spells. -/
def ofText (s : String) : Table := pushText #[] 0 s.toList

/-- Which characters of a block a table lists. -/
def listed (t : Table) (first count : Nat) : Array Bool :=
  t.foldl (fun marks c? =>
    match c? with
    | some c => if first ≤ c.toNat then marks.setIfInBounds (c.toNat - first) true else marks
    | none => marks) (Array.replicate count false)

/-- The characters of a block that a table leaves out, in order. -/
def others (t : Table) (first count : Nat) : Table :=
  let marks := t.listed first count
  ((List.range count).filter fun i => marks[i]? == some false).toArray.map fun i =>
    some (Char.ofNat (first + i))

end Table
end UsageFeed.Text.Charset
