/-!
# `UsageFeed.Text.Runs` — properties of characters as tables

## Contents
- `Run`, characters that lie together and what they have in common; `Runs`, a table of them.
- **Lookup.** `Runs.findAt?` and `Runs.find?` by bisection, `Runs.value?` and `Runs.holds`.
- **Writing.** Tables are written as numbers in base sixteen: `numbers`, and `Runs.ofGaps` and
  `Runs.ofMarkedGaps` for the two kinds of table.
-/

namespace UsageFeed.Text

/-- Characters that lie together, from the first to the last, and what they have in common. -/
structure Run (α : Type) where
  first : Nat
  last : Nat
  value : α
  deriving Repr

/-- A table of runs in order. -/
abbrev Runs (α : Type) := Array (Run α)

namespace Runs

/-! ## Lookup -/

/-- The run that holds `n` from index `low` to before index `high`, by bisection. -/
def findFrom? {α : Type} (runs : Runs α) (n : Nat) : Nat → Nat → Nat → Option (Run α)
  | 0, _, _ => none
  | fuel + 1, low, high =>
    if high ≤ low then none
    else
      let mid := (low + high) / 2
      match runs[mid]? with
      | none => none
      | some r =>
        if n < r.first then findFrom? runs n fuel low mid
        else if r.last < n then findFrom? runs n fuel (mid + 1) high
        else some r

/-- The run that holds `n`. -/
def findAt? {α : Type} (runs : Runs α) (n : Nat) : Option (Run α) :=
  runs.findFrom? n (runs.size + 1) 0 runs.size

/-- The run that holds a character. -/
def find? {α : Type} (runs : Runs α) (c : Char) : Option (Run α) := runs.findAt? c.toNat

/-- What a table says about a character. -/
def value? {α : Type} (runs : Runs α) (c : Char) : Option α := (runs.find? c).map (·.value)

/-- Whether a table lists a character. -/
def holds {α : Type} (runs : Runs α) (c : Char) : Bool := (runs.find? c).isSome

/-! ## Writing -/

/-- The value of a digit in base sixteen, with capital letters. -/
def digit (c : Char) : Nat := if c.isDigit then c.toNat - 48 else c.toNat - 55

/-- The number that digits spell in base sixteen. -/
def number (s : List Char) : Nat := s.foldl (fun n c => n * 16 + digit c) 0

/-- The words of a text with blanks between them. -/
def words (s : String) : List (List Char) :=
  (s.toList.splitOnP Char.isWhitespace).filter (!·.isEmpty)

/-- The numbers of a text. -/
def numbers (s : String) : List Nat := (words s).map number

/-- Runs from `start` on: how many characters lie before each, and how many it holds. -/
def fromGaps (start : Nat) : List Nat → List (Run Unit)
  | gap :: count :: more => ⟨start + gap, start + gap + count - 1, ()⟩ ::
      fromGaps (start + gap + count) more
  | _ => []

/-- The table of gaps and counts. -/
def ofGaps (s : String) : Runs Unit := (fromGaps 0 (numbers s)).toArray

/-- Runs from `start` on: how many characters lie before each, how many it holds, and a mark. -/
def fromMarkedGaps (start : Nat) : List Nat → List (Run Nat)
  | gap :: count :: mark :: more => ⟨start + gap, start + gap + count - 1, mark⟩ ::
      fromMarkedGaps (start + gap + count) more
  | _ => []

/-- The table of gaps, counts and marks. -/
def ofMarkedGaps (s : String) : Runs Nat := (fromMarkedGaps 0 (numbers s)).toArray

end Runs
end UsageFeed.Text
