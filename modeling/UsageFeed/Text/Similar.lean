/-!
# `UsageFeed.Text.Similar` — how alike two words are

## Contents
- `Likeness`, a ratio, and `likeness`, by letters in common and their order.
- `similar`, the words of a list that are alike enough to be meant, the likest last.
-/

namespace UsageFeed.Text

/-- A ratio between zero and one. -/
structure Likeness where
  part : Nat
  whole : Nat
  deriving DecidableEq, Repr

/-- Whether one ratio is less than another. -/
def Likeness.less (a b : Likeness) : Bool := a.part * b.whole < b.part * a.whole

/-- Finds a letter among those not taken yet, from place `low` on and before place `high`. -/
def findFree (c : Char) (low high : Nat) (letters : List (Char × Bool)) : Option Nat :=
  (letters.zipIdx).findSome? fun ((d, taken), i) =>
    if low ≤ i && i < high && c == d && !taken then some i else none

/-- Marks the letter at a place as taken. -/
def takeAt (letters : List (Char × Bool)) (i : Nat) : List (Char × Bool) :=
  letters.modify i fun (d, _) => (d, true)

/-- Goes through the letters of a word from place `i` on: those that find a fellow no further away
than `range`, and the other word with the fellows marked. -/
def pairUp (range i : Nat) (other : List (Char × Bool)) :
    List Char → List Char × List (Char × Bool)
  | [] => ([], other)
  | c :: s =>
    match findFree c (i - range) (i + range + 1) other with
    | some j =>
      let (rest, other) := pairUp range (i + 1) (takeAt other j) s
      (c :: rest, other)
    | none => pairUp range (i + 1) other s

/-- How alike two words are: the mean of the share of each word's letters that have fellows in the
other, and of the share of those that stand in the same order. -/
def likeness (a b : String) : Likeness :=
  let s := a.toList
  let t := b.toList
  if s.isEmpty && t.isEmpty then ⟨1, 1⟩
  else
    let range := max s.length t.length / 2 - 1
    let (mine, marked) := pairUp range 0 (t.map (·, false)) s
    let theirs := (marked.filter (·.2)).map (·.1)
    let m := mine.length
    if m = 0 then ⟨0, 1⟩
    else
      let moved := ((mine.zip theirs).filter fun (c, d) => c != d).length / 2
      let la := s.length
      let lb := t.length
      ⟨m * lb * m + m * la * m + (m - moved) * la * lb, 3 * la * lb * m⟩

/-- Puts a word behind all that are no liker. -/
def insertByLikeness (w : Likeness × String) : List (Likeness × String) → List (Likeness × String)
  | [] => [w]
  | v :: more => if w.1.less v.1 then w :: v :: more else v :: insertByLikeness w more

/-- The words that are more than seven tenths like a given one, the likest last. -/
def similar (word : String) (candidates : List String) : List String :=
  let scored := candidates.map fun c => (likeness word c, c)
  let near := scored.filter fun (l, _) => Likeness.less ⟨7, 10⟩ l
  (near.foldl (fun sorted w => insertByLikeness w sorted) []).map (·.2)

end UsageFeed.Text
