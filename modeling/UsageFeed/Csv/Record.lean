import UsageFeed.Text.Utf8
import UsageFeed.Text.Blank

/-!
# `UsageFeed.Csv.Record` — comma-separated records

## Contents
- `Position` and `Record`, a record's cells and where reading it began.
- `scan`, which reads one record; `records`, all records of a file.
- `Record.texts`, the cells as trimmed texts.
-/

namespace UsageFeed.Csv

/-- The byte between cells. -/
@[match_pattern] abbrev comma : UInt8 := 0x2C
/-- The byte around cells that hold anything. -/
@[match_pattern] abbrev quote : UInt8 := 0x22

/-- A byte that ends a record. -/
def isTerminator (b : UInt8) : Bool := b == 0x0A || b == 0x0D

/-- A place in a file: the bytes before it, and the line, counted from one by line feeds. -/
structure Position where
  byte : Nat
  line : Nat
  deriving DecidableEq, Repr

/-- The place after one more byte. -/
def Position.step (p : Position) (b : UInt8) : Position :=
  ⟨p.byte + 1, if b = 0x0A then p.line + 1 else p.line⟩

/-- A record: its number in the file, where reading it began, and its cells. -/
structure Record where
  index : Nat
  position : Position
  cells : List (List UInt8)
  deriving DecidableEq, Repr

/-! ## Reading -/

/-- Where in a record the next byte stands. -/
inductive Place where
  /-- Before the first cell, where terminators make blank lines. -/
  | outside
  /-- At the beginning of a cell, where a quote opens it. -/
  | start
  /-- Inside an open cell. -/
  | plain
  /-- Inside quotes. -/
  | quoted
  /-- After a quote inside quotes, which closes them or is the first of two. -/
  | closing
  deriving DecidableEq, Repr

/-- Reads one record: its cells, the place right after the byte that ended it, and the bytes from
there on. `cell` holds the bytes of the cell at hand, last one first, and `cells` the cells before
it, last one first. Without a further record there is nothing to return. -/
def scan : Place → Position → List UInt8 → List (List UInt8) → List UInt8 →
    Option (List (List UInt8) × Position × List UInt8)
  | .outside, _, _, _, [] => none
  | _, p, cell, cells, [] => some ((cell.reverse :: cells).reverse, p, [])
  | .quoted, p, cell, cells, b :: s =>
    if b = quote then scan .closing (p.step b) cell cells s
    else scan .quoted (p.step b) (b :: cell) cells s
  | place, p, cell, cells, b :: s =>
    if b = quote && place = .closing then scan .quoted (p.step b) (b :: cell) cells s
    else if b = quote && place ≠ .plain then scan .quoted (p.step b) cell cells s
    else if isTerminator b then
      if place = .outside then scan .outside (p.step b) cell cells s
      else some ((cell.reverse :: cells).reverse, p.step b, s)
    else if b = comma then scan .start (p.step b) [] (cell.reverse :: cells) s
    else scan .plain (p.step b) (b :: cell) cells s

/-- Reading a record takes bytes off the file. -/
theorem scan_shorter {place : Place} {p : Position} {cell : List UInt8} {cells : List (List UInt8)}
    {s : List UInt8} {r : List (List UInt8) × Position × List UInt8}
    (h : scan place p cell cells s = some r) : r.2.2.length < s.length ∨ s = [] := by
  induction s generalizing place p cell cells with
  | nil => exact .inr rfl
  | cons b s ih =>
    left
    have step : ∀ {place p cell cells}, scan place p cell cells s = some r →
        r.2.2.length < s.length + 1 := by
      intro place p cell cells h
      rcases ih h with h | h
      · omega
      · subst h
        cases place <;> simp [scan] at h <;> simp [← h]
    cases place <;> simp only [scan] at h <;> simp only [List.length_cons]
    all_goals
      repeat' split at h
      all_goals first
        | exact step h
        | (simp only [Option.some.injEq] at h; subst h; simp)

/-- The records from a place on. -/
def recordsFrom (index : Nat) (p : Position) (s : List UInt8) : List Record :=
  match _h : scan .outside p [] [] s with
  | none => []
  | some (cells, q, rest) => ⟨index, p, cells⟩ :: recordsFrom (index + 1) q rest
termination_by s.length
decreasing_by
  rcases scan_shorter _h with h | h
  · exact h
  · subst h
    simp [scan] at _h

/-- All records of a file; a leading byte order mark only moves their places. -/
def records (file : List UInt8) : List Record :=
  let body := Text.Utf8.dropMark file
  recordsFrom 0 ⟨file.length - body.length, 1⟩ body

/-! ## Texts -/

/-- A cell that is not text: its number, and how many of its bytes are. -/
structure BadCell where
  field : Nat
  validLength : Nat
  deriving DecidableEq, Repr

/-- The cells as texts, trimmed first of the blank bytes and then of all white space. Cells are
numbered from `field` on. -/
def textsFrom (field : Nat) : List (List UInt8) → Except BadCell (List String)
  | [] => .ok []
  | cell :: more =>
    match Text.Utf8.decode (Text.trimBy Text.isAsciiBlank cell) with
    | .error d => .error ⟨field, d.validLength⟩
    | .ok t => (textsFrom (field + 1) more).map (Text.trim t :: ·)

/-- The cells as trimmed texts. -/
def Record.texts (r : Record) : Except BadCell (List String) := textsFrom 0 r.cells

end UsageFeed.Csv
