import UsageFeed.Json.Numeral

/-!
# `UsageFeed.Json.Container` — reading lists and objects

## Contents
- `Decoder`, a way to read one kind of value within a limit on nesting.
- `nextItem` and `nextName`, what stands between items; `readItems` and `readMembers`, the bodies of
  lists and objects.
- `endList` and `endObject`, the ends of containers; `afterList` and `afterObject`, the places of
  faults that concern the whole of one.
- `enter`, `listBody` and `objectBody`, containers within the limit on nesting.
-/

namespace UsageFeed.Json

/-- A way to read one kind of value: from the number of containers that may still open around or in
it, and the bytes from its beginning on. -/
abbrev Decoder (α : Type) := Nat → List UInt8 → Reading α

/-- The number of containers that may be open at once. -/
def nestingLimit : Nat := 127

/-! ## Between the items -/

/-- Where the next item of a list starts: the bytes from there, or nothing and the bytes from the
closing bracket on. -/
def nextItem (first : Bool) (s : List UInt8) : Except Fault (Bool × List UInt8) :=
  match skipSpace s with
  | [] => .error (ahead .endInList [])
  | b :: r =>
    if b = closeList then .ok (false, b :: r)
    else if first then .ok (true, b :: r)
    else if b = commaByte then
      match skipSpace r with
      | [] => .error (ahead .endInValue [])
      | c :: t =>
        if c = closeList then .error (ahead .trailingComma (c :: t)) else .ok (true, c :: t)
    else .error (ahead .expectedListCommaOrEnd (b :: r))

/-- Where the next name of an object starts, after its quote: the bytes from there, or nothing and
the bytes from the closing brace on. -/
def nextName (first : Bool) (s : List UInt8) : Except Fault (Bool × List UInt8) :=
  match skipSpace s with
  | [] => .error (ahead .endInObject [])
  | b :: r =>
    if b = closeObject then .ok (false, b :: r)
    else if first then
      if b = quoteByte then .ok (true, r) else .error (ahead .keyNotText (b :: r))
    else if b = commaByte then
      match skipSpace r with
      | [] => .error (ahead .endInValue [])
      | c :: t =>
        if c = quoteByte then .ok (true, t)
        else if c = closeObject then .error (ahead .trailingComma (c :: t))
        else .error (ahead .keyNotText (c :: t))
    else .error (ahead .expectedObjectCommaOrEnd (b :: r))

/-! ## Ends -/

/-- Closes a list whose items have been read. -/
def endList (s : List UInt8) : Except Fault (List UInt8) :=
  match skipSpace s with
  | [] => .error (ahead .endInList [])
  | b :: r =>
    if b = closeList then .ok r
    else if b = commaByte then
      match skipSpace r with
      | [] => .error (ahead .trailingCharacters [])
      | c :: t =>
        .error (ahead (if c = closeList then .trailingComma else .trailingCharacters) (c :: t))
    else .error (ahead .trailingCharacters (b :: r))

/-- Closes an object whose members have been read. -/
def endObject (s : List UInt8) : Except Fault (List UInt8) :=
  match skipSpace s with
  | [] => .error (ahead .endInObject [])
  | b :: r =>
    if b = closeObject then .ok r
    else if b = commaByte then .error (ahead .trailingComma (b :: r))
    else .error (ahead .trailingCharacters (b :: r))

/-- A fault of a whole list, met at `s`: its place is after the closing bracket, or as far on as
the list can be followed. -/
def afterList (c : Cause) (s : List UInt8) : Fault :=
  match skipSpace s with
  | [] => ⟨c, 0⟩
  | b :: r =>
    if b = closeList then here c r
    else if b = commaByte then here c (skipSpace r)
    else here c (b :: r)

/-- A fault of a whole object, met at `s`: its place is after the closing brace, or as far on as
the object can be followed. -/
def afterObject (c : Cause) (s : List UInt8) : Fault :=
  match skipSpace s with
  | [] => ⟨c, 0⟩
  | b :: r => if b = closeObject then here c r else here c (b :: r)

/-! ## Bodies -/

/-- Reads the items of a list after its bracket, and the closing bracket. -/
def readItems {α : Type} (item : List UInt8 → Reading α) :
    Nat → Bool → List UInt8 → Except Fault (List α × List UInt8)
  | 0, _, s => .error (ahead .endInList s)
  | fuel + 1, first, s => do
    match ← nextItem first s with
    | (false, s) => .ok ([], ← endList s)
    | (true, s) =>
      let (a, s) ← item s
      let (more, s) ← readItems item fuel false s
      .ok (a :: more, s)

/-- Reads the members of an object after its brace, and the closing brace. `name` reads a name after
its opening quote. -/
def readMembers {κ α : Type} (name : List UInt8 → Reading κ) (value : List UInt8 → Reading α) :
    Nat → Bool → List UInt8 → Except Fault (List (κ × α) × List UInt8)
  | 0, _, s => .error (ahead .endInObject s)
  | fuel + 1, first, s => do
    match ← nextName first s with
    | (false, s) => .ok ([], ← endObject s)
    | (true, s) =>
      let (n, s) ← name s
      let (a, s) ← value (← readColon s)
      let (more, s) ← readMembers name value fuel false s
      .ok ((n, a) :: more, s)

/-- Enters a container that opens at the front of `s`, if nesting allows it. -/
def enter {α : Type} (depth : Nat) (s : List UInt8) (body : Nat → List UInt8 → Reading α) :
    Reading α :=
  match depth with
  | 0 => .error (ahead .recursionLimit s)
  | depth + 1 => body depth (s.drop 1)

/-- A list of values of one kind, from its bracket on. -/
def listBody {α : Type} (item : Decoder α) (depth : Nat) (s : List UInt8) : Reading (List α) :=
  enter depth s fun depth s => readItems (item depth) (s.length + 1) true s

/-- An object of values of one kind, from its brace on. -/
def objectBody {κ α : Type} (name : List UInt8 → Reading κ) (value : Decoder α) (depth : Nat)
    (s : List UInt8) : Reading (List (κ × α)) :=
  enter depth s fun depth s => readMembers name (value depth) (s.length + 1) true s

end UsageFeed.Json
