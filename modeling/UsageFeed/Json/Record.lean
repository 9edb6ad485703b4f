import UsageFeed.Json.Document
import UsageFeed.Json.Skip

/-!
# `UsageFeed.Json.Record` — reading values of known kinds

## Contents
- `foundAt`, which names what stands where another kind of value was wanted.
- **Plain values.** Texts, booleans, numbers, optional values, lists, maps and named variants.
- **Records.** `Shape` describes a record by its fields; `Shape.decode` reads it, given as an object
  in any order and with any further members, or as a list in the order of the fields.
-/

namespace UsageFeed.Json

/-! ## Wrong kinds -/

/-- Names what starts at `s`, reading it as far as a message shows it. -/
def foundAt : List UInt8 → Except Fault (Found × List UInt8)
  | [] => .error (ahead .expectedValue [])
  | b :: s => do
    if b = openList then .ok (.list, b :: s)
    else if b = openObject then .ok (.object, b :: s)
    else
      match ← readScalar (b :: s) with
      | (.null, s) => .ok (.null, s)
      | (.bool v, s) => .ok (.bool v, s)
      | (.number (.whole n), s) => .ok (.integer n, s)
      | (.number (.float x), s) => .ok (.float x, s)
      | (.text t, s) => .ok (.text t, s)
      | (.list _, s) => .ok (.list, s)
      | (.object _, s) => .ok (.object, s)

/-- The fault of a value of the wrong kind at `s`. -/
def wrongKind {α : Type} (expected : String) (s : List UInt8) : Reading α :=
  match foundAt s with
  | .ok (found, rest) => .error (here (.invalidType found expected) rest)
  | .error f => .error f

/-- Reads a value that is picked by its first byte, after any space. -/
def atFront {α : Type} (d : Decoder α) : Decoder α := fun depth s =>
  match skipSpace s with
  | [] => .error (ahead .endInValue [])
  | b :: r => d depth (b :: r)

/-! ## Plain values -/

/-- A text. -/
def Decoder.text : Decoder String := atFront fun _ s =>
  match s with
  | [] => .error (ahead .endInValue [])
  | b :: r => if b = quoteByte then readText r else wrongKind "a string" (b :: r)

/-- A truth value. -/
def Decoder.bool : Decoder Bool := atFront fun _ s =>
  match s with
  | [] => .error (ahead .endInValue [])
  | b :: r =>
    if b = 0x74 then (readWord restOfTrue r).map fun s => (true, s)
    else if b = 0x66 then (readWord restOfFalse r).map fun s => (false, s)
    else wrongKind "a boolean" (b :: r)

/-- A number, converted by `convert`; what that gives up on is blamed on the number itself. -/
def Decoder.number {α : Type} (expected : String) (convert : Number → Except Cause α) : Decoder α :=
  atFront fun _ s =>
    let convertAt : Reading Number → Reading α := fun n =>
      match n with
      | .error f => .error f
      | .ok (n, s) =>
        match convert n with
        | .ok a => .ok (a, s)
        | .error c => .error (here c s)
    match s with
    | [] => .error (ahead .endInValue [])
    | b :: r =>
      if b = 0x2D then convertAt (readNumber true r)
      else if isDigitByte b then convertAt (readNumber false (b :: r))
      else wrongKind expected (b :: r)

/-- A whole number as a float. -/
def floatOfInt (n : Int) : Float := signed (decide (n < 0)) (Decimal.ofNat n.natAbs)

/-- A binary floating-point number. -/
def Decoder.float : Decoder Float := Decoder.number "f64" fun n =>
  match n with
  | .whole n => .ok (floatOfInt n)
  | .float x => .ok x

/-- A whole number from `low` to `high`. -/
def Decoder.whole (expected : String) (low high : Int) : Decoder Int :=
  Decoder.number expected fun n =>
    match n with
    | .whole n =>
      if low ≤ n && n ≤ high then .ok n else .error (.invalidValue (.integer n) expected)
    | .float x => .error (.invalidType (.float x) expected)

/-- A whole number of 32 bits without sign. -/
def Decoder.count : Decoder Nat := fun depth s =>
  (Decoder.whole "u32" 0 (Nat.pow 2 32 - 1) depth s).map fun (n, s) => (n.toNat, s)

/-- A whole number of 64 bits with sign. -/
def Decoder.long : Decoder Int := Decoder.whole "i64" (-Nat.pow 2 63) (Nat.pow 2 63 - 1)

/-- A value or null. -/
def Decoder.option {α : Type} (d : Decoder α) : Decoder (Option α) := fun depth s =>
  match skipSpace s with
  | [] => (d depth []).map fun (a, s) => (some a, s)
  | b :: r =>
    if b = 0x6E then (readWord restOfNull r).map fun s => (none, s)
    else (d depth (b :: r)).map fun (a, s) => (some a, s)

/-- A list of values of one kind. -/
def Decoder.list {α : Type} (d : Decoder α) : Decoder (List α) := atFront fun depth s =>
  match s with
  | [] => .error (ahead .endInValue [])
  | b :: r => if b = openList then listBody d depth (b :: r) else wrongKind "a sequence" (b :: r)

/-- An object of values of one kind under names read by `name`. -/
def Decoder.map {κ α : Type} (name : List UInt8 → Reading κ) (d : Decoder α) :
    Decoder (List (κ × α)) :=
  atFront fun depth s =>
    match s with
    | [] => .error (ahead .endInValue [])
    | b :: r =>
      if b = openObject then objectBody name d depth (b :: r) else wrongKind "a map" (b :: r)

/-- Reads the name of a variant after its opening quote. -/
def readVariant {α : Type} (known : List (String × α)) (s : List UInt8) :
    Except Fault (α × List UInt8) := do
  let (name, s) ← readText s
  match known.lookup name with
  | some a => .ok (a, s)
  | none => .error (here (.unknownVariant name (known.map (·.1))) s)

/-- Reads the name of a variant, which has to be a text, where a member of an object begins. -/
def readVariantName {α : Type} (known : List (String × α)) (s : List UInt8) : Reading α :=
  match skipSpace s with
  | [] => .error (ahead .endInValue [])
  | b :: r => if b = quoteByte then readVariant known r else .error (ahead .keyNotText (b :: r))

/-- Passes over null. -/
def readNull (s : List UInt8) : Except Fault (List UInt8) :=
  match skipSpace s with
  | [] => .error (ahead .endInValue [])
  | b :: r =>
    if b = 0x6E then readWord restOfNull r
    else (wrongKind "unit" (b :: r)).map fun (x : Unit × List UInt8) => x.2

/-- Reads a variant given as an object of its name and null, after the brace. -/
def readVariantObject {α : Type} (known : List (String × α)) (s : List UInt8) :
    Except Fault (α × List UInt8) := do
  let (a, s) ← readVariantName known s
  let s ← readNull (← readColon s)
  match skipSpace s with
  | [] => .error (here .endInObject [])
  | b :: r => if b = closeObject then .ok (a, r) else .error (here .expectedValue (b :: r))

/-- One of several named variants: its name, or an object of its name and null. -/
def Decoder.variant {α : Type} (known : List (String × α)) : Decoder α := atFront fun depth s =>
  match s with
  | [] => .error (ahead .endInValue [])
  | b :: r =>
    if b = quoteByte then readVariant known r
    else if b = openObject then enter depth (b :: r) fun _ s => readVariantObject known s
    else .error (ahead .expectedValue (b :: r))

/-! ## Records -/

/-- One field of a record. -/
structure Field (α : Type) where
  name : String
  /-- Whether an object without it is refused. -/
  required : Bool
  /-- Whether a list may end before it. -/
  mayEnd : Bool
  /-- Reads its value into a record. -/
  read : Nat → α → List UInt8 → Reading α

/-- The field of a name whose value, read by `d`, is put in place by `set`. -/
def Field.of {α β : Type} (name : String) (d : Decoder β) (set : α → β → α) : Field α where
  name := name
  required := true
  mayEnd := false
  read depth a s := (d depth s).map fun (b, s) => (set a b, s)

/-- The field, left at its starting value in an object that lacks it. -/
def Field.optional {α : Type} (f : Field α) : Field α := { f with required := false }

/-- The field, left at its starting value wherever it is lacking. -/
def Field.defaulted {α : Type} (f : Field α) : Field α :=
  { f with required := false, mayEnd := true }

/-- A record: what it is called, how it starts out, and its fields in order. -/
structure Shape (α : Type) where
  name : String
  start : α
  fields : List (Field α)

/-- What a record of this shape is called in messages. -/
def Shape.title {α : Type} (sh : Shape α) : String := "struct " ++ sh.name

/-- What a list of its fields is called in messages. -/
def Shape.listTitle {α : Type} (sh : Shape α) : String :=
  let n := sh.fields.length
  sh.title ++ " with " ++ toString n ++ (if n = 1 then " element" else " elements")

/-- The first required field that is not among the names seen. -/
def Shape.missing? {α : Type} (sh : Shape α) (seen : List String) : Option String :=
  (sh.fields.find? fun f => f.required && !seen.contains f.name).map (·.name)

/-- Reads the members of a record after its brace into `a`, with those named in `seen` read
before, and the closing brace. -/
def Shape.readMembers {α : Type} (sh : Shape α) (depth : Nat) :
    Nat → Bool → List String → α → List UInt8 → Except Fault (α × List UInt8)
  | 0, _, _, _, s => .error (ahead .endInObject s)
  | fuel + 1, first, seen, a, s => do
    match ← nextName first s with
    | (false, s) =>
      match sh.missing? seen with
      | some name => .error (afterObject (.missingField name) s)
      | none => .ok (a, ← endObject s)
    | (true, s) =>
      let (name, s) ← readText s
      match sh.fields.find? (·.name == name) with
      | none =>
        let s ← skipValue (← readColon s)
        sh.readMembers depth fuel false seen a s
      | some f =>
        if seen.contains name then .error (afterObject (.duplicateField name) s)
        else
          let (a, s) ← f.read depth a (← readColon s)
          sh.readMembers depth fuel false (name :: seen) a s

/-- Reads the fields of a record, given as a list, into `a`. `done` of them have been read. -/
def Shape.readFields {α : Type} (sh : Shape α) (depth : Nat) :
    Nat → List (Field α) → α → List UInt8 → Except Fault (α × List UInt8)
  | _, [], a, s => .ok (a, s)
  | done, f :: more, a, s => do
    match ← nextItem (done == 0) s with
    | (true, s) =>
      let (a, s) ← f.read depth a s
      sh.readFields depth (done + 1) more a s
    | (false, s) =>
      if f.mayEnd then sh.readFields depth (done + 1) more a s
      else .error (afterList (.invalidLength done sh.listTitle) s)

/-- Reads a record given as a list, after the bracket. -/
def Shape.readList {α : Type} (sh : Shape α) (depth : Nat) (s : List UInt8) :
    Except Fault (α × List UInt8) := do
  let (a, s) ← sh.readFields depth 0 sh.fields sh.start s
  .ok (a, ← endList s)

/-- Reads a record. -/
def Shape.decode {α : Type} (sh : Shape α) : Decoder α := atFront fun depth s =>
  match s with
  | [] => .error (ahead .endInValue [])
  | b :: r =>
    if b = openList then enter depth (b :: r) sh.readList
    else if b = openObject then
      enter depth (b :: r) fun depth s => sh.readMembers depth (s.length + 1) true [] sh.start s
    else wrongKind sh.title (b :: r)

end UsageFeed.Json
