import UsageFeed.Json.Container

/-!
# `UsageFeed.Json.Document` — reading any JSON document

## Contents
- `readScalar`, a document that is no container, and `readValue`, any document.
- `Decoder.run`, which reads a whole text with nothing but space after the value.
- `Json.read`, a whole text as a document.
-/

namespace UsageFeed.Json

/-- Reads a document that is no container. -/
def readScalar : List UInt8 → Except Fault (Json × List UInt8)
  | [] => .error (ahead .endInValue [])
  | b :: s => do
    if b = 0x6E then .ok (.null, ← readWord restOfNull s)
    else if b = 0x74 then .ok (.bool true, ← readWord restOfTrue s)
    else if b = 0x66 then .ok (.bool false, ← readWord restOfFalse s)
    else if b = 0x2D then
      let (n, s) ← readNumber true s
      .ok (.number n, s)
    else if isDigitByte b then
      let (n, s) ← readNumber false (b :: s)
      .ok (.number n, s)
    else if b = quoteByte then
      let (t, s) ← readText s
      .ok (.text t, s)
    else .error (ahead .expectedValue (b :: s))

/-- Reads a document, within a limit on nesting. -/
def readValue : Nat → List UInt8 → Except Fault (Json × List UInt8)
  | depth, s =>
    match skipSpace s with
    | [] => .error (ahead .endInValue [])
    | b :: r =>
      if b = openList then
        match depth with
        | 0 => .error (ahead .recursionLimit (b :: r))
        | depth + 1 => do
          let (items, s) ← readItems (readValue depth) (r.length + 1) true r
          .ok (.list items, s)
      else if b = openObject then
        match depth with
        | 0 => .error (ahead .recursionLimit (b :: r))
        | depth + 1 => do
          let (members, s) ← readMembers readText (readValue depth) (r.length + 1) true r
          .ok (.object (sortMembers members), s)
      else readScalar (b :: r)

/-- Reads a whole text. -/
def Decoder.run {α : Type} (d : Decoder α) (input : List UInt8) : Except Error α :=
  match d nestingLimit input with
  | .error f => .error (f.locate input)
  | .ok (a, s) =>
    match skipSpace s with
    | [] => .ok a
    | b :: r => .error ((ahead .trailingCharacters (b :: r)).locate input)

/-- Reads a whole text as a document. -/
def read (input : List UInt8) : Except Error Json := Decoder.run readValue input

end UsageFeed.Json
