import UsageFeed.Json.Numeral

/-!
# `UsageFeed.Json.Skip` — passing over documents nobody asked for

## Contents
- `Bracket`, the containers that are open around the place of reading.
- `skipValue`, which passes over one document of any nesting. It holds the open containers in a
  list, so that no nesting is too deep for it, and checks syntax alone.
-/

namespace UsageFeed.Json

/-- An open container. -/
inductive Bracket where
  | list
  | object
  deriving DecidableEq, Repr

/-- The fault of an open container that the text ends within. -/
def Bracket.unclosed : Bracket → Cause
  | .list => .endInList
  | .object => .endInObject

/-- The fault of a byte that neither goes on with a container nor closes it. -/
def Bracket.expected : Bracket → Cause
  | .list => .expectedListCommaOrEnd
  | .object => .expectedObjectCommaOrEnd

/-- The byte that closes a container. -/
def Bracket.close : Bracket → UInt8
  | .list => closeList
  | .object => closeObject

/-- Passes over a member's name and the colon after it. -/
def skipName (s : List UInt8) : Except Fault (List UInt8) :=
  match skipSpace s with
  | [] => .error (ahead .endInObject [])
  | b :: r =>
    if b = quoteByte then do readColon (← skipText r)
    else .error (ahead .keyNotText (b :: r))

/-- Passes over a document that is no container. -/
def skipScalar : List UInt8 → Except Fault (List UInt8)
  | [] => .error (ahead .endInValue [])
  | b :: s =>
    if b = 0x6E then readWord restOfNull s
    else if b = 0x74 then readWord restOfTrue s
    else if b = 0x66 then readWord restOfFalse s
    else if b = 0x2D then skipNumber s
    else if isDigitByte b then skipNumber (b :: s)
    else if b = quoteByte then skipText s
    else .error (ahead .expectedValue (b :: s))

/-- What passing over a document goes on with. -/
inductive Stage where
  /-- A document has to start here. -/
  | value
  /-- An item of the innermost container may start here, or the container may end. -/
  | first
  /-- An item of the innermost container has just ended. -/
  | after
  deriving DecidableEq, Repr

/-- Passes over documents until the containers in `opened`, innermost first, are closed. -/
def skipFrom : Nat → Stage → List Bracket → List UInt8 → Except Fault (List UInt8)
  | 0, _, _, s => .error (ahead .endInValue s)
  | fuel + 1, .value, opened, s =>
    match skipSpace s with
    | [] => .error (ahead .endInValue [])
    | b :: r =>
      if b = openList then skipFrom fuel .first (.list :: opened) r
      else if b = openObject then skipFrom fuel .first (.object :: opened) r
      else
        match skipScalar (b :: r) with
        | .error f => .error f
        | .ok s => skipFrom fuel .after opened s
  | fuel + 1, .first, [], s => skipFrom fuel .after [] s
  | fuel + 1, .first, k :: opened, s =>
    match skipSpace s with
    | [] => .error (ahead k.unclosed [])
    | b :: r =>
      if b = k.close then skipFrom fuel .after opened r
      else
        match k with
        | .list => skipFrom fuel .value (k :: opened) (b :: r)
        | .object =>
          match skipName (b :: r) with
          | .error f => .error f
          | .ok s => skipFrom fuel .value (k :: opened) s
  | _ + 1, .after, [], s => .ok s
  | fuel + 1, .after, k :: opened, s =>
    match skipSpace s with
    | [] => .error (ahead k.unclosed [])
    | b :: r =>
      if b = k.close then skipFrom fuel .after opened r
      else if b = commaByte then
        match k with
        | .list => skipFrom fuel .value (k :: opened) r
        | .object =>
          match skipName r with
          | .error f => .error f
          | .ok s => skipFrom fuel .value (k :: opened) s
      else .error (ahead k.expected (b :: r))

/-- Passes over one document. Every second step at least takes a byte. -/
def skipValue (s : List UInt8) : Except Fault (List UInt8) :=
  skipFrom (2 * s.length + 2) .value [] s

end UsageFeed.Json
