import UsageFeed.Failure
import UsageFeed.Url.Name

/-!
# `UsageFeed.Url.Host` — names and addresses of hosts

## Contents
- `Host` and `Host.write`.
- **Addresses.** `ipv4?` in all its spellings, `ipv6?`.
- `Host.read` for the common schemes, `Host.readPlain` for all others.
-/

namespace UsageFeed.Url

/-- A host. -/
inductive Host where
  | name (s : String)
  | ipv4 (address : Nat)
  /-- An address of eight pieces. -/
  | ipv6 (pieces : List Nat)
  deriving DecidableEq, Repr

namespace Host

/-! ## Numbers -/

/-- The value of a digit in a base up to sixteen. -/
def digitIn? (base : Nat) (c : Char) : Option Nat :=
  let d? :=
    if c.isDigit then some (c.toNat - 48)
    else if 'a' ≤ c && c ≤ 'f' then some (c.toNat - 87)
    else if 'A' ≤ c && c ≤ 'F' then some (c.toNat - 55)
    else none
  d?.filter (· < base)

/-- The number that digits spell in a base. -/
def numberIn? (base : Nat) (s : List Char) : Option Nat :=
  s.foldlM (fun n c => (digitIn? base c).map (n * base + ·)) 0

/-- A number in base ten, or after a zero in base eight, or after `0x` in base sixteen. -/
def number? : List Char → Option Nat
  | [] => none
  | '0' :: 'x' :: s | '0' :: 'X' :: s => numberIn? 16 s
  | '0' :: c :: s => numberIn? 8 (c :: s)
  | s => numberIn? 10 s

/-! ## Addresses of four bytes -/

/-- Whether the last part of a name, a point after it left out, is a number. Such a name is an
address or nothing. -/
def endsInNumber (s : List Char) : Bool :=
  let parts := (s.splitOnP (· == '.')).reverse
  let last := match parts with
    | [] :: last :: _ => last
    | last :: _ => last
    | [] => []
  (!last.isEmpty && last.all Char.isDigit) || (number? last).isSome

/-- An address of up to four numbers, the last of which fills all bytes that are left. -/
def ipv4? (s : List Char) : Option Nat := do
  let parts := s.splitOnP (· == '.')
  let parts := if parts.getLast? = some [] then parts.dropLast else parts
  let numbers ← parts.mapM number?
  let last ← numbers.getLast?
  let bytes := numbers.dropLast
  if 3 < bytes.length || bytes.any (255 < ·) || Nat.pow 256 (4 - bytes.length) ≤ last then none
  else return bytes.foldl (fun n b => n * 256 + b) 0 * Nat.pow 256 (4 - bytes.length) + last

/-! ## Addresses of sixteen bytes -/

/-- A byte in base ten without zeros in front. -/
def byte? (s : List Char) : Option Nat :=
  match s with
  | ['0'] => some 0
  | '0' :: _ | [] => none
  | _ => (numberIn? 10 s).filter (· ≤ 255)

/-- Two pieces written as four bytes. -/
def tailPieces? (s : List Char) : Option (List Nat) := do
  match s.splitOnP (· == '.') with
  | [a, b, c, d] =>
    let a ← byte? a
    let b ← byte? b
    let c ← byte? c
    let d ← byte? d
    return [a * 256 + b, c * 256 + d]
  | _ => none

/-- Pieces with colons between them, the last two of which may be written as four bytes. -/
def pieces? : List (List Char) → Option (List Nat)
  | [] => some []
  | [last] =>
    if last.contains '.' then tailPieces? last
    else if last.isEmpty || 4 < last.length then none
    else (numberIn? 16 last).map ([·])
  | piece :: more =>
    if piece.isEmpty || 4 < piece.length then none
    else do
      let n ← numberIn? 16 piece
      return n :: (← pieces? more)

/-- The pieces of a part of an address; an empty part has none. -/
def partPieces? (s : List Char) : Option (List Nat) :=
  if s.isEmpty then some [] else pieces? (s.splitOnP (· == ':'))

/-- Cuts a text at its first double colon. -/
def cutAtGap : List Char → List Char × Option (List Char)
  | [] => ([], none)
  | ':' :: ':' :: s => ([], some s)
  | c :: s => let (before, after) := cutAtGap s; (c :: before, after)

/-- An address of eight pieces; a double colon stands for one or more that are zero. -/
def ipv6? (s : List Char) : Option (List Nat) :=
  match cutAtGap s with
  | (all, none) => (partPieces? all).filter (·.length = 8)
  | (before, some after) =>
    if before.contains '.' then none
    else do
      let front ← partPieces? before
      let back ← partPieces? after
      if front.length + back.length < 8 then
        return front ++ List.replicate (8 - front.length - back.length) 0 ++ back
      else none

/-! ## Reading -/

/-- Reads an address in brackets whose opening one is gone. -/
def readBracketed (s : List Char) : Except Error Host :=
  if s.getLast? = some ']' then
    match ipv6? s.dropLast with
    | some pieces => .ok (.ipv6 pieces)
    | none => .error .invalidIpv6
  else .error .invalidIpv6

/-- Reads a host of a common scheme: an address in brackets, an address of numbers, or a name. -/
def read : List Char → Except Error Host
  | '[' :: s => readBracketed s
  | s =>
    match Name.ofText? s with
    | none => .error .invalidHost
    | some [] => .error .emptyHost
    | some found =>
      if endsInNumber found then
        match ipv4? found with
        | some address => .ok (.ipv4 address)
        | none => .error .invalidIpv4
      else .ok (.name (String.ofList found))

/-- Reads a host of any other scheme. -/
def readPlain : List Char → Except Error Host
  | '[' :: s => readBracketed s
  | s =>
    if s.any Name.isForbidden then .error .invalidCharacter
    else .ok (.name (String.ofList (Percent.encode Percent.isControl s)))

/-! ## Writing -/

/-- Four bytes with points between them. -/
def writeIpv4 (address : Nat) : List Char :=
  let byte := fun i => (toString (address / Nat.pow 256 i % 256)).toList
  ['.'].intercalate [byte 3, byte 2, byte 1, byte 0]

/-- The length of the run of zeros at the front. -/
def zeros (pieces : List Nat) : Nat := (pieces.takeWhile (· == 0)).length

/-- The longest run of zeros from a place on, the first of several: where it begins, and how long it
is. -/
def longestRun (place : Nat) : List Nat → Nat × Nat
  | [] => (place, 0)
  | p :: more =>
    let here := zeros (p :: more)
    let later := longestRun (place + 1) more
    if later.2 ≤ here then (place, here) else later

/-- Pieces with colons between them. -/
def writePieces (pieces : List Nat) : List Char :=
  [':'].intercalate (pieces.map (Nat.toDigits 16))

/-- Eight pieces, the longest run of two or more zeros among them as a double colon. -/
def writeIpv6 (pieces : List Nat) : List Char :=
  let (place, length) := longestRun 0 pieces
  if 2 ≤ length then
    writePieces (pieces.take place) ++ "::".toList ++ writePieces (pieces.drop (place + length))
  else writePieces pieces

/-- The text of a host. -/
def write : Host → List Char
  | name s => s.toList
  | ipv4 address => writeIpv4 address
  | ipv6 pieces => '[' :: writeIpv6 pieces ++ [']']

end Host
end UsageFeed.Url
