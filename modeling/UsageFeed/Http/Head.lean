import UsageFeed.Text.Blank

/-!
# `UsageFeed.Http.Head` — the head of a reply

## Contents
- `Head.Fault`, what keeps bytes from being a head, and its message.
- **Lines.** The status line, `readStatus`, and the headers below it, `readHeaders`.
- `Head`, `Head.read` and `Head.header?`; `Head.promised?`, the length of what follows.
-/

namespace UsageFeed.Http

/-- The head of a reply: its status, and its headers with their names in small letters. -/
structure Head where
  status : Nat
  headers : List (String × List UInt8)
  deriving DecidableEq, Repr

namespace Head

/-- What keeps bytes from being a head. -/
inductive Fault where
  /-- The bytes end too soon. -/
  | unfinished
  | version
  | status
  | header
  | length
  deriving DecidableEq, Repr

/-- The text of a fault. -/
def Fault.message : Fault → String
  | unfinished => "connection closed before message completed"
  | version => "invalid HTTP version parsed"
  | status => "invalid HTTP status-code parsed"
  | header => "invalid HTTP header parsed"
  | length => "invalid content-length parsed"

/-! ## Bytes -/

/-- The bytes of a text in ASCII. -/
def bytesOf (s : String) : List UInt8 := s.toList.map fun c => UInt8.ofNat c.toNat

/-- Whether a byte is a digit. -/
def isDigit (b : UInt8) : Bool := 0x30 ≤ b && b ≤ 0x39

/-- A byte that may stand in a name: a letter, a digit, or one of some signs. -/
def isNameByte (b : UInt8) : Bool :=
  let c := Char.ofNat b.toNat
  c.isAlphanum || c ∈ "!#$%&'*+-.^_`|~".toList

/-- A byte that may stand in a value: everything that is no control, and the tab. -/
def isValueByte (b : UInt8) : Bool := (0x20 ≤ b && b != 0x7F) || b == 9

/-- Takes a byte off the front. It has to be the one wanted. -/
def take (wanted : UInt8) (f : Fault) : List UInt8 → Except Fault (List UInt8)
  | [] => .error .unfinished
  | b :: s => if b = wanted then .ok s else .error f

/-- Takes the end of a line off the front: a line feed, with or without a carriage return. -/
def takeLineEnd (f : Fault) : List UInt8 → Except Fault (List UInt8)
  | [] => .error .unfinished
  | b :: s => if b = 10 then .ok s else if b = 13 then take 10 f s else .error f

/-! ## The status line -/

/-- The bytes after empty lines. -/
def skipEmptyLines : Nat → List UInt8 → Except Fault (List UInt8)
  | 0, s => .ok s
  | _ + 1, [] => .error .unfinished
  | fuel + 1, b :: s =>
    if b = 10 || b = 13 then do skipEmptyLines fuel (← takeLineEnd .header (b :: s))
    else .ok (b :: s)

/-- What the version begins with. -/
def versionOpening : List UInt8 := bytesOf "HTTP/1."

/-- Takes the version off the front. -/
def takeVersion (s : List UInt8) : Except Fault (List UInt8) :=
  if s.length ≤ versionOpening.length then
    .error (if s.isPrefixOf versionOpening then .unfinished else .version)
  else
    match versionOpening.isPrefixOf s, s.drop versionOpening.length with
    | true, d :: rest => if d = 0x30 || d = 0x31 then .ok rest else .error .version
    | _, _ => .error .version

/-- Reads so many digits as a number, after what has been read. -/
def readCode (n : Nat) : Nat → List UInt8 → Except Fault (Nat × List UInt8)
  | 0, s => .ok (n, s)
  | _ + 1, [] => .error .unfinished
  | digits + 1, b :: s =>
    if isDigit b then readCode (n * 10 + (b.toNat - 0x30)) digits s else .error .status

/-- Takes the rest of the status line off the front: nothing, or a space and words. -/
def takeReason : List UInt8 → Except Fault (List UInt8)
  | 0x20 :: s => takeLineEnd .status (s.dropWhile isValueByte)
  | s => takeLineEnd .status s

/-- Reads the status line: a version and a status of three digits. -/
def readStatus (s : List UInt8) : Except Fault (Nat × List UInt8) := do
  let s ← skipEmptyLines (s.length + 1) s
  let s ← take 0x20 .version (← takeVersion s)
  let (status, s) ← readCode 0 3 s
  return (status, ← takeReason s)

/-! ## Headers -/

/-- Reads the headers up to an empty line. Blanks around a value are no part of it. -/
def readHeaders : Nat → List UInt8 → Except Fault (List (String × List UInt8) × List UInt8)
  | 0, _ | _ + 1, [] => .error .unfinished
  | fuel + 1, b :: s =>
    if b = 10 || b = 13 then (takeLineEnd .header (b :: s)).map fun s => ([], s)
    else
      match (b :: s).span isNameByte with
      | ([], _) => .error .header
      | (_, []) => .error .unfinished
      | (name, c :: s) =>
        if c != 0x3A then .error .header
        else do
          let (value, s) := s.span isValueByte
          let s ← takeLineEnd .header s
          let name := name.map fun b => (Char.ofNat b.toNat).toLower
          let value := Text.trimBy (fun b => b == 0x20 || b == 9) value
          let (more, s) ← readHeaders fuel s
          return ((String.ofList name, value) :: more, s)

/-! ## Heads -/

/-- Reads a head. -/
def read (s : List UInt8) : Except Fault (Head × List UInt8) := do
  let (status, s) ← readStatus s
  let (headers, s) ← readHeaders (s.length + 1) s
  if status < 100 then throw .status
  return (⟨status, headers⟩, s)

/-- The values of the headers of a name. -/
def values (h : Head) (name : String) : List (List UInt8) :=
  (h.headers.filter (·.1 == name)).map (·.2)

/-- The text of the first header of a name, if it is one of ASCII. -/
def header? (h : Head) (name : String) : Option String :=
  (h.values name).head?.bind fun value =>
    if value.all (· < 0x7F) then some (String.ofList (value.map fun b => Char.ofNat b.toNat))
    else none

/-- A length in digits. -/
def readLength? (s : List UInt8) : Option Nat :=
  if s.isEmpty then none else (readCode 0 s.length s).toOption.map (·.1)

/-- How many bytes are to follow, if that is said. All that is said about it has to agree. -/
def promised? (h : Head) : Except Fault (Option Nat) :=
  let said := (h.values "content-length").flatMap fun value =>
    (value.splitOnP (· == 0x2C)).map (Text.trimBy (fun b => b == 0x20 || b == 9))
  match said.map readLength? with
  | [] => .ok none
  | some n :: more => if more.all (· == some n) then .ok (some n) else .error .length
  | none :: _ => .error .length

end Head
end UsageFeed.Http
