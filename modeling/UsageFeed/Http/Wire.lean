import UsageFeed.Http.Exchange

/-!
# `UsageFeed.Http.Wire` — messages as bytes

## Contents
- **Messages.** `Message`, the lines of a head and what follows it; `Message.read?`.
- **The side that asks.** `Request.wire` and `Exchange.ofWire`.
- **The side that answers.** `readQuestion?` and `writeAnswer`.
-/

namespace UsageFeed.Http

/-! ## Messages -/

/-- A message: its first line, its headers with their names in small letters, and what follows. -/
structure Message where
  first : String
  headers : List (String × String)
  rest : List UInt8
  deriving Repr

/-- The end of a line. -/
def lineEnd : String := "\r\n"

/-- The lines of a head up to the first empty one, and what follows it. Bytes of the line read so
far are in `line`, last one first. -/
def cutHead (line : List UInt8) : List UInt8 → Option (List (List UInt8) × List UInt8)
  | [] => none
  | b :: s =>
    if b = 10 then
      let line := line.dropWhile (· == 13)
      if line.isEmpty then some ([], s)
      else (cutHead [] s).map fun (lines, rest) => (line.reverse :: lines, rest)
    else cutHead (b :: line) s

/-- A header line cut at its colon. -/
def readHeader (line : String) : String × String :=
  let (name, value) := line.toList.span (· != ':')
  (String.ofList (name.map Char.toLower), String.ofList (Text.trimBy (· == ' ') value.tail))

/-- Reads a message whose head is complete. -/
def Message.read? (bytes : List UInt8) : Option Message := do
  let (lines, rest) ← cutHead [] bytes
  match lines.map Text.Utf8.repair with
  | [] => none
  | first :: headers => return ⟨first, headers.map readHeader, rest⟩

/-! ## The side that asks -/

/-- The digits of base sixty-four. -/
def base64Digits : List Char :=
  "ABCDEFGHIJKLMNOPQRSTUVWXYZabcdefghijklmnopqrstuvwxyz0123456789+/".toList

/-- The lowest digits of a number in base sixty-four. -/
def base64Of (digits n : Nat) : List Char :=
  (List.range digits).reverse.map fun i => base64Digits.getD (n / Nat.pow 64 i % 64) '='

/-- Bytes in base sixty-four, three of them in four digits. -/
def base64 : List UInt8 → List Char
  | [] => []
  | [a] => base64Of 2 (a.toNat * 16) ++ ['=', '=']
  | [a, b] => base64Of 3 ((a.toNat * 256 + b.toNat) * 4) ++ ['=']
  | a :: b :: c :: s => base64Of 4 ((a.toNat * 256 + b.toNat) * 256 + c.toNat) ++ base64 s

/-- Who asks, as a header shows it. -/
def credentials (user : List Char × List Char) : String :=
  "Basic " ++ String.ofList
    (base64 (Text.Utf8.encode (String.ofList (user.1 ++ ':' :: user.2))))

/-- A message with a body as bytes. -/
def writeMessage (first : String) (headers : List (String × String)) (body : String) :
    List UInt8 :=
  let lines := first :: headers.map fun (name, value) => name ++ ": " ++ value
  Text.Utf8.encode (String.join (lines.map (· ++ lineEnd)) ++ lineEnd ++ body)

/-- A request as bytes. -/
def Request.wire (r : Request) : List UInt8 :=
  let host := (r.url.authority.map fun a => String.ofList a.writeHost).getD ""
  writeMessage (r.method.name ++ " " ++ r.url.target ++ " HTTP/1.1")
    ([("host", host), ("accept", "*/*"), ("connection", "close")] ++
      (match r.user with
        | some user => [("authorization", credentials user)]
        | none => []) ++
      (match r.contentType with
        | some t => [("content-type", t), ("content-length", toString r.body.utf8ByteSize)]
        | none => []))
    r.body

/-- Reads chunks, each after a line with its length: the bytes, and whether the last one has
come. -/
def readChunks : Nat → List UInt8 → List UInt8 × Bool
  | 0, _ => ([], false)
  | fuel + 1, s =>
    let line := s.takeWhile (· != 10)
    let digits := (line.map fun b => Char.ofNat b.toNat).takeWhile fun c =>
      (Url.Host.digitIn? 16 c).isSome
    match Url.Host.numberIn? 16 digits, s.drop (line.length + 1) with
    | some n, rest =>
      if digits.isEmpty then ([], false)
      else if n = 0 then ([], true)
      else if rest.length < n then (rest, false)
      else
        let (more, complete) := readChunks fuel (rest.drop (n + 2))
        (rest.take n ++ more, complete)
    | none, _ => ([], false)

/-- What follows a head, and whether the whole of it has come. -/
def readBody (h : Head) (s : List UInt8) : Except Head.Fault (List UInt8 × Bool) :=
  if h.header? "transfer-encoding" = some "chunked" then .ok (readChunks s.length s)
  else h.promised?.map fun length =>
    match length with
    | some n => (s.take n, n ≤ s.length)
    | none => (s, true)

/-- Reads a reply. Those that only say that another one is to come are passed over. -/
def readReply : Nat → List UInt8 → Except Head.Fault Reply
  | 0, _ => .error .unfinished
  | fuel + 1, s => do
    let (h, s) ← Head.read s
    if isInterim h.status then readReply fuel s
    else
      let (body, complete) ← readBody h s
      return { status := h.status, contentType := h.header? "content-type", body := body,
               complete := complete }

/-- What all bytes that have come back say. -/
def Exchange.ofWire (bytes : List UInt8) : Exchange :=
  match readReply (bytes.length + 1) bytes with
  | .ok r => .reply r
  | .error f => .unreadable f

/-! ## The side that answers -/

/-- The method and the target of a request. -/
def readQuestion? (bytes : List UInt8) : Option (String × String) := do
  let m ← Message.read? bytes
  match (m.first.toList.splitOnP (· == ' ')).map String.ofList with
  | [method, target, _] => some (method, target)
  | _ => none

/-- An answer as bytes. -/
def writeAnswer (status : Nat) (headers : List (String × String)) (body : String) : List UInt8 :=
  writeMessage ("HTTP/1.1 " ++ toString status ++ " " ++ (reason? status).getD "")
    (headers ++ [("content-length", toString body.utf8ByteSize), ("connection", "close")]) body

end UsageFeed.Http
