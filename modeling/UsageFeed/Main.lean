import Std.Async.DNS
import Std.Async.TCP
import Std.Time
import UsageFeed.Api
import UsageFeed.Http.Wire
import UsageFeed.Log.Line
import UsageFeed.Program

/-!
# `UsageFeed.Main` — the program at work

## Contents
- **Surroundings.** The time, files, the environment and requests over the network.
- **Work.** `perform` carries out an episode as `Episode.run` does, with the surroundings as they
  are, and shows what happens while it does.
- **Questions.** `serveApi` answers questions about health and counters.
- `main`.
-/

namespace UsageFeed.Outside

open Std.Async Std.Net

/-! ## Surroundings -/

/-- The time. -/
def now : IO Calendar.Instant := do
  let nanos := (← Std.Time.Timestamp.now).toNanosecondsSinceUnixEpoch.val
  return ⟨nanos / Calendar.nanosInSecond, (nanos % Calendar.nanosInSecond).toNat⟩

/-- Why the system could not read a file. -/
def fileError : IO.Error → Files.Error
  | .noFileOrDirectory _ _ _ => .missing
  | .inappropriateType _ 20 _ => .notDirectory
  | .inappropriateType _ 21 _ => .isDirectory
  | e => .other (toString e)

/-- The contents of a file. -/
def readFile (path : String) : IO (Except Files.Error (List UInt8)) := do
  if path.toList.contains '\x00' then return .error .nulInName
  try
    return .ok (← IO.FS.readBinFile path).toList
  catch e => return .error (fileError e)

/-- The variables of the environment. -/
def environment : IO Config.Environment := do
  match ← readFile "/proc/self/environ" with
  | .error _ => return []
  | .ok bytes =>
    return (bytes.splitOnP (· == 0)).filterMap fun entry =>
      let (name, value) := (Text.Utf8.repair entry).toList.span (· != '=')
      if value.isEmpty then none else some (String.ofList name, String.ofList value.tail)

/-- All bytes that come until the other side has said everything. -/
partial def receiveAll (client : TCP.Socket.Client) (bytes : List UInt8) : Async (List UInt8) := do
  match ← client.recv? 65536 with
  | some more => receiveAll client (bytes ++ more.toList)
  | none => return bytes

/-- The addresses of a host. -/
def addressesOf (host : Url.Host) : IO (List IPAddr) := do
  match host with
  | .name s => return (← (DNS.getAddrInfo s "").block).toList
  | .ipv4 n =>
    let byte := fun i => UInt8.ofNat (n / Nat.pow 256 i)
    return [.v4 (.ofParts (byte 3) (byte 2) (byte 1) (byte 0))]
  | .ipv6 pieces =>
    let piece := fun i => UInt16.ofNat (pieces.getD i 0)
    return [.v6 (.ofParts (piece 0) (piece 1) (piece 2) (piece 3) (piece 4) (piece 5) (piece 6)
      (piece 7))]

/-- An address with a port. -/
def withPort (port : Nat) : IPAddr → SocketAddress
  | .v4 a => .v4 ⟨a, UInt16.ofNat port⟩
  | .v6 a => .v6 ⟨a, UInt16.ofNat port⟩

/-- A connection to the first address that takes one. -/
def dial : List SocketAddress → IO (Option TCP.Socket.Client)
  | [] => return none
  | a :: more => do
    try
      let client ← TCP.Socket.Client.mk
      (client.connect a).block
      return some client
    catch _ => dial more

/-- The addresses that a request goes to. Encrypted connections cannot be had. -/
def socketsOf (u : Url) : IO (List SocketAddress) := do
  let some authority := u.authority | return []
  let some host := authority.host | return []
  let some port := authority.port.or u.scheme.defaultPort? | return []
  if u.scheme.name != "http" then return []
  try
    return (← addressesOf host).map (withPort port)
  catch _ => return []

/-- Sends a request over a connection and waits for what comes back. -/
def converse (client : TCP.Socket.Client) (r : Http.Request) : IO Http.Exchange := do
  try
    (client.send ⟨r.wire.toArray⟩).block
    return .ofWire (← (receiveAll client []).block)
  catch _ => return .unreadable .unfinished

/-- Sends a request and waits for what comes back. -/
def exchange (r : Http.Request) : IO Http.Exchange := do
  match ← dial (← socketsOf r.url) with
  | some client => converse client r
  | none => return .refused

/-- What comes of the first of some requests; without one nobody is asked. -/
def exchangeFirst : List Http.Request → IO Http.Exchange
  | [] => return .refused
  | r :: _ => exchange r

/-! ## Work -/

/-- What is kept while the program works. -/
structure Desk where
  client : Service.Client
  filter : Log.Filter
  /-- The event that is being processed. -/
  event : IO.Ref (Option Context)
  health : IO.Ref Health.Registry
  observed : IO.Ref (List Metering.Observation)
  /-- When the message received last came. -/
  received : IO.Ref Nat

/-- Prints a record if it is to be shown. -/
def showRecord (filter : Log.Filter) (event : Option Context) (r : Log.Record) : IO Unit := do
  let time := (← now).marked
  for (e, r) in filter.apply [(event, r)] do
    IO.println (Log.timedLine time e r).write

/-- The seconds since a moment. -/
def secondsSince (start : Nat) : IO Float := do
  return Decimal.nearest false ((← IO.monoNanosNow) - start) Calendar.nanosInSecond

/-- Takes in what has happened, which took some seconds. -/
def Desk.note (d : Desk) (o : Occurrence) (seconds : Float) : IO Unit := do
  let seconds ← match o with
    | .handled => secondsSince (← d.received.get)
    | _ => pure seconds
  if let .received _ := o then d.received.set (← IO.monoNanosNow)
  d.event.modify fun event => o.eventAfter event
  d.health.modify fun registry => o.follow registry
  d.observed.modify (· ++ o.observed.map fun s => ⟨s, seconds⟩)
  for r in o.logRecords Program.serviceName do
    showRecord d.filter (← d.event.get) r
  -- after a failure the source is left alone for a while
  if let .pollFailed _ := o then IO.sleep 1000

/-- Carries out an episode. -/
def perform {α : Type} (d : Desk) : Episode α → IO α
  | .done a => return a
  | .load reference next => do
    let file ← if Report.isRemote reference then pure (.error .missing) else readFile reference
    let came ← exchangeFirst (Report.sent reference)
    let world := World.connected d.client ⟨fun _ => file, fun _ _ => came, ⟨0, 0⟩⟩
    let (records, result) := world.load [] reference
    for r in records do d.note (.noted r) 0
    d.note (.loaded reference result) 0
    perform d (next result)
  | .call c next => do
    for r in d.client.sending c.operation do d.note (.noted r) 0
    let start ← IO.monoNanosNow
    let came ← exchangeFirst (d.client.sent c)
    let answer := d.client.call (fun _ _ => came) [] c
    d.note (.called c answer) (← secondsSince start)
    perform d (next answer)
  | .clock next => do perform d (next (← now))
  | .note o next => do
    d.note o 0
    perform d next

/-! ## Questions -/

/-- What is answered to a request. -/
def answerTo (d : Desk) (method target : String) : IO ByteArray := do
  let answer :=
    Api.answer (← d.health.get) (← d.observed.get) (← now).seconds method target
  return ⟨(Http.writeAnswer answer.status answer.headers answer.body.text).toArray⟩

/-- Answers what one connection asks. -/
def answerOne (d : Desk) (client : TCP.Socket.Client) : Async Unit := do
  let some bytes ← client.recv? 65536 | return
  let some (method, target) := Http.readQuestion? bytes.toList | return
  client.send (← answerTo d method target)

/-- Answers connections one after another. -/
partial def serveFrom (d : Desk) (server : TCP.Socket.Server) : Async Unit := do
  let client ← server.accept
  try answerOne d client catch _ => pure ()
  serveFrom d server

/-- Answers questions at a port, while the program works. -/
def serveApi (d : Desk) (port : Nat) : IO Unit := do
  showRecord d.filter none
    ⟨.info, .api, "Starting API server", [("addr", .text ("0.0.0.0:" ++ toString port))]⟩
  try
    let server ← TCP.Socket.Server.mk
    server.bind (.v4 ⟨.ofParts 0 0 0 0, UInt16.ofNat port⟩)
    server.listen 128
    let _ ← Async.toIO (serveFrom d server)
  catch _ => return

/-! ## The program -/

/-- Prints an ending and gives its code. -/
def finish (e : Program.Ending) : IO UInt32 := do
  for line in e.output do IO.println line
  IO.eprint e.errors
  return UInt32.ofNat e.exit

/-- All parts of the program, before anything is known about them. -/
def allParts : Health.Registry :=
  Health.Part.all.foldl (fun registry p => registry.register p.name) .new

/-- Does the work that has been prepared. -/
def work (l : Program.Launch) (r : Program.Ready) : IO UInt32 := do
  let desk : Desk :=
    ⟨r.client, l.filter, ← IO.mkRef none, ← IO.mkRef allParts, ← IO.mkRef [], ← IO.mkRef 0⟩
  serveApi desk l.config.apiPort
  let _ ← perform desk r.episode
  return 0

/-- The standard input, read to its end. -/
partial def readInput (input : IO.FS.Stream) (bytes : List UInt8) : IO (List UInt8) := do
  let more ← input.read 65536
  if more.isEmpty then return bytes else readInput input (bytes ++ more.toList)

/-- The files and the input that a launch asks for. -/
def gather (l : Program.Launch) : IO (Files × List UInt8) := do
  match l.command with
  | .consume => return (fun _ => .error .missing, [])
  | .replay "-" => return (fun _ => .error .missing, ← readInput (← IO.getStdin) [])
  | .replay path =>
    let file ← readFile path
    return (fun _ => file, [])

end UsageFeed.Outside

open UsageFeed UsageFeed.Outside

/-- Runs the program. -/
def main (arguments : List String) : IO UInt32 := do
  match Program.Launch.read arguments (← environment) with
  | .error ending => finish ending
  | .ok l =>
    for complaint in l.complaints do IO.eprintln complaint
    showRecord l.filter none (Program.configured l.config)
    let (files, input) ← gather l
    match l.prepare files input with
    | .error ending => finish ending
    | .ok r => work l r
