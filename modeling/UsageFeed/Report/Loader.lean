import UsageFeed.Files
import UsageFeed.Http.Exchange
import UsageFeed.Log
import UsageFeed.Report.Table

/-!
# `UsageFeed.Report.Loader` — tables behind references

## Contents
- `isRemote`, which references name something on the web.
- `fetch`, the bytes behind a reference, and `load`, the table.
- `sent`, the requests that this takes; `loaded`, what is logged.
-/

namespace UsageFeed.Report

/-- Whether a reference names something on the web; all others are paths of files. -/
def isRemote (reference : String) : Bool :=
  reference.startsWith "http://" || reference.startsWith "https://"

/-- The request for what a reference names. -/
def remoteRequest (reference : String) : Except Http.Error Http.Request :=
  match Url.read reference with
  | .ok u => ({ method := .get, url := u } : Http.Request).cleared
  | .error e => .error (.notUrl e)

/-- The requests that loading sends: one at most. -/
def sent (reference : String) : List Http.Request :=
  if isRemote reference then
    match remoteRequest reference with
    | .ok r => [r]
    | .error _ => []
  else []

/-- The bytes that a reference names on the web, after the requests in `before`. -/
def fetchRemote (net : Http.Network) (before : List Http.Request) (reference : String) :
    Except Http.Error (List UInt8) := do
  let r ← remoteRequest reference
  let reply ← Http.settle r (net before r)
  (← reply.accepted r.url).content

/-- The bytes behind a reference, or why there are none. -/
def fetch (files : Files) (net : Http.Network) (before : List Http.Request) (reference : String) :
    Except String (List UInt8) :=
  if isRemote reference then (fetchRemote net before reference).mapError Http.Error.message
  else (files reference).mapError Files.Error.message

/-- The table behind a reference. -/
def load (files : Files) (net : Http.Network) (before : List Http.Request) (reference : String) :
    Except Failure Table :=
  match fetch files net before reference with
  | .ok bytes => Table.ofCsv reference bytes
  | .error reason => .error (.unreadableReport reference reason)

/-- What is logged about what has been loaded. -/
def loaded (reference : String) : Except Failure Table → List Log.Record
  | .ok table =>
    [⟨.debug, .reports, "Loaded report table",
      [("reference", .text reference), ("rows", .nat table.rows.length)]⟩]
  | .error _ => []

end UsageFeed.Report
