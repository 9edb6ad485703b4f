import UsageFeed.Http.Exchange
import UsageFeed.Log
import UsageFeed.Service

/-!
# `UsageFeed.Service.Client` — calls as requests

## Contents
- `Client` and `Client.ofText`, from the text of the service's URL.
- `Client.endpoint`, `Client.request`, where a call goes and what is sent.
- `Client.call`, what a call comes to; `Client.sending`, what is logged before.
-/

namespace UsageFeed.Service

/-- A client of the service at a URL. -/
structure Client where
  base : Url
  deriving DecidableEq, Repr

/-- The text of a URL with a slash at its end. -/
def slashed (s : String) : String := if s.endsWith "/" then s else s ++ "/"

namespace Client

/-- The client of the service at the URL of a text. -/
def ofText (s : String) : Except Failure Client :=
  match Url.read (slashed s) with
  | .ok base => .ok ⟨base⟩
  | .error e => .error (.url e)

/-- Where calls of an operation go. -/
def endpoint (k : Client) (op : Operation) : Except Failure Url :=
  match k.base.endpoint op.name with
  | .ok u => .ok u
  | .error e => .error (.url e)

/-- The request of a call to a URL: payloads are sent as the only element of a list, and questions
in the query. -/
def requestTo (u : Url) : Call → Http.Request
  | .create p => { method := .post, url := u, document := some (.list [p.toJson]) }
  | .update p => { method := .post, url := u, document := some (.list [p.toJson]) }
  | .list q => { method := .get, url := Http.withQuery u q.parameters }

/-- The request of a call. -/
def request (k : Client) (c : Call) : Except Failure Http.Request :=
  (k.endpoint c.operation).map (requestTo · c)

/-- The requests that a call sends: one at most. -/
def sent (k : Client) (c : Call) : List Http.Request :=
  match k.request c with
  | .ok r =>
    match r.cleared with
    | .ok r => [r]
    | .error _ => []
  | .error _ => []

/-- What is logged before a call is made. -/
def sending (k : Client) (op : Operation) : List Log.Record :=
  match k.endpoint op with
  | .ok u =>
    [⟨.debug, .client, "Sending request", [("operation", .text op.name), ("url", .text u.write)]⟩]
  | .error _ => []

/-- What a call comes to on a network, after the requests in `before`. -/
def call (k : Client) (net : Http.Network) (before : List Http.Request) (c : Call) :
    Except Failure Response := do
  let r ← k.request c
  match answer r with
  | .ok a => return a
  | .error e => throw (.transport c.operation.name e.message)
where
  /-- The answer to a request. -/
  answer (r : Http.Request) : Except Http.Error Response := do
    let r ← r.cleared
    let reply ← Http.settle r (net before r)
    return ⟨reply.status, ← reply.text⟩

end Client
end UsageFeed.Service
