import UsageFeed.Http.Content
import UsageFeed.Http.Head
import UsageFeed.Http.Status
import UsageFeed.Json.Text
import UsageFeed.Url.Reader

/-!
# `UsageFeed.Http.Exchange` — requests and what comes back

## Contents
- `Request`, `Reply` and `Exchange`, what becomes of a request on the network.
- `Error`, why there is no reply, and its message.
- `Request.cleared`, which requests are sent at all; `settle`, what an exchange comes to.
- `Network`, who answers.
-/

namespace UsageFeed.Http

/-! ## Requests -/

/-- What a request asks to be done. -/
inductive Method where
  | get
  | post
  deriving DecidableEq, Repr

/-- The name of a method. -/
def Method.name : Method → String
  | get => "GET"
  | post => "POST"

/-- A request. -/
structure Request where
  method : Method
  url : Url
  /-- The document that is sent along. -/
  document : Option Json := none
  /-- Who asks, and a password. -/
  user : Option (List Char × List Char) := none
  deriving Repr

/-- The text that is sent along. -/
def Request.body (r : Request) : String := (r.document.map Json.write).getD ""

/-- What the text that is sent along is. -/
def Request.contentType (r : Request) : Option String := r.document.map fun _ => "application/json"

/-- A reply. -/
structure Reply where
  status : Nat
  contentType : Option String := none
  body : List UInt8 := []
  /-- Whether the whole body has come. -/
  complete : Bool := true
  deriving DecidableEq, Repr

/-- What becomes of a request on the network. -/
inductive Exchange where
  /-- Nobody is there. -/
  | refused
  /-- Somebody is there, and what comes back has no head. -/
  | unreadable (f : Head.Fault)
  | reply (r : Reply)
  deriving DecidableEq, Repr

/-! ## Errors -/

/-- Why there is no reply, or none that can be used. -/
inductive Error where
  | notUrl (e : Url.Error)
  | badScheme (u : Url)
  /-- The URL cannot be put into a request. -/
  | unsendable (u : Url)
  | refused (u : Url)
  | unreadable (u : Url) (f : Head.Fault)
  | status (u : Url) (code : Nat)
  | cutShort
  deriving DecidableEq, Repr

/-- The text of an error. -/
def Error.message : Error → String
  | notUrl e => "builder error: " ++ e.message
  | badScheme u => "builder error" ++ forUrl u ++ ": URL scheme is not allowed"
  | unsendable u => "builder error" ++ forUrl u ++ ": Parsed Url is not a valid Uri"
  | refused u =>
    "error sending request" ++ forUrl u ++
      ": error trying to connect: tcp connect error: Connection refused (os error 111)"
  | unreadable u f => "error sending request" ++ forUrl u ++ ": " ++ f.message
  | status u code =>
    "HTTP status " ++ (if isClientFault code then "client" else "server") ++ " error (" ++
      statusText code ++ ")" ++ forUrl u
  | cutShort =>
    "request or response body error: error reading a body from connection: " ++
      "end of file before message length reached"
where
  /-- What the error is about. -/
  forUrl (u : Url) : String := " for url (" ++ u.write ++ ")"

/-! ## Sending -/

/-- The request with who asks beside its URL, as far as that is text. A password that is none is
left out, and where nobody is left the URL stays as it is. -/
def Request.withUser (r : Request) : Request :=
  match r.url.authority with
  | none => r
  | some a =>
    match Url.Percent.decodeText? a.user with
    | none => r
    | some name =>
      let password := a.password.bind Url.Percent.decodeText?
      if name.isEmpty && password.isNone then r
      else { r with url := r.url.withoutUser, user := some (name, password.getD []) }

/-- The URL with names and values as its query. -/
def withQuery (u : Url) (pairs : List (String × String)) : Url :=
  if pairs.isEmpty || !u.hasHost then u
  else { u with query := some (Url.Percent.form pairs).toList }

/-- The greatest number of bytes in the URL of a request. -/
def maxUrlSize : Nat := Nat.pow 2 16 - 2

/-- Whether a URL can be put into a request: it is not too long, and its host has no quotes, no
backquotes and no braces. -/
def isSendable (u : Url) : Bool :=
  u.write.utf8ByteSize ≤ maxUrlSize &&
    u.authority.all fun a => a.writeHost.all fun c => !(c ∈ ['"', '`', '\x7b', '\x7d'])

/-- The request as it is sent; only those over the web are. -/
def Request.cleared (r : Request) : Except Error Request :=
  let r := r.withUser
  if !r.url.scheme.isWeb || !r.url.hasHost then .error (.badScheme r.url)
  else if isSendable r.url then .ok r
  else .error (.unsendable r.url)

/-- What an exchange about a request comes to. -/
def settle (r : Request) : Exchange → Except Error Reply
  | .refused => .error (.refused r.url)
  | .unreadable f => .error (.unreadable r.url f)
  | .reply reply => .ok reply

/-- The reply unless its status is a fault. -/
def Reply.accepted (reply : Reply) (u : Url) : Except Error Reply :=
  if isClientFault reply.status || isServerFault reply.status then
    .error (.status u reply.status)
  else .ok reply

/-- What a reply brings, if the whole of it has come. -/
def Reply.content (reply : Reply) : Except Error (List UInt8) :=
  if !hasBody reply.status then .ok []
  else if reply.complete then .ok reply.body
  else .error .cutShort

/-- The text that a reply brings. -/
def Reply.text (reply : Reply) : Except Error String :=
  reply.content.map (Content.charset reply.contentType).decode

/-- Who answers requests. The answer may depend on the requests sent before. -/
abbrev Network := List Request → Request → Exchange

end UsageFeed.Http
