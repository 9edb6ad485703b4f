import UsageFeed.Health
import UsageFeed.Metering

/-!
# `UsageFeed.Api` — questions over HTTP

## Contents
- `Answer`, what is sent back, and `Body`.
- `Metering.exposition`, the measured quantities as text.
- `answer`, which finds what a request is for and answers it.
-/

namespace UsageFeed

/-! ## Measured quantities as text -/

namespace Metering

/-- Labels between braces, with their values quoted; nothing without labels. -/
def quotedLabels : List (String × String) → String
  | [] => ""
  | labels =>
    "\x7b" ++ ",".intercalate (labels.map fun (k, v) => k ++ "=\"" ++ v ++ "\"") ++ "\x7d"

/-- One line of a series. -/
def sampleLine (name : String) (labels : List (String × String)) (value : String) : String :=
  name ++ quotedLabels labels ++ " " ++ value

/-- The lines of a series. -/
def seriesLines (observed : List Observation) (s : Series) : List String :=
  let name := s.family.name
  let all := observed.filter (·.series == s)
  let count := toString all.length
  if s.family.isHistogram then
    (bucketBounds.map fun b =>
      let bound := boundSeconds b
      sampleLine (name ++ "_bucket") (s.labels ++ [("le", Decimal.Layout.plain.write bound)])
        (toString (within observed s bound))) ++
    [sampleLine (name ++ "_bucket") (s.labels ++ [("le", "+Inf")]) count,
      sampleLine (name ++ "_sum") s.labels
        (Decimal.Layout.plain.write (all.foldl (fun sum o => sum + o.seconds) 0)),
      sampleLine (name ++ "_count") s.labels count]
  else [sampleLine name s.labels count]

/-- Every family with its series. -/
def exposition (observed : List Observation) : List String :=
  Family.all.flatMap fun f =>
    f.headLines ++ (Series.all.filter (·.family == f)).flatMap (seriesLines observed)

end Metering

/-! ## Answers -/

namespace Api

/-- What an answer carries. -/
inductive Body where
  | empty
  | document (j : Json)
  | lines (l : List String)
  deriving Repr

/-- The text of what an answer carries. -/
def Body.text : Body → String
  | empty => ""
  | document j => j.write
  | lines l => String.join (l.map (· ++ "\n"))

/-- An answer to a request. -/
structure Answer where
  status : Nat
  contentType : Option String := none
  allow : Option String := none
  body : Body := .empty
  deriving Repr

/-- The headers of an answer. -/
def Answer.headers (a : Answer) : List (String × String) :=
  (match a.contentType with
    | some t => [("content-type", t)]
    | none => []) ++
  (match a.allow with
    | some methods => [("allow", methods)]
    | none => [])

/-- What can be asked for. -/
inductive Endpoint where
  | health
  | readiness
  | metrics
  deriving DecidableEq, Repr

/-- The path of an endpoint. -/
def Endpoint.path : Endpoint → String
  | health => "/healthz"
  | readiness => "/readyz"
  | metrics => "/metrics"

/-- The endpoints. -/
def Endpoint.all : List Endpoint := [health, readiness, metrics]

/-- A character of a scheme. -/
def isSchemeChar (c : Char) : Bool := c.isAlphanum || c ∈ ['+', '-', '.']

/-- Whether a character ends a path. -/
def endsPath (c : Char) : Bool := c == '?' || c == '#'

/-- The path of a request target: all before the query and the fragment. A target may begin with a
scheme and a host, and then its path may be left out; nothing else lacks the slash in front. -/
def pathOf (target : String) : String :=
  match target.toList, target.toList.dropWhile isSchemeChar with
  | '/' :: s, _ => String.ofList ('/' :: s.takeWhile (!endsPath ·))
  | _, ':' :: '/' :: '/' :: s =>
    match (s.takeWhile (!endsPath ·)).dropWhile (· != '/') with
    | [] => "/"
    | path => String.ofList path
  | _, _ => ""

/-- A health report is good news unless a part is unhealthy. -/
def healthStatus (r : Health.Registry) : Nat := if r.status.isOperational then 200 else 503

/-- The program is ready, or it is not. -/
def readinessStatus (r : Health.Registry) : Nat := if r.readiness.ready then 200 else 503

/-- The document of a health report, every part checked at the time given. -/
def healthDocument (r : Health.Registry) (time : Int) : Json :=
  Health.CheckedReport.toJson
    ⟨r.report.status, r.report.components.map fun (n, c) => (n, ⟨c, time⟩)⟩

/-- The answer of an endpoint, at a time. -/
def Endpoint.answer (r : Health.Registry) (observed : List Metering.Observation) (time : Int) :
    Endpoint → Answer
  | health =>
    { status := healthStatus r, contentType := some "application/json",
      body := .document (healthDocument r time) }
  | readiness =>
    { status := readinessStatus r, contentType := some "application/json",
      body := .document r.readiness.toJson }
  | metrics =>
    { status := 200, contentType := some "text/plain; charset=utf-8",
      body := .lines (Metering.exposition observed) }

/-- The answer to a request. Only `GET` gets a body, and `HEAD` all the rest. -/
def answer (r : Health.Registry) (observed : List Metering.Observation) (time : Int)
    (method target : String) : Answer :=
  match Endpoint.all.find? fun e => e.path == pathOf target with
  | none => { status := 404 }
  | some e =>
    if method = "GET" then e.answer r observed time
    else if method = "HEAD" then { e.answer r observed time with body := .empty }
    else { status := 405, allow := some "GET,HEAD" }

end Api
end UsageFeed
