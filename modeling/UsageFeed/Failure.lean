import UsageFeed.Json.Error

/-!
# `UsageFeed.Failure` — what can go wrong, and how it is said

## Contents
- `Url.Error`, the ways in which a text is no URL.
- `Failure`, the failures of the pipeline, `Failure.blamesEvent` and `Failure.message`.
-/

namespace UsageFeed

/-- Why a text is no URL. -/
inductive Url.Error where
  | relativeWithoutBase
  | emptyHost
  | invalidPort
  | invalidIpv4
  | invalidIpv6
  | invalidHost
  | invalidCharacter
  /-- A relative reference cannot lead on from a URL whose path has no segments. -/
  | relativeToFlat
  deriving DecidableEq, Repr

/-- The text of a URL error. -/
def Url.Error.message : Url.Error → String
  | .relativeWithoutBase => "relative URL without a base"
  | .emptyHost => "empty host"
  | .invalidPort => "invalid port number"
  | .invalidIpv4 => "invalid IPv4 address"
  | .invalidIpv6 => "invalid IPv6 address"
  | .invalidHost => "invalid international domain name"
  | .invalidCharacter => "invalid domain character"
  | .relativeToFlat => "relative URL with a cannot-be-a-base base"

/-- A failure of the pipeline. -/
inductive Failure where
  /-- An event lacks fields that it has to carry. -/
  | incompleteEvent (missing : List String)
  /-- A message is no event. -/
  | undecodable (error : Json.Error)
  /-- A report file cannot be read as a table. -/
  | unreadableReport (reference reason : String)
  /-- A row, counted from one, does not say where it belongs. -/
  | malformedReport (row : Nat) (column : String)
  /-- A container's row lacks a number. -/
  | missingMetric (container column : String)
  /-- A call did not reach the service, or its answer did not come back. -/
  | transport (operation reason : String)
  /-- The source of messages failed. -/
  | source (reason : String)
  | url (error : Url.Error)
  | io (reason : String)
  deriving Repr, BEq

/-- Whether a failure says that a message is no complete event. -/
def Failure.blamesEvent : Failure → Bool
  | .incompleteEvent _ | .undecodable _ => true
  | _ => false

/-- The text of a failure. -/
def Failure.message : Failure → String
  | .incompleteEvent missing => "message missing required field(s): " ++ ", ".intercalate missing
  | .undecodable e => "unable to decode event payload: " ++ e.message
  | .unreadableReport reference reason => "unable to load report " ++ reference ++ ": " ++ reason
  | .malformedReport row column =>
    "malformed report: row " ++ toString row ++ " has no value for column " ++ column
  | .missingMetric container column =>
    "container " ++ container ++ " is missing metric column " ++ column
  | .transport operation reason =>
    "recommendation service call " ++ operation ++ " failed: " ++ reason
  | .source reason => "event source error: " ++ reason
  | .url e => "invalid url: " ++ e.message
  | .io reason => "io error: " ++ reason

end UsageFeed
