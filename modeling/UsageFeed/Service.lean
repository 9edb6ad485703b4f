import UsageFeed.Payload

/-!
# `UsageFeed.Service` — calls to the recommendation service

## Contents
- `Operation`, `Call` and `Response`.
-/

namespace UsageFeed.Service

/-- The operations of the service. -/
inductive Operation where
  | createExperiment
  | updateResults
  | listRecommendations
  deriving DecidableEq, Repr

/-- The name of an operation, which is also the end of its path. -/
def Operation.name : Operation → String
  | createExperiment => "createExperiment"
  | updateResults => "updateResults"
  | listRecommendations => "listRecommendations"

/-- The operations in order. -/
def Operation.all : List Operation := [createExperiment, updateResults, listRecommendations]

/-- A call with what is sent. -/
inductive Call where
  | create (p : CreateExperiment)
  | update (p : UpdateResults)
  | list (q : ListQuery)
  deriving Repr

namespace Call

/-- The operation that is called. -/
def operation : Call → Operation
  | create _ => .createExperiment
  | update _ => .updateResults
  | list _ => .listRecommendations

/-- The experiment that a call is about. -/
def experiment : Call → String
  | create p => p.experiment
  | update p => p.experiment
  | list q => q.experiment

/-- The document of what is sent. -/
def toJson : Call → Json
  | create p => p.toJson
  | update p => p.toJson
  | list q => q.toJson

end Call

/-- An answer of the service. -/
structure Response where
  status : Nat
  body : String
  deriving DecidableEq, Repr

/-- Whether a status says that a call was accepted. -/
def isSuccess (status : Nat) : Bool := 200 ≤ status && status < 300

/-- Whether a call was accepted. -/
def Response.isSuccess (r : Response) : Bool := Service.isSuccess r.status

/-- How a call ended. -/
inductive Outcome where
  | success
  | rejected
  | transportError
  deriving DecidableEq, Repr

/-- The name of an outcome. -/
def Outcome.name : Outcome → String
  | success => "success"
  | rejected => "rejected"
  | transportError => "transport_error"

/-- The outcomes in order. -/
def Outcome.all : List Outcome := [success, rejected, transportError]

/-- How a call with this answer ended. -/
def outcome : Except Failure Response → Outcome
  | .ok r => if r.isSuccess then .success else .rejected
  | .error _ => .transportError

end UsageFeed.Service
