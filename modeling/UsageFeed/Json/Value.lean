/-!
# `UsageFeed.Json.Value` — JSON documents

## Contents
- `Number` and `Json`, the documents; an object keeps the order of its members.
- Access to members, and the order in which free-form objects are kept (`sortMembers`).
-/

namespace UsageFeed

/-- A JSON number: whole, or binary floating point. -/
inductive Json.Number where
  | whole (n : Int)
  | float (x : Float)
  deriving Repr, BEq, Inhabited

/-- A JSON document. -/
inductive Json where
  | null
  | bool (b : Bool)
  | number (n : Json.Number)
  | text (s : String)
  | list (items : List Json)
  | object (members : List (String × Json))
  deriving Repr, BEq, Inhabited

namespace Json

/-- A whole number as a document. -/
def nat (n : Nat) : Json := .number (.whole n)

/-- A whole number as a document. -/
def int (n : Int) : Json := .number (.whole n)

/-- A float as a document. -/
def float (x : Float) : Json := .number (.float x)

/-- The list of texts as a document. -/
def texts (ss : List String) : Json := .list (ss.map .text)

/-- What `f` makes of a value, or null without one. -/
def ofOption {α : Type} (f : α → Json) : Option α → Json
  | none => .null
  | some a => f a

/-- Puts a member into its place among members sorted by name; one of the same name gives way. -/
def insertMember (name : String) (j : Json) : List (String × Json) → List (String × Json)
  | [] => [(name, j)]
  | (n, k) :: rest =>
    if name < n then (name, j) :: (n, k) :: rest
    else if name = n then (name, j) :: rest
    else (n, k) :: insertMember name j rest

/-- The members sorted by name, of several with one name the last. -/
def sortMembers (members : List (String × Json)) : List (String × Json) :=
  members.foldl (fun sorted m => insertMember m.1 m.2 sorted) []

/-- The member of a name. -/
def member? (name : String) : Json → Option Json
  | .object members => members.lookup name
  | _ => none

end Json
end UsageFeed
