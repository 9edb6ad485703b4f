import UsageFeed.Log

/-!
# `UsageFeed.Log.Line` — log records as documents

## Contents
- `line`, the document of a record with the event it belongs to.
- `timedLine`, the same with the time.
-/

namespace UsageFeed.Log

/-- The document of an event that records belong to. -/
def spanJson (c : Context) : Json :=
  .object ((spanFields c).mergeSort (fun a b => a.1 ≤ b.1) ++ [("name", .text spanName)])

/-- The members of a record's document. -/
def lineMembers (event : Option Context) (r : Record) : List (String × Json) :=
  [("level", .text r.level.name), ("fields", r.fieldsJson), ("target", .text r.component.target)] ++
    match event with
    | some c => [("span", spanJson c), ("spans", .list [spanJson c])]
    | none => []

/-- The document of a record. -/
def line (event : Option Context) (r : Record) : Json := .object (lineMembers event r)

/-- The document of a record with the time at which it was made. -/
def timedLine (time : String) (event : Option Context) (r : Record) : Json :=
  .object (("timestamp", .text time) :: lineMembers event r)

end UsageFeed.Log
