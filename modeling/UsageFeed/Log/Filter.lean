import UsageFeed.Log.Directive

/-!
# `UsageFeed.Log.Filter` — which records are shown

## Contents
- `Filter`, several directives; `Filter.ofList` puts them in order, and `Filter.ofTexts` reads one
  of two texts.
- **Spans.** `Filter.showsSpan` and `Filter.spanLimit`.
- **Records.** `Filter.shows` and `Filter.apply`.
-/

namespace UsageFeed.Log

/-! ## Order -/

/-- Which of two directives says more: the one with the longer name of a component, or else with
more fields. The rest of the order only makes it total. -/
def Directive.compare (a b : Directive) : Ordering :=
  let byLength := Ord.compare (a.target.map String.utf8ByteSize) (b.target.map String.utf8ByteSize)
  let byFields := Ord.compare a.fields.length b.fields.length
  byLength.then byFields |>.then (Ord.compare a.target b.target) |>.then
    (Ord.compare a.fields b.fields)

/-- Puts a directive among others that say less and less. It takes the place of one that is about
the same. -/
def Directive.insert (d : Directive) : List Directive → List Directive
  | [] => [d]
  | e :: l =>
    match d.compare e with
    | .lt => e :: insert d l
    | .eq => d :: l
    | .gt => d :: e :: l

/-- Puts a directive after others, or in the place of one that is about the same. -/
def Directive.replaceIn (d : Directive) (l : List Directive) : List Directive :=
  (l.filter fun e => { e with limit := d.limit } != d) ++ [d]

/-! ## Filters -/

/-- Which records are shown. -/
structure Filter where
  /-- What holds in any span or none; directives that say more come first. -/
  general : List Directive
  /-- What holds within spans. -/
  onSpans : List Directive
  /-- The greatest rank that may be shown at all. -/
  most : Nat
  deriving DecidableEq, Repr

namespace Filter

/-- The component that opens the span of an event. -/
def spanOwner : Component := .pipeline

/-- The parts of a text of several directives. -/
def parts (s : String) : List String :=
  ((s.toList.splitOnP (· == ',')).filter (!·.isEmpty)).map String.ofList

/-- A filter of directives, or of another where there are none. Where a directive asks for the value
of a field, anything may be shown. -/
def ofList (l : List Directive) (otherwise : Directive) : Filter :=
  let l := if l.isEmpty then [otherwise] else l
  let (onSpans, others) := l.partition Directive.isOnSpans
  { general := (others ++ onSpans.filter Directive.isGeneral).foldl (fun l d => d.insert l) []
    onSpans := onSpans.foldl (fun l d => d.replaceIn l) []
    most := if l.any Directive.asksValue then 5 else (l.map (·.limit)).foldl max 0 }

/-- Reads a text in which everything has to be a directive. -/
def read? (s : String) : Option Filter :=
  match (parts s).mapM Directive.read with
  | .ok l => some (ofList l { limit := 0 })
  | .error _ => none

/-- The directives in a text, and what is said about the parts that are none. -/
def readSome (s : String) : Filter × List String :=
  let read := (parts s).map fun p => (p, Directive.read p)
  (ofList (read.filterMap fun r => r.2.toOption) { limit := 1 },
    read.filterMap fun (p, r) =>
      match r with
      | .ok _ => none
      | .error e => some ("ignoring `" ++ p ++ "`: " ++ e.message))

/-- The filter of a text that is preferred, if there is one without fault, and of another text
otherwise; with what is said about its faults. -/
def ofTexts (preferred : Option String) (other : String) : Filter × List String :=
  match preferred.bind read? with
  | some f => (f, [])
  | none => readSome other

/-! ## Spans -/

/-- The names of the fields of a span. -/
def spanFieldNames : List String := ["request_id", "org_id", "account"]

/-- The directives about the span of an event. -/
def ofSpan (f : Filter) : List Directive :=
  f.onSpans.filter fun d => d.isAboutSpan spanOwner spanName spanFieldNames

/-- Whether general directives show the span of an event. Fields that they ask for are those of
records. -/
def allowsSpan (f : Filter) : Bool :=
  (f.general.find? fun d => d.isAboutTarget spanOwner).any fun d => Level.info.rank ≤ d.limit

/-- Whether the span of an event is shown. -/
def showsSpan (f : Filter) : Bool :=
  Level.info.rank ≤ f.most && (!f.ofSpan.isEmpty || f.allowsSpan)

/-- Up to which rank records are shown for being in the span of an event. -/
def spanLimit (f : Filter) (c : Context) : Nat :=
  if f.showsSpan then
    (f.ofSpan.filterMap fun d => d.limitIn? (spanTexts c)).foldl max 0
  else 0

/-! ## Records -/

/-- The names of a record's fields. -/
def fieldNames (r : Record) : List String := "message" :: r.fields.map (·.1)

/-- Whether a record is shown in any span or none. -/
def allows (f : Filter) (r : Record) : Bool :=
  (f.general.find? fun d => d.isAbout r.component (fieldNames r)).any fun d =>
    r.level.rank ≤ d.limit

/-- Whether a record is shown, within the span of an event or not. -/
def shows (f : Filter) (event : Option Context) (r : Record) : Bool :=
  f.allows r || event.any fun c => r.level.rank ≤ f.spanLimit c

/-- The records that are shown, each with the event it is shown to belong to. -/
def apply (f : Filter) (records : List (Option Context × Record)) :
    List (Option Context × Record) :=
  (records.filter fun (event, r) => f.shows event r).map fun (event, r) =>
    (if f.showsSpan then event else none, r)

end Filter
end UsageFeed.Log
