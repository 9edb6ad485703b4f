import UsageFeed.Decimal.Literal
import UsageFeed.Log
import UsageFeed.Text.Pattern.Reader

/-!
# `UsageFeed.Log.Directive` — how much is shown of what

## Contents
- `readLimit?`, up to which rank records are shown.
- `Condition`, a field that is asked for, and maybe its value.
- `Directive`, and `Directive.read`.
- What directives are about: `Directive.isAbout`, `Directive.isAboutSpan`, `Directive.limitIn?`.
-/

namespace UsageFeed.Log

/-! ## Limits -/

/-- A rank by its name, in any case. -/
def namedRank? (s : List Char) : Option Nat :=
  match String.ofList (s.map Char.toLower) with
  | "" | "error" => some 1
  | "off" => some 0
  | "warn" => some 2
  | "info" => some 3
  | "debug" => some 4
  | "trace" => some 5
  | _ => none

/-- How much is shown: records up to a rank, none for zero. The rank is a number, maybe with a plus
sign, or a name. -/
def readLimit? (s : List Char) : Option Nat :=
  let figures := match s with
    | '+' :: s => s
    | s => s
  if !figures.isEmpty && figures.all Char.isDigit then
    let n := Decimal.natOfDigits (Decimal.takeDigits figures).1
    if n ≤ 5 then some n else none
  else namedRank? s

/-! ## Errors -/

/-- Why a text is no directive. -/
inductive Directive.Error where
  | malformed
  | badLimit
  | badPattern (fault : Text.Pattern.Fault)
  deriving DecidableEq, Repr

/-- What is wrong with a pattern. -/
def faultMessage : Text.Pattern.Fault → String
  | .malformed => "error building NFA"
  | .wordEdge =>
    "unsupported regex feature for DFAs: cannot build DFAs for regexes with Unicode word " ++
      "boundaries; switch to ASCII word boundaries, or heuristically enable Unicode word " ++
      "boundaries or use a different regex engine"

/-- The text of an error. -/
def Directive.Error.message : Directive.Error → String
  | malformed => "invalid filter directive"
  | badLimit =>
    "error parsing level filter: expected one of \"off\", \"error\", \"warn\", \"info\", " ++
      "\"debug\", \"trace\", or a number 0-5"
  | badPattern fault => "invalid field filter: " ++ faultMessage fault

/-! ## Conditions -/

/-- What the value of a field has to be. -/
inductive Wanted where
  /-- A truth value or a number, which no text is. -/
  | noText (source : String)
  /-- A text that a pattern reaches the end of. -/
  | text (source : String) (pattern : Text.Pattern)
  deriving DecidableEq, Repr

/-- A field that is asked for, and maybe its value. -/
structure Condition where
  field : String
  wanted : Option Wanted := none
  deriving DecidableEq, Repr

namespace Condition

/-- Reads what a value has to be. -/
def readWanted (s : List Char) : Except Directive.Error Wanted :=
  let source := String.ofList s
  if source == "true" || source == "false" || (Decimal.readFloat? s).isSome then
    .ok (.noText source)
  else
    match Text.Pattern.read source with
    | .ok p => .ok (.text source p)
    | .error fault => .error (.badPattern fault)

/-- Reads a condition: the name of a field, and maybe after an equals sign its value. What follows
another equals sign counts for nothing. -/
def read (s : List Char) : Except Directive.Error Condition :=
  match s with
  | [] => .error .malformed
  | s =>
    match s.splitOnP (· == '=') with
    | name :: value :: _ =>
      (readWanted value).map fun wanted => ⟨String.ofList name, some wanted⟩
    | _ => .ok ⟨String.ofList s, none⟩

/-- Whether the values of fields, all of them texts, are as asked. -/
def holdsIn (c : Condition) (fields : List (String × String)) : Bool :=
  match c.wanted with
  | none => true
  | some (.noText _) => false
  | some (.text _ p) => (fields.lookup c.field).any p.reachesEnd

end Condition

/-! ## Directives -/

/-- How much is shown of what. -/
structure Directive where
  limit : Nat := 5
  /-- The beginning of the name of a component. -/
  target : Option String := none
  /-- The name of a span. -/
  span : Option String := none
  conditions : List Condition := []
  deriving DecidableEq, Repr

namespace Directive

/-! ## Reading -/

/-- A character that a directive may begin with. -/
def isStart (c : Char) : Bool := Text.isWordChar c || c ∈ ['-', ':', '_']

/-- The characters after so many bytes, unless one of them reaches further. -/
def dropBytes? : Nat → List Char → Option (List Char)
  | 0, s => some s
  | _ + 1, [] => none
  | n + 1, c :: s =>
    if c.utf8Size ≤ n + 1 then dropBytes? (n + 1 - c.utf8Size) s else none

/-- How many bytes characters take. -/
def size (s : List Char) : Nat := s.foldl (fun n c => n + c.utf8Size) 0

/-- The part of a text from one byte to before another. -/
def slice? (text : List Char) (first last : Nat) : Option (List Char) := do
  let s ← dropBytes? first text
  let rest ← dropBytes? last text
  return s.take (s.length - rest.length)

/-- A part of the text, or the error that there is none. -/
def cut (text : List Char) (first last : Nat) : Except Error (List Char) :=
  match slice? text first last with
  | some s => .ok s
  | none => .error .malformed

/-- Reads the limit after an equals sign; without one everything is shown. -/
def withLimit (d : Directive) (text : List Char) (place : Nat) : Except Error Directive := do
  let s ← cut text place (size text)
  if s.isEmpty then return d
  match readLimit? s with
  | some n => return { d with limit := n }
  | none => .error .badLimit

/-- Reads what follows a span: nothing, or a limit. -/
def afterSpan (d : Directive) (text : List Char) (place : Nat) :
    List Char → Except Error Directive
  | [] => .ok d
  | '=' :: _ => d.withLimit text (place + 1)
  | _ => .error .malformed

/-- Reads a span, whose opening bracket is gone: a name, and a condition in braces or none. -/
def readSpan (d : Directive) (text : List Char) (place : Nat) (s : List Char) :
    Except Error Directive := do
  let (name, rest) := s.span fun c => c != ']' && c != '\x7b'
  let nameEnd := place + size name
  match rest with
  | ']' :: rest =>
    let span ← cut text place nameEnd
    { d with span := some (String.ofList span) }.afterSpan text (nameEnd + 1) rest
  | _ :: rest =>
    let span ← cut text place nameEnd
    let (condition, rest) := rest.span (· != '\x7d')
    match rest with
    | [] => .error .malformed
    | _ :: rest =>
      let conditionEnd := nameEnd + 1 + size condition
      let c ← Condition.read (← cut text (nameEnd + 1) conditionEnd)
      let d := { d with
        span := if span.isEmpty then none else some (String.ofList span), conditions := [c] }
      match rest with
      | ']' :: rest => d.afterSpan text (conditionEnd + 2) rest
      | _ => .error .malformed
  | [] => .error .malformed

/-- Reads a directive: a limit, or the beginning of a name, a span in brackets or both, with a limit
after an equals sign. Blanks around it do not count for where its parts are, and yet the parts are
cut out of the whole text: blanks before it push characters from each part into the next. -/
def read (source : String) : Except Error Directive := do
  let text := source.toList
  match Text.trimBy Text.isBlank text with
  | [] => .error .malformed
  | '[' :: s => readSpan {} text 1 s
  | c :: s =>
    if !isStart c then .error .malformed
    else
      let (word, rest) := (c :: s).span fun c => c != '=' && c != '['
      match rest with
      | [] =>
        match readLimit? text with
        | some n => return { limit := n }
        | none => return { target := some source }
      | sign :: rest =>
        let d : Directive := { target := some (String.ofList (← cut text 0 (size word))) }
        if sign == '=' then d.withLimit text (size word + 1)
        else readSpan d text (size word + 1) rest

/-! ## What directives are about -/

/-- Whether the value of a field is asked for. -/
def asksValue (d : Directive) : Bool := d.conditions.any fun c => c.wanted.isSome

/-- Whether a directive is about the records in a span. -/
def isOnSpans (d : Directive) : Bool := d.span.isSome || !d.conditions.isEmpty

/-- Whether a directive holds for records in any span or none. -/
def isGeneral (d : Directive) : Bool := d.span.isNone && !d.asksValue

/-- The names of the fields that are asked for. -/
def fields (d : Directive) : List String := d.conditions.map (·.field)

/-- Whether a directive is about a component. -/
def isAboutTarget (d : Directive) (c : Component) : Bool :=
  d.target.all fun t => c.target.startsWith t

/-- Whether a directive is about records of a component with certain fields. -/
def isAbout (d : Directive) (c : Component) (fields : List String) : Bool :=
  d.isAboutTarget c && d.fields.all fields.contains

/-- Whether a directive is about a span with a name and certain fields that a component opens. -/
def isAboutSpan (d : Directive) (c : Component) (name : String) (fields : List String) : Bool :=
  d.isAbout c fields && d.span.all (· == name)

/-- The limit within a span that a directive is about, if the values of its fields are as asked. -/
def limitIn? (d : Directive) (fields : List (String × String)) : Option Nat :=
  if d.conditions.all (·.holdsIn fields) then some d.limit else none

end Directive
end UsageFeed.Log
