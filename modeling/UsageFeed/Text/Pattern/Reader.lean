import UsageFeed.Text.Blank
import UsageFeed.Text.Letter
import UsageFeed.Text.Pattern

/-!
# `UsageFeed.Text.Pattern.Reader` — reading patterns

## Contents
- `Style`, the options that a pattern sets as it goes; `readOptions?`.
- **Escapes.** `readEscape?`, what a backslash and the characters after it stand for.
- **Sets.** `readSet?`, a set in brackets.
- **Patterns.** `readParts?`, and `Pattern.read` for a whole text.

Letters, figures and blanks of all scripts have no names here, and are not told from their other
case: a pattern that asks for them has to ask for ASCII. A number of times in braces cannot be asked
for.
-/

namespace UsageFeed.Text.Pattern

/-! ## Options -/

/-- The options that a pattern sets as it goes. -/
structure Style where
  /-- Letters stand for themselves in either case. -/
  caseless : Bool := false
  /-- Lines begin and end as texts do. -/
  lines : Bool := false
  /-- A point stands for the end of a line too. -/
  dotAll : Bool := false
  /-- What repeats as often as it can and what repeats as seldom are exchanged. -/
  swapped : Bool := false
  /-- Classes of characters are those of all scripts. -/
  wide : Bool := true
  /-- Carriage returns end lines too. -/
  returns : Bool := false
  /-- Blanks and comments in the pattern count for nothing. -/
  spaced : Bool := false
  deriving DecidableEq, Repr

/-- Sets the option with a letter. -/
def Style.set? (style : Style) (on : Bool) : Char → Option Style
  | 'i' => some { style with caseless := on }
  | 'm' => some { style with lines := on }
  | 's' => some { style with dotAll := on }
  | 'U' => some { style with swapped := on }
  | 'u' => some { style with wide := on }
  | 'R' => some { style with returns := on }
  | 'x' => some { style with spaced := on }
  | _ => none

/-- Reads options: letters, each at most once, and a hyphen before those that are turned off. With
them comes the character that they end with. -/
def readOptions? (style : Style) (on : Bool) (seen : List Char) :
    List Char → Option (Style × Char × List Char)
  | [] => none
  | c :: s =>
    if c == ':' || c == ')' then
      if seen.head? == some '-' then none else some (style, c, s)
    else if seen.contains c then none
    else if c == '-' then readOptions? style false ('-' :: seen) s
    else do
      let style ← style.set? on c
      readOptions? style on (c :: seen) s

/-- Drops blanks and comments where they count for nothing. -/
def skip (style : Style) (s : List Char) : List Char :=
  if style.spaced then go false s else s
where
  /-- Drops blanks and comments, within a comment or not. -/
  go (inComment : Bool) : List Char → List Char
    | [] => []
    | c :: s =>
      if inComment then go (c != '\n') s
      else if isBlank c then go false s
      else if c == '#' then go true s
      else c :: s

/-! ## Escapes -/

/-- What an escape stands for. -/
inductive Escape where
  /-- A character, or with `byte` one that was asked for as a byte. -/
  | char (n : Nat) (byte : Bool)
  | set (s : CharSet)
  /-- A place; `word` if it depends on what words are made of. -/
  | place (p : Place) (word : Bool)
  deriving Repr

/-- Reads so many digits of base sixteen. -/
def readHex? (style : Style) : Nat → Nat → List Char → Option (Nat × List Char)
  | 0, n, s => some (n, s)
  | count + 1, n, s =>
    match skip style s with
    | [] => none
    | c :: s =>
      let d? :=
        if c.isDigit then some (c.toNat - 48)
        else if 'a' ≤ c && c ≤ 'f' then some (c.toNat - 87)
        else if 'A' ≤ c && c ≤ 'F' then some (c.toNat - 55)
        else none
      d?.bind fun d => readHex? style count (n * 16 + d) s

/-- Reads the number of a character in so many digits. -/
def readNumber? (style : Style) (count : Nat) (s : List Char) : Option (Escape × List Char) := do
  let (n, s) ← readHex? style count 0 s
  if n.isValidChar then return (.char n (count == 2 && 0x80 ≤ n), s) else none

/-- A set that a letter names. -/
def namedSet? (style : Style) (s : CharSet) (rest : List Char) : Option (Escape × List Char) :=
  if style.wide then none else some (.set s, rest)

/-- Reads what follows a backslash. -/
def readEscape? (style : Style) : List Char → Option (Escape × List Char)
  | [] => none
  | c :: s =>
    match c with
    | 'x' => readNumber? style 2 s
    | 'u' => readNumber? style 4 s
    | 'U' => readNumber? style 8 s
    | 'd' => namedSet? style .digit s
    | 's' => namedSet? style .space s
    | 'w' => namedSet? style .word s
    | 'a' => some (.char 7 false, s)
    | 't' => some (.char 9 false, s)
    | 'n' => some (.char 10 false, s)
    | 'v' => some (.char 11 false, s)
    | 'f' => some (.char 12 false, s)
    | 'r' => some (.char 13 false, s)
    | 'A' => some (.place .textStart false, s)
    | 'z' => some (.place .textEnd false, s)
    | 'b' => some (.place .wordEdge true, s)
    | 'B' => some (.place .noWordEdge true, s)
    | '<' => some (.place .wordStart true, s)
    | '>' => some (.place .wordEnd true, s)
    | _ => if c.toNat < 0x80 && !c.isAlphanum then some (.char c.toNat false, s) else none

/-! ## Sets -/

/-- A set in which letters stand for either case if so asked; there is none for all scripts. -/
def CharSet.inStyle? (style : Style) (s : CharSet) : Option CharSet :=
  if !style.caseless then some s
  else if style.wide then none
  else some (.eitherCase s)

/-- A set, or with `negated` the set of all other characters. Without wide classes it has to be one
of ASCII. -/
def finishSet? (style : Style) (negated : Bool) (s : CharSet) : Option CharSet := do
  let s ← s.inStyle? style
  let s := if negated then .compl s else s
  if style.wide then return s
  else if s.isAscii then return .inter s .ascii
  else none

/-- How sets in brackets are put together. -/
inductive SetOp where
  | inter
  | without
  | either
  deriving Repr

/-- The outcome of an operation. -/
def SetOp.apply : SetOp → CharSet → CharSet → CharSet
  | inter => .inter
  | without => .without
  | either => .either

/-- A set that has been read, and how deep it is. -/
structure DeepSet where
  set : CharSet
  depth : Nat

/-- The union of sets. -/
def joinSets (items : List DeepSet) : DeepSet :=
  match items with
  | [] => ⟨.empty, 0⟩
  | [item] => item
  | items => ⟨.ofList (items.map (·.set)), 1 + (items.map (·.depth)).foldl max 0⟩

/-- A set after what was read before an operation. -/
def combine? (style : Style) (before : Option (SetOp × DeepSet)) (s : DeepSet) :
    Option DeepSet :=
  match before with
  | none => some s
  | some (op, a) => do
    let set := op.apply (← a.set.inStyle? style) (← s.set.inStyle? style)
    return ⟨set, 1 + max a.depth s.depth⟩

/-- Reads the name of a set of ASCII, with a colon at either end and its opening bracket gone: the
set, and whether its complement is asked for. -/
def readSetName? : List Char → Option (CharSet × Bool × List Char)
  | ':' :: s =>
    let (negated, s) := match s with
      | '^' :: s => (true, s)
      | s => (false, s)
    match s.span (· != ':') with
    | (name, ':' :: ']' :: s) =>
      (CharSet.ofName? (String.ofList name)).map fun set => (set, negated, s)
    | _ => none
  | _ => none

/-- Reads a character, or what an escape stands for. -/
def readItem? (style : Style) : List Char → Option (Escape × List Char)
  | '\\' :: s => readEscape? style s
  | c :: s => some (.char c.toNat false, s)
  | [] => none

/-- The number of a character that may stand in a set. Without wide classes it is one of ASCII or
was asked for as a byte. -/
def Escape.member? (style : Style) : Escape → Option Nat
  | .char n byte => if style.wide || n < 0x80 || byte then some n else none
  | _ => none

/-- The set of an escape. -/
def Escape.set? (style : Style) : Escape → Option CharSet
  | .set s => some s
  | item => (item.member? style).map .one

/-- The next character that counts. -/
def peek (style : Style) (s : List Char) : Option Char :=
  if style.spaced then
    match s.dropWhile isBlank with
    | '#' :: s => (s.dropWhile isBlank).head?
    | s => s.head?
  else s.head?

/-- Reads a range, a character or a set with a name. A hyphen before a closing bracket or another
hyphen makes no range. -/
def readRange? (style : Style) (s : List Char) : Option (CharSet × List Char) := do
  let (first, s) ← readItem? style s
  match skip style s with
  | [] => none
  | '-' :: more =>
    if peek style more == some ']' || peek style more == some '-' then
      return (← first.set? style, '-' :: more)
    else
      let (last, s) ← readItem? style (skip style more)
      let a ← first.member? style
      let b ← last.member? style
      if a ≤ b then return (.range a b, s) else none
  | s => return (← first.set? style, s)

/-- An operation between sets in brackets. -/
def SetOp.ofSigns? : Char → Option Char → Option SetOp
  | '&', some '&' => some .inter
  | '-', some '-' => some .without
  | '~', some '~' => some .either
  | _, _ => none

/-- How far the reading of a set has come. -/
structure SetState where
  negated : Bool
  before : Option (SetOp × DeepSet) := none
  items : List DeepSet := []

/-- Begins a set whose opening bracket is gone. -/
def beginSet (style : Style) (s : List Char) : SetState × List Char :=
  match skip style s with
  | '^' :: s => ({ negated := true }, s)
  | s => ({ negated := false }, s)

/-- Reads a set up to its closing bracket. Hyphens at its beginning, and a bracket there, are
members. -/
def readSet? (style : Style) (fresh : Bool) (state : SetState) :
    Nat → List Char → Option (DeepSet × List Char)
  | 0, _ => none
  | fuel + 1, s =>
    match skip style s with
    | [] => none
    | c :: s =>
      if fresh && (c == '-' || (c == ']' && state.items.isEmpty)) then
        let item := ⟨.one c.toNat, 0⟩
        readSet? style (c == '-') { state with items := state.items ++ [item] } fuel s
      else if c == ']' then do
        let whole ← combine? style state.before (joinSets state.items)
        return (⟨← finishSet? style state.negated whole.set, whole.depth + 1⟩, s)
      else if c == '[' then do
        let (item, s) ←
          match readSetName? s with
          | some (set, negated, s) => do pure (⟨← finishSet? style negated set, 0⟩, s)
          | none =>
            let (inner, s) := beginSet style s
            readSet? style true inner fuel s
        readSet? style false { state with items := state.items ++ [item] } fuel s
      else
        match SetOp.ofSigns? c s.head? with
        | some op => do
          let whole ← combine? style state.before (joinSets state.items)
          readSet? style false { state with before := some (op, whole), items := [] } fuel
            (s.drop 1)
        | none => do
          let (set, s) ← readRange? style (c :: s)
          readSet? style false { state with items := state.items ++ [⟨set, 0⟩] } fuel s

/-! ## Patterns -/

/-- A part of a pattern, how deep it is, and whether it can be repeated. -/
structure Part where
  pattern : Pattern
  depth : Nat := 0
  repeatable : Bool := true

/-- What has been seen of a pattern: the names of groups, and whether it asks for the edges of words
of all scripts. -/
structure Seen where
  names : List (List Char) := []
  words : Bool := false

/-- Parts one after another, the last one first. -/
def joinParts : List Part → Part
  | [] => { pattern := .empty }
  | [p] => p
  | last :: before =>
    { pattern := before.foldl (fun rest p => p.pattern.andThen rest) last.pattern
      depth := 1 + ((last :: before).map (·.depth)).foldl max 0 }

/-- Parts to choose from, the last one first. -/
def joinBranches : List Part → Part
  | [] => { pattern := .empty }
  | [p] => p
  | last :: others =>
    { pattern := others.foldl (fun rest p => .alt p.pattern rest) last.pattern
      depth := 1 + ((last :: others).map (·.depth)).foldl max 0 }

/-- How a part is repeated. -/
def repeated? (greedy : Bool) (p : Pattern) : Char → Option Pattern
  | '?' => some (.optional greedy p)
  | '*' => some (.star greedy p)
  | '+' => some (.plus greedy p)
  | _ => none

/-- The pattern of one character. -/
def literal? (style : Style) (n : Nat) (byte : Bool) : Option Pattern :=
  if byte && !style.wide then none
  else ((CharSet.one n).inStyle? style).map .char

/-- The pattern of a sign. -/
def sign? (style : Style) : Char → Option Pattern
  | '.' =>
    if !style.wide then none
    else if style.dotAll then some (.char .all)
    else if style.returns then some (.char (.compl (.union (.one 10) (.one 13))))
    else some (.char (.compl (.one 10)))
  | '^' => some (.place (if style.lines then .lineStart style.returns else .textStart))
  | '$' => some (.place (if style.lines then .lineEnd style.returns else .textEnd))
  | c => literal? style c.toNat false

/-- What an opening bracket begins. -/
inductive Opening where
  | options (style : Style)
  | group (style : Style) (names : List (List Char))

/-- Reads the name of a group, up to the bracket after it. -/
def readGroupName? (names : List (List Char)) (s : List Char) :
    Option (List (List Char) × List Char) :=
  match s.span (· != '>') with
  | (c :: name, _ :: s) =>
    let fits := (c == '_' || isLetter c) &&
      name.all fun c => c ∈ ['_', '.', '[', ']'] || isWordChar c
    if fits && !names.contains (c :: name) then some ((c :: name) :: names, s) else none
  | _ => none

/-- Reads what follows an opening bracket. -/
def readOpening? (style : Style) (names : List (List Char)) (s : List Char) :
    Option (Opening × List Char) :=
  match skip style s with
  | '?' :: 'P' :: '<' :: s | '?' :: '<' :: s =>
    (readGroupName? names s).map fun (names, s) => (.group style names, s)
  | '?' :: ')' :: _ => none
  | '?' :: s =>
    (readOptions? style true [] s).map fun (inner, last, s) =>
      (if last == ')' then .options inner else .group inner names, s)
  | s => some (.group style names, s)

/-- Reads parts up to a closing bracket or the end. `parts` are those of the present branch and
`branches` the branches before it, the last one first. -/
def readParts? (style : Style) (branches parts : List Part) (seen : Seen) :
    Nat → List Char → Option (Part × Seen × List Char)
  | 0, _ => none
  | fuel + 1, s =>
    match skip style s with
    | [] => some (joinBranches (joinParts parts :: branches), seen, [])
    | c :: s =>
      if c == ')' then some (joinBranches (joinParts parts :: branches), seen, c :: s)
      else if c == '|' then readParts? style (joinParts parts :: branches) [] seen fuel s
      else if c == '(' then do
        match ← readOpening? style seen.names s with
        | (.options style, s) =>
          let part := { pattern := .empty, repeatable := false }
          readParts? style branches (part :: parts) seen fuel s
        | (.group inner names, s) =>
          match ← readParts? inner [] [] { seen with names := names } fuel s with
          | (part, seen, ')' :: s) =>
            let part := { pattern := part.pattern, depth := part.depth + 1 }
            readParts? style branches (part :: parts) seen fuel s
          | _ => none
      else if c == '[' then do
        let (state, s) := beginSet style s
        let (set, s) ← readSet? style true state fuel s
        let part := { pattern := .char set.set, depth := set.depth }
        readParts? style branches (part :: parts) seen fuel s
      else if c == '?' || c == '*' || c == '+' then
        match parts with
        | [] => none
        | last :: before =>
          if !last.repeatable then none
          else do
            let lazy := s.head? == some '?'
            let pattern ← repeated? (lazy == style.swapped) last.pattern c
            let part := { pattern, depth := last.depth + 1 }
            readParts? style branches (part :: before) seen fuel (if lazy then s.drop 1 else s)
      else if c == '{' then none
      else if c == '\\' then do
        let (escape, s) ← readEscape? style s
        let pattern ← match escape with
          | .char n byte => literal? style n byte
          | .set set => some (.char set)
          | .place p _ => some (.place p)
        let words := match escape with
          | .place _ word => word && style.wide
          | _ => false
        let seen := { seen with words := seen.words || words }
        readParts? style branches ({ pattern } :: parts) seen fuel s
      else do
        let pattern ← sign? style c
        readParts? style branches ({ pattern } :: parts) seen fuel s

/-- Why a text is no pattern. -/
inductive Fault where
  | malformed
  /-- The edges of words of all scripts are asked for. -/
  | wordEdge
  deriving DecidableEq, Repr

/-- How deep a pattern can be. -/
def deepest : Nat := 250

/-- Reads a pattern. -/
def read (text : String) : Except Fault Pattern :=
  let s := text.toList
  match readParts? {} [] [] {} (s.length + 1) s with
  | some (part, seen, []) =>
    if deepest < part.depth then .error .malformed
    else if seen.words then .error .wordEdge
    else .ok part.pattern
  | _ => .error .malformed

end UsageFeed.Text.Pattern
