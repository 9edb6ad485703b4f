import UsageFeed.Cli.Page
import UsageFeed.Text.Similar

/-!
# `UsageFeed.Cli.Arguments` — reading the command line

## Contents
- `Command`, what the program is told to do.
- `Mistake`, what is wrong with a command line, and its message.
- `Verdict`, what a command line comes to, and `read`.
-/

namespace UsageFeed.Cli

/-- What the program is told to do. -/
inductive Command where
  | consume
  /-- Replays the events of a file, or of the standard input for `-`. -/
  | replay (events : String)
  deriving DecidableEq, Repr

/-! ## Mistakes -/

/-- What may have been meant instead. -/
inductive Hint where
  | flag (f : Flag)
  | commandFlag (p : Page) (f : Flag)
  deriving DecidableEq, Repr

/-- What is wrong with a command line. -/
inductive Mistake where
  | unknownArgument (p : Page) (argument : String) (hint : Option Hint)
  | unknownCommand (p : Page) (name : String) (similar : List String)
  /-- A command stands after two dashes. -/
  | hiddenCommand (p : Page) (name : String)
  | missingFlag (p : Page) (f : Flag)
  | missingValue (f : Flag)
  | repeated (p : Page) (f : Flag)
  | unneededValue (p : Page) (f : Flag) (value : String)
  deriving DecidableEq, Repr

/-- A text between single quotes. -/
def inQuotes (s : String) : String := "'" ++ s ++ "'"

/-- A piece of advice. -/
def tip (s : String) : String := "\n\n  tip: " ++ s

/-- A hint as advice. -/
def Hint.tip : Hint → String
  | flag f => Cli.tip ("a similar argument exists: " ++ inQuotes ("--" ++ f.name))
  | commandFlag p f => Cli.tip (inQuotes (p.name ++ " --" ++ f.name) ++ " exists")

/-- The names of similar commands as advice. -/
def similarTip : List String → String
  | [] => ""
  | [name] => tip ("a similar subcommand exists: " ++ inQuotes name)
  | names => tip ("some similar subcommands exist: " ++ ", ".intercalate (names.map inQuotes))

/-- The flag that a usage shows because it may have been meant. -/
def Hint.used : Option Hint → List Flag
  | some (flag f) => [f]
  | _ => []

namespace Mistake

/-- What is wrong. -/
def what : Mistake → String
  | unknownArgument _ argument _ | hiddenCommand _ argument =>
    "unexpected argument " ++ inQuotes argument ++ " found"
  | unknownCommand _ name _ => "unrecognized subcommand " ++ inQuotes name
  | missingFlag _ f => "the following required arguments were not provided:\n  " ++ f.shown
  | missingValue f => "a value is required for " ++ inQuotes f.shown ++ " but none was supplied"
  | repeated _ f => "the argument " ++ inQuotes f.shown ++ " cannot be used multiple times"
  | unneededValue _ f value =>
    "unexpected value " ++ inQuotes value ++ " for " ++ inQuotes f.shown ++
      " found; no more were expected"

/-- What to do about it. -/
def advice : Mistake → String
  | unknownArgument _ _ (some hint) => hint.tip
  | unknownCommand _ _ similar => similarTip similar
  | hiddenCommand _ name =>
    tip ("subcommand " ++ inQuotes name ++ " exists; to use it, remove the '--' before it")
  | _ => ""

/-- How to use the program, unless only a value is missing. -/
def usage? : Mistake → Option String
  | unknownArgument p _ hint => some (p.usageWith (Hint.used hint))
  | unneededValue p f _ => some (p.usageWith [f])
  | unknownCommand p _ _ | hiddenCommand p _ | missingFlag p _ | repeated p _ => some p.usage
  | missingValue _ => none

/-- Where to read on. A command without the flag for help has nothing to point at. -/
def pointer : Mistake → String
  | unknownCommand p _ _ => if p.flags.contains .help then helpPointer else ""
  | _ => helpPointer
where
  /-- The flag for help. -/
  helpPointer : String := "\n\nFor more information, try '--help'."

/-- The text of a mistake. -/
def message (m : Mistake) : String :=
  "error: " ++ m.what ++ m.advice ++ ((m.usage?.map ("\n\nUsage: " ++ ·)).getD "") ++ m.pointer ++
    "\n"

end Mistake

/-- What a command line comes to. -/
inductive Verdict where
  | run (c : Command)
  | lines (l : List String)
  | mistaken (m : Mistake)
  deriving DecidableEq, Repr

/-! ## Arguments -/

/-- What an argument looks like. -/
inductive Shape where
  /-- Two dashes, after which nothing is a flag. -/
  | dashes
  | long (name : String) (value : Option String)
  /-- A dash and letters, the first of them given. -/
  | short (letter : Char)
  | word (s : String)
  deriving DecidableEq, Repr

/-- Looks at an argument. -/
def Shape.of (argument : String) : Shape :=
  match argument.toList with
  | ['-', '-'] => .dashes
  | '-' :: '-' :: s =>
    let (name, value) := s.span (· != '=')
    .long (String.ofList name) (if value.isEmpty then none else some (String.ofList value.tail))
  | '-' :: c :: _ => .short c
  | _ => .word argument

/-- The flag of a page that is most like a name, if one is like it. -/
def similarFlag (p : Page) (name : String) : Option Flag := do
  let best ← (Text.similar name (p.flags.map Flag.name)).getLast?
  p.flags.find? fun f => f.name == best

/-- The flag of a page that may have been meant, or one of a command that follows. -/
def hintFor (p : Page) (name : String) (rest : List String) : Option Hint :=
  match similarFlag p name with
  | some f => some (.flag f)
  | none => do
    let q ← rest.findSome? fun s =>
      p.below.find? fun q => q.name == s && (similarFlag q name).isSome
    return .commandFlag q (← similarFlag q name)

/-! ## Commands -/

/-- The flag `--events` as far as it has been read. -/
structure EventsFlag where
  value : Option String := none
  /-- The flag read last, with its value if that has been read. -/
  pending : Option (Option String) := none
  deriving DecidableEq, Repr

/-- Takes in the flag read last. -/
def EventsFlag.settle (e : EventsFlag) : Except Mistake EventsFlag :=
  match e.pending with
  | none => .ok e
  | some none => .error (.missingValue .events)
  | some (some v) =>
    if e.value.isSome then .error (.repeated .replay .events)
    else if v.isEmpty then .error (.missingValue .events)
    else .ok { value := some v }

/-- Turns what is wrong into a verdict. -/
def orMistaken {α : Type} (r : Except Mistake α) (f : α → Verdict) : Verdict :=
  match r with
  | .ok a => f a
  | .error m => .mistaken m

/-- Reads the arguments of `consume`. -/
def readConsume (dashed : Bool) : List String → Verdict
  | [] => .run .consume
  | a :: rest =>
    if dashed then .mistaken (.unknownArgument .consume a none)
    else
      match Shape.of a with
      | .dashes => readConsume true rest
      | .long "help" none => .lines Page.consume.helpLines
      | .long "help" (some v) => .mistaken (.unneededValue .consume .help v)
      | .long name _ =>
        .mistaken (.unknownArgument .consume ("--" ++ name) (hintFor .consume name rest))
      | .short 'h' => .lines Page.consume.helpLines
      | .short c => .mistaken (.unknownArgument .consume (String.ofList ['-', c]) none)
      | .word s => .mistaken (.unknownArgument .consume s none)

/-- Reads the arguments of `replay`. -/
def readReplay (dashed : Bool) (e : EventsFlag) : List String → Verdict
  | [] => orMistaken e.settle fun e =>
    match e.value with
    | some v => .run (.replay v)
    | none => .mistaken (.missingFlag .replay .events)
  | a :: rest =>
    if dashed then .mistaken (.unknownArgument .replay a none)
    else
      match Shape.of a with
      | .dashes => readReplay true e rest
      | .long "events" none =>
        orMistaken e.settle fun e => readReplay false { e with pending := some none } rest
      | .long "events" (some v) =>
        orMistaken e.settle fun e =>
        orMistaken (EventsFlag.settle { e with pending := some (some v) }) fun e =>
          readReplay false e rest
      | .long "help" none => orMistaken e.settle fun _ => .lines Page.replay.helpLines
      | .long "help" (some v) => .mistaken (.unneededValue .replay .help v)
      | .long name _ =>
        .mistaken (.unknownArgument .replay ("--" ++ name) (hintFor .replay name rest))
      | .short 'h' => orMistaken e.settle fun _ => .lines Page.replay.helpLines
      | .short c => .mistaken (.unknownArgument .replay (String.ofList ['-', c]) none)
      | .word s =>
        match e.pending with
        | some none => readReplay false { e with pending := some (some s) } rest
        | _ => .mistaken (.unknownArgument .replay s none)

/-- Follows the words after `help` from page to page. -/
def readHelp (p : Page) : List String → Verdict
  | [] => .lines p.helpLines
  | a :: rest =>
    match p.below.find? (·.name == a) with
    | some q => readHelp q rest
    | none => .mistaken (.unknownCommand p a [])

/-! ## The command line -/

/-- A word where a command should be. -/
def noCommand (name : String) : Mistake :=
  .unknownCommand .program name (Text.similar name (Page.commands.map Page.name))

/-- Reads a command line. Without a command, `consume` is meant. -/
def read : List String → Verdict
  | [] => .run .consume
  | a :: rest =>
    match Page.ofName? a with
    | some .consume => readConsume false rest
    | some .replay => readReplay false {} rest
    | some .help => readHelp .program rest
    | _ =>
      match Shape.of a with
      | .dashes =>
        match rest with
        | [] => .run .consume
        | b :: _ =>
          .mistaken (if (Page.ofName? b).isSome then .hiddenCommand .program b else noCommand b)
      | .long "help" none => .lines Page.program.helpLines
      | .long "version" none => .lines [versionLine]
      | .long "help" (some v) => .mistaken (.unneededValue .program .help v)
      | .long "version" (some v) => .mistaken (.unneededValue .program .version v)
      | .long name _ =>
        .mistaken (.unknownArgument .program ("--" ++ name) (hintFor .program name rest))
      | .short 'h' => .lines Page.program.helpLines
      | .short 'V' => .lines [versionLine]
      | .short c => .mistaken (.unknownArgument .program (String.ofList ['-', c]) none)
      | .word s => .mistaken (noCommand s)

end UsageFeed.Cli
