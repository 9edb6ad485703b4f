/-!
# `UsageFeed.Cli.Page` — what can be said on the command line

## Contents
- `Flag` and `Page`, the program itself and its commands.
- `Page.usage`, `Page.help`, and `versionLine`.
-/

namespace UsageFeed.Cli

/-- The name of the program. -/
def programName : String := "rosocp-processor"

/-- The version of the program. -/
def version : String := "0.1.0"

/-- The line that shows the version. -/
def versionLine : String := programName ++ " " ++ version

/-- A flag. -/
inductive Flag where
  | events
  | help
  | version
  deriving DecidableEq, Repr

namespace Flag

/-- The name of a flag. -/
def name : Flag → String
  | events => "events"
  | help => "help"
  | version => "version"

/-- A flag as it is written, with its value. -/
def shown : Flag → String
  | events => "--events <EVENTS>"
  | help => "--help"
  | version => "--version"

end Flag

/-- The program or one of its commands. -/
inductive Page where
  | program
  | consume
  | replay
  | help
  deriving DecidableEq, Repr

namespace Page

/-- The commands in order. -/
def commands : List Page := [consume, replay, help]

/-- The name of a command. -/
def name : Page → String
  | program => programName
  | consume => "consume"
  | replay => "replay"
  | help => "help"

/-- The command of a name. -/
def ofName? (s : String) : Option Page := commands.find? (·.name == s)

/-- The commands below. -/
def below : Page → List Page
  | program => commands
  | _ => []

/-- The flags that may be given. -/
def flags : Page → List Flag
  | program => [.help, .version]
  | consume => [.help]
  | replay => [.events, .help]
  | help => []

/-- The flags that have to be given. -/
def required : Page → List Flag
  | replay => [.events]
  | _ => []

/-- What the program or a command does. -/
def about : Page → String
  | program => "Feeds usage reports to the recommendation service"
  | consume => "Consume upload events from the message broker (default)"
  | replay => "Replay events from a newline-delimited JSON file"
  | help => "Print this message or the help of the given subcommand(s)"

/-- The words that lead to the page. -/
def call : Page → String
  | program => programName
  | p => programName ++ " " ++ p.name

/-- What else may follow. -/
def follow : Page → List String
  | program => ["[COMMAND]"]
  | consume => []
  | replay => Page.replay.required.map Flag.shown
  | help => ["[COMMAND]..."]

/-- How to use the program or a command. -/
def usage (p : Page) : String := " ".intercalate (p.call :: p.follow)

/-- How to use it with some flags. -/
def usageWith (p : Page) (used : List Flag) : String :=
  if used.isEmpty then p.usage
  else " ".intercalate (p.call :: (p.required ++ used).eraseDups.map Flag.shown)

/-! ## Help -/

/-- Words in two columns. -/
def columns (entries : List (String × String)) : List String :=
  let width := (entries.map (·.1.length)).foldl max 0
  entries.map fun (left, right) =>
    "  " ++ left ++ String.ofList (List.replicate (width - left.length) ' ') ++ "  " ++ right

/-- What a flag does, as help shows it. Flags without a short form are set in. -/
def flagEntry : Flag → String × String
  | .events => ("    --events <EVENTS>", "Events file, or `-` for stdin")
  | .help => ("-h, --help", "Print help")
  | .version => ("-V, --version", "Print version")

/-- A part of help with a title; none without entries. -/
def part (title : String) (entries : List (String × String)) : List String :=
  if entries.isEmpty then [] else "" :: title :: columns entries

/-- The words that may follow, as help shows them. -/
def words : Page → List (String × String)
  | help => [("[COMMAND]...", "Print help for the subcommand(s)")]
  | _ => []

/-- The lines of help. -/
def helpLines (p : Page) : List String :=
  [p.about, "", "Usage: " ++ p.usage] ++
    part "Commands:" (p.below.map fun c => (c.name, c.about)) ++
    part "Arguments:" p.words ++
    part "Options:" (p.flags.map flagEntry)

end Page
end UsageFeed.Cli
