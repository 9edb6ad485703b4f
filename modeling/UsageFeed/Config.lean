import UsageFeed.Config.Setting
import UsageFeed.Pipeline

/-!
# `UsageFeed.Config` — what the program is told to do

## Contents
- `Config`, the settings with what holds without them.
- `Config.names`, the names of the settings, and how each is taken over.
- `Config.Environment.settings`, the settings that stand in an environment, and
  `Config.ofEnvironment`.
- `Config.serviceBase` and `Config.pipeline`, what follows from the settings.
-/

namespace UsageFeed

/-- The settings of the program. -/
structure Config where
  brokers : String := "localhost:29092"
  consumerGroup : String := "ros-ocp"
  /-- Whether the source acknowledges messages by itself. -/
  autoCommit : Bool := false
  securityProtocol : Option String := none
  saslMechanism : Option String := none
  saslUser : Option String := none
  saslPassword : Option String := none
  topic : String := "platform.upload.rosocp"
  serviceHost : String := "localhost"
  servicePort : Nat := 8080
  /-- Where the service is; takes the place of host and port unless it is empty. -/
  serviceUrl : Option String := none
  timeoutSeconds : Nat := 30
  apiPort : Nat := 5005
  logLevel : String := "info"
  trialNumber : Nat := 98
  separator : String := ""
  listAfterFailedUpdate : Bool := true
  deriving DecidableEq, Repr

namespace Config

/-! ## Names -/

/-- A setting that the program knows. -/
structure Name where
  key : String
  /-- Takes the setting over. -/
  put : Config → Setting → Except Mismatch Config

/-- A setting that is a text. -/
def textName (key : String) (put : Config → String → Config) : Name :=
  ⟨key, fun c s => s.toText.map (put c)⟩

/-- A setting that is a flag. -/
def flagName (key : String) (put : Config → Bool → Config) : Name :=
  ⟨key, fun c s => s.toFlag.map (put c)⟩

/-- A setting that is a number of so many bits. -/
def countName (key : String) (bits : Nat) (put : Config → Nat → Config) : Name :=
  ⟨key, fun c s => (s.toCount bits).map (put c)⟩

/-- Every setting that the program knows. -/
def names : List Name :=
  [ textName "kafka_bootstrap_servers" fun c v => { c with brokers := v },
    textName "kafka_consumer_group_id" fun c v => { c with consumerGroup := v },
    flagName "kafka_auto_commit" fun c v => { c with autoCommit := v },
    textName "kafka_security_protocol" fun c v => { c with securityProtocol := some v },
    textName "kafka_sasl_mechanism" fun c v => { c with saslMechanism := some v },
    textName "kafka_sasl_username" fun c v => { c with saslUser := some v },
    textName "kafka_sasl_password" fun c v => { c with saslPassword := some v },
    textName "upload_topic" fun c v => { c with topic := v },
    textName "kruize_host" fun c v => { c with serviceHost := v },
    countName "kruize_port" 16 fun c v => { c with servicePort := v },
    textName "kruize_url" fun c v => { c with serviceUrl := some v },
    countName "request_timeout_secs" 64 fun c v => { c with timeoutSeconds := v },
    countName "api_port" 16 fun c v => { c with apiPort := v },
    textName "log_level" fun c v => { c with logLevel := v },
    countName "trial_number" 32 fun c v => { c with trialNumber := v },
    textName "experiment_name_separator" fun c v => { c with separator := v },
    flagName "list_after_failed_update" fun c v => { c with listAfterFailedUpdate := v } ]

/-! ## Environments -/

/-- The variables of an environment, in order. -/
abbrev Environment := List (String × String)

namespace Environment

/-- What the name of a setting begins with, in small letters. -/
def opening : List Char := "rosocp_".toList

/-- The name of a setting, in small letters and without its beginning, of a variable that is one. -/
def settingName? (variableName : String) : Option (List Char) :=
  if opening.isPrefixOf (Text.toSmall variableName).toList then
    some (Text.toSmall (String.ofList (variableName.toList.drop opening.length))).toList
  else none

/-- A character that may stand in one part of a name. -/
def isNameChar (c : Char) : Bool := c.isAlphanum || c ∈ ['_', '-', ' ']

/-- Takes a place and its closing bracket off the front: a whole number of 64 bits with a sign, with
any spaces and tabs around it. What is left, if there is one. -/
def dropPlace? (s : List Char) : Option (List Char) :=
  let isGap := fun (c : Char) => c == ' ' || c == '\t'
  let s := s.dropWhile isGap
  let (sign, s) := if s.head? = some '-' then (['-'], s.tail) else ([], s)
  let (digits, s) := s.span Char.isDigit
  match readWhole? (String.ofList (sign ++ digits)), s.dropWhile isGap with
  | some _, ']' :: s => some s
  | _, _ => none

/-- Whether a name goes on with parts of its own: names after a point, places in brackets. -/
def isTail : Nat → List Char → Bool
  | 0, _ => false
  | _ + 1, [] => true
  | fuel + 1, '.' :: rest =>
    let (part, rest) := rest.span isNameChar
    !part.isEmpty && isTail fuel rest
  | fuel + 1, '[' :: rest => (dropPlace? rest).any (isTail fuel)
  | _ + 1, _ => false

/-- The setting that a name and a text stand for, with the first part of the name. -/
def setting (name : List Char) (value : String) : String × Setting :=
  let (part, tail) := name.span isNameChar
  if !part.isEmpty && isTail (tail.length + 1) tail then
    (String.ofList part,
      match tail with
      | [] => .ofText value
      | '[' :: _ => .sequence
      | _ => .group)
  else (String.ofList name, .ofText value)

/-- The settings that stand in an environment, in order. -/
def settings (env : Environment) : List (String × Setting) :=
  env.filterMap fun (name, value) => (settingName? name).map (setting · value)

/-- The setting under a name; of several the last. -/
def setting? (env : Environment) (key : String) : Option Setting :=
  (env.settings.reverse.find? (·.1 == key)).map (·.2)

end Environment

/-- A setting that is not what it has to be. -/
structure Error where
  key : String
  mismatch : Mismatch
  deriving DecidableEq, Repr

/-- What an error means, and below it what caused it. -/
def Error.chain (e : Error) : List String := ["invalid configuration", e.mismatch.message e.key]

/-- Takes the setting of one name over, if the environment has it. -/
def Name.apply (env : Environment) (c : Config) (n : Name) : Except Error Config :=
  match env.setting? n.key with
  | none => .ok c
  | some s =>
    match n.put c s with
    | .ok c => .ok c
    | .error m => .error ⟨n.key, m⟩

/-- The settings in an environment. -/
def ofEnvironment (env : Environment) : Except Error Config :=
  names.foldlM (Name.apply env) {}

/-! ## What follows -/

/-- Where the service is. -/
def serviceBase (c : Config) : String :=
  match c.serviceUrl with
  | some url => if url.isEmpty then fromHost else url
  | none => fromHost
where
  /-- Made of host and port. -/
  fromHost : String := "http://" ++ c.serviceHost ++ ":" ++ toString c.servicePort

/-- The settings of the pipeline. -/
def pipeline (c : Config) : Pipeline :=
  { trialNumber := c.trialNumber, separator := c.separator,
    listAfterFailedUpdate := c.listAfterFailedUpdate }

end Config
end UsageFeed
