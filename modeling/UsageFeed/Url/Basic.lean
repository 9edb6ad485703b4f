import UsageFeed.Url.Host

/-!
# `UsageFeed.Url.Basic` — what a URL is made of

## Contents
- `Scheme`, by which the rest of a URL is read, and its default port.
- `Path` and `Url`.
- `Url.write`, the one text of a URL; `Url.target`, the part of it that a request names.
- `Url.endpoint`, the URL of a name beneath another URL.
-/

namespace UsageFeed

/-- A scheme, in small letters. -/
structure Url.Scheme where
  name : String
  deriving DecidableEq, Repr

namespace Url

/-- The port of a common scheme that need not be said. -/
def Scheme.defaultPort? (s : Scheme) : Option Nat :=
  if s.name ∈ ["http", "ws"] then some 80
  else if s.name ∈ ["https", "wss"] then some 443
  else if s.name = "ftp" then some 21
  else none

/-- Whether the scheme is for files. -/
def Scheme.isFile (s : Scheme) : Bool := s.name == "file"

/-- Whether URLs of the scheme name a host and a path that is not empty. -/
def Scheme.isCommon (s : Scheme) : Bool := s.isFile || s.defaultPort?.isSome

/-- Whether the scheme is one of the web. -/
def Scheme.isWeb (s : Scheme) : Bool := s.name == "http" || s.name == "https"

/-- A path. -/
inductive Path where
  /-- A text in which nothing is set apart. -/
  | flat (s : List Char)
  | segments (l : List (List Char))
  deriving DecidableEq, Repr

/-- The host that a URL names, and how to come in. -/
structure Authority where
  user : List Char := []
  password : Option (List Char) := none
  /-- Absent where a URL names a host without letters. -/
  host : Option Host := none
  port : Option Nat := none
  deriving DecidableEq, Repr

end Url

/-- A URL. -/
structure Url where
  scheme : Url.Scheme
  authority : Option Url.Authority := none
  path : Url.Path
  query : Option (List Char) := none
  fragment : Option (List Char) := none
  deriving DecidableEq, Repr

namespace Url

/-! ## Writing -/

/-- The user, if one is named, with an at sign. -/
def Authority.writeUser (a : Authority) : List Char :=
  match a.user, a.password with
  | [], none => []
  | user, none => user ++ ['@']
  | user, some password => user ++ ':' :: password ++ ['@']

/-- The host with its port. -/
def Authority.writeHost (a : Authority) : List Char :=
  (a.host.map Host.write).getD [] ++
    match a.port with
    | some n => ':' :: (toString n).toList
    | none => []

/-- Segments, each behind a slash. -/
def Path.writeSegments (l : List (List Char)) : List Char := l.flatMap ('/' :: ·)

/-- The text of a path. -/
def Path.write : Path → List Char
  | flat s => s
  | segments l => writeSegments l

/-- What keeps a path that begins with an empty segment from being taken for a host. -/
def guard (u : Url) : List Char :=
  match u.authority, u.path with
  | none, .segments ([] :: _ :: _) => "/.".toList
  | _, _ => []

/-- An optional part behind its sign. -/
def writeTail (sign : Char) : Option (List Char) → List Char
  | some s => sign :: s
  | none => []

/-- The part from the path to the query, which a request names. -/
def target (u : Url) : String := String.ofList (u.path.write ++ writeTail '?' u.query)

/-- The characters of a URL. -/
def chars (u : Url) : List Char :=
  u.scheme.name.toList ++ ':' ::
    ((match u.authority with
      | some a => '/' :: '/' :: (a.writeUser ++ a.writeHost)
      | none => []) ++
    u.guard ++ u.path.write ++ writeTail '?' u.query ++ writeTail '#' u.fragment)

/-- The text of a URL. -/
def write (u : Url) : String := String.ofList u.chars

/-! ## Leading on -/

/-- A drive letter with its colon. -/
def isDrive (s : List Char) : Bool :=
  match s with
  | [c, ':'] => c.isAlpha
  | _ => false

/-- The segments with a name in the place of the last one. The drive of a file is not replaced: the
name goes beneath it, and runs on from a drive that lies deeper. -/
def Path.replaceLast (scheme : Scheme) (l : List (List Char)) (name : List Char) :
    List (List Char) :=
  match l.getLast? with
  | some last =>
    if scheme.isFile && isDrive last then
      if l.length = 1 then l ++ [name] else l.dropLast ++ [last ++ name]
    else l.dropLast ++ [name]
  | none => [name]

/-- The URL of a name in the place of the last segment of another, without query and fragment. -/
def endpoint (u : Url) (name : String) : Except Error Url :=
  match u.path with
  | .flat _ => .error .relativeToFlat
  | .segments l =>
    .ok { u with path := .segments (Path.replaceLast u.scheme l name.toList), query := none,
                 fragment := none }

/-- Whether a URL names a host with letters. -/
def hasHost (u : Url) : Bool := u.authority.any (·.host.isSome)

/-- The URL without a user. -/
def withoutUser (u : Url) : Url :=
  { u with authority := u.authority.map fun a => { a with user := [], password := none } }

end Url
end UsageFeed
