import UsageFeed.Text.Blank
import UsageFeed.Url.Basic

/-!
# `UsageFeed.Url.Reader` — reading URLs

## Contents
- `clean`, what of a text counts.
- `readScheme?`, `cutTails`, `readPath`, `readAuthority` for the parts.
- `Url.read`.
-/

namespace UsageFeed.Url

/-! ## Cutting -/

/-- The text without blanks and controls at either end, and without tabs and line ends. -/
def clean (s : String) : List Char :=
  (Text.trimBy (fun c => c.toNat ≤ 0x20) s.toList).filter fun c => !(c ∈ ['\t', '\n', '\r'])

/-- A character that a scheme may hold after its first letter. -/
def isSchemeChar (c : Char) : Bool := c.isAlphanum || c ∈ ['+', '-', '.']

/-- Takes a scheme and its colon off the front. -/
def readScheme? (s : List Char) : Option (Scheme × List Char) :=
  match s.span isSchemeChar with
  | (c :: more, ':' :: rest) =>
    if c.isAlpha then some (⟨String.ofList ((c :: more).map Char.toLower)⟩, rest) else none
  | _ => none

/-- A text cut where a sign first stands, which belongs to neither part. -/
def cutAt (sign : Char) (s : List Char) : List Char × Option (List Char) :=
  match s.span (· != sign) with
  | (before, _ :: after) => (before, some after)
  | (before, []) => (before, none)

/-- The query and the fragment of a URL and what stands before them. -/
def cutTails (scheme : Scheme) (s : List Char) :
    List Char × Option (List Char) × Option (List Char) :=
  let (s, fragment) := cutAt '#' s
  let (s, query) := cutAt '?' s
  (s, query.map (Percent.encode (Percent.inQuery scheme.isCommon)),
    fragment.map (Percent.encode Percent.inFragment))

/-- Whether a character ends a segment. -/
def isSlash (scheme : Scheme) (c : Char) : Bool := c == '/' || (scheme.isCommon && c == '\\')

/-! ## Paths -/

/-- Whether a segment stays where it is: one point, also behind a percent sign. -/
def isHere (s : List Char) : Bool := String.ofList (s.map Char.toLower) ∈ [".", "%2e"]

/-- Whether a segment leads up: two points, also behind percent signs. -/
def isUp (s : List Char) : Bool :=
  String.ofList (s.map Char.toLower) ∈ ["..", ".%2e", "%2e.", "%2e%2e"]

/-- A drive letter with a colon or a bar. -/
def isDriveText (s : List Char) : Bool :=
  match s with
  | [c, d] => c.isAlpha && (d == ':' || d == '|')
  | _ => false

/-- Whether a segment begins as a drive does, which no later segment leads up from. -/
def holdsOut (s : List Char) : Bool :=
  match s with
  | [_, _] => isDriveText s
  | c :: d :: '\\' :: _ => isDriveText [c, d]
  | _ => false

/-- The segments that are left after one that leads up. -/
def leadUp (l : List (List Char)) : List (List Char) :=
  if l.getLast?.any holdsOut then l else l.dropLast

/-- Follows segments one after another from those in `l` on. The first segment of a file may be a
drive, with a bar for its colon. -/
def follow (scheme : Scheme) (l : List (List Char)) : List (List Char) → List (List Char)
  | [] => l
  | s :: more =>
    let s := Percent.encode Percent.inPath s
    let ending := if more.isEmpty then [[]] else []
    let l :=
      if isUp s then leadUp l ++ ending
      else if isHere s then l ++ ending
      else if scheme.isFile && l.isEmpty && isDriveText s then [s.take 1 ++ [':']]
      else l ++ [s]
    follow scheme l more

/-- The segments that a path leads to, its first slash gone. -/
def walk (scheme : Scheme) (s : List Char) : List (List Char) :=
  follow scheme [] (s.splitOnP (isSlash scheme))

/-- Segments without empty ones ahead of others. -/
def dropEmpty (l : List (List Char)) : List (List Char) :=
  let l := l.dropWhile List.isEmpty
  if l.isEmpty then [[]] else l

/-- The segments of a path whose first slash is gone. A file's path has no empty segments ahead of
others. -/
def readSegments (scheme : Scheme) (s : List Char) : List (List Char) :=
  if scheme.isFile then dropEmpty (walk scheme s) else walk scheme s

/-- The path after a host. A common scheme's path is never empty. -/
def readPath (scheme : Scheme) (s : List Char) : Path :=
  match s with
  | [] => .segments (if scheme.isCommon then [[]] else [])
  | c :: rest => .segments (readSegments scheme (if isSlash scheme c then rest else c :: rest))

/-! ## Hosts -/

/-- Reads a port, and what a backslash keeps from it: that belongs to the path. No port is said
where there are no digits, or where it is the scheme's own. -/
def readPort (scheme : Scheme) (s : List Char) : Except Error (Option Nat × List Char) :=
  let (digits, rest) := s.span Char.isDigit
  let n := digits.foldl (fun n c => n * 10 + (c.toNat - 48)) 0
  if 65535 < n || !(rest.isEmpty || rest.head? == some '\\') then .error .invalidPort
  else .ok (if digits.isEmpty || scheme.defaultPort? = some n then none else some n, rest)

/-- Cuts a text at its last at sign. -/
def cutUser (s : List Char) : Option (List Char) × List Char :=
  let after := (s.reverse.takeWhile (· != '@')).reverse
  if after.length < s.length then (some (s.take (s.length - after.length - 1)), after)
  else (none, s)

/-- Cuts a text at the first colon that is not within brackets. -/
def cutPort (inside : Bool) : List Char → List Char × Option (List Char)
  | [] => ([], none)
  | c :: s =>
    if c == ':' && !inside then ([], some s)
    else
      let (host, port) := cutPort (if c == '[' then true else if c == ']' then false else inside) s
      (c :: host, port)

/-- Reads who comes in: a name, and a password unless it is empty. -/
def readUser (s : List Char) : List Char × Option (List Char) :=
  let (user, password) := cutAt ':' s
  (Percent.encode Percent.inUser user,
    (password.filter (!·.isEmpty)).map (Percent.encode Percent.inUser))

/-- Reads the part between the two slashes and the path, and what of it belongs to the path. A user
needs a host, and so does an at sign with nothing around it. -/
def readAuthority (scheme : Scheme) (s : List Char) : Except Error (Authority × List Char) := do
  let (user?, s) := cutUser s
  let (host, port) := cutPort false s
  if (user? = some [] && s.isEmpty) || (host.isEmpty && (scheme.isCommon || port.isSome)) then
    throw .emptyHost
  let (user, password) := readUser (user?.getD [])
  if host.isEmpty && (!user.isEmpty || password.isSome) then throw .emptyHost
  let host ← if scheme.isCommon then (Host.read host).map some
    else if host.isEmpty then pure none
    else (Host.readPlain host).map some
  let (port, rest) ← readPort scheme (port.getD [])
  return (⟨user, password, host, port⟩, rest)

/-- Reads the host of a file; the own host is not said. -/
def readFileHost (s : List Char) : Except Error Authority :=
  if s.isEmpty then .ok {}
  else
    match Host.read s with
    | .ok (.name "localhost") => .ok {}
    | .ok h => .ok { host := some h }
    | .error e => .error e

/-! ## Reading -/

/-- Reads what comes after the scheme of a file, up to its query. A path that begins at a drive
needs no host. -/
def readFile (scheme : Scheme) (s : List Char) : Except Error (Option Authority × Path) :=
  match s with
  | a :: b :: rest =>
    if isSlash scheme a && isSlash scheme b then do
      let (host, path) := rest.span fun c => !isSlash scheme c
      if isDriveText host then return (some {}, .segments (readSegments scheme rest))
      let found ← readFileHost host
      if found.host.isNone then return (some {}, .segments (readSegments scheme path))
      let segments := walk scheme (path.drop 1)
      return (some (if segments.head?.any isDrive then {} else found),
        .segments (dropEmpty segments))
    else .ok (some {}, readPath scheme s)
  | _ => .ok (some {}, readPath scheme s)

/-- Reads what comes after any other scheme, up to the query. -/
def readBody (scheme : Scheme) (s : List Char) : Except Error (Option Authority × Path) :=
  let afterHost := fun (s : List Char) => do
    let (host, path) := s.span fun c => !isSlash scheme c
    let (found, rest) ← readAuthority scheme host
    return (some found, readPath scheme (rest ++ path))
  if scheme.isFile then readFile scheme s
  else if scheme.isCommon then afterHost (s.dropWhile (isSlash scheme))
  else
    match s with
    | '/' :: '/' :: rest => afterHost rest
    | '/' :: rest => .ok (none, .segments (readSegments scheme rest))
    | _ => .ok (none, .flat (Percent.encode Percent.isControl s))

/-- Reads a URL that stands on its own. -/
def read (s : String) : Except Error Url :=
  match readScheme? (clean s) with
  | none => .error .relativeWithoutBase
  | some (scheme, rest) => do
    let (rest, query, fragment) := cutTails scheme rest
    let (authority, path) ← readBody scheme rest
    return ⟨scheme, authority, path, query, fragment⟩

end UsageFeed.Url
