import UsageFeed.Http.Head
import UsageFeed.Text.Charset

/-!
# `UsageFeed.Http.Content` — descriptions of content

## Contents
- **Parameters.** `readParameters?`, the names and values behind a kind of content such as
  `text/plain; charset=utf-8`.
- `parameters?` for a whole description, and `charset`, the encoding that it names.
-/

namespace UsageFeed.Http.Content

/-! ## Parameters -/

/-- A character that may stand in a word. -/
def isWordChar (c : Char) : Bool := c.toNat < 0x80 && Head.isNameByte (UInt8.ofNat c.toNat)

/-- A character that may stand between quotes. -/
def isQuotedChar (c : Char) : Bool := 0x20 ≤ c.toNat && c != '\x7f'

/-- Reads a value up to its closing quote. A quote right at its beginning belongs to it. -/
def readQuoted? (s : List Char) : Option (List Char × List Char) :=
  match s with
  | [] => none
  | c :: s =>
    match s.span (· != '"') with
    | (value, '"' :: rest) =>
      if (c :: value).all isQuotedChar then some (c :: value, rest) else none
    | _ => none

/-- Reads a value, and the parameters that are left. One without quotes may be empty only at the
end. -/
def readValue? : List Char → Option (List Char × List Char)
  | '"' :: s => do
    let (value, s) ← readQuoted? s
    match s.dropWhile (· == ' ') with
    | [] => some (value, [])
    | ';' :: s => some (value, s)
    | _ => none
  | s =>
    match s.span isWordChar with
    | (value, []) => some (value, [])
    | (value@(_ :: _), ';' :: s) => some (value, s)
    | _ => none

/-- Reads parameters to the end, each after any spaces. -/
def readParameters? : Nat → List Char → Option (List (String × String))
  | 0, _ => none
  | fuel + 1, s =>
    match (s.dropWhile (· == ' ')).span isWordChar with
    | ([], []) => some []
    | (name@(_ :: _), '=' :: s) => do
      let (value, s) ← readValue? s
      let more ← readParameters? fuel s
      return (String.ofList (name.map Char.toLower), String.ofList value) :: more
    | _ => none

/-! ## Descriptions -/

/-- The parameters of a description, if all of it reads: two words with a slash between them, and
parameters after semicolons. -/
def parameters? (description : String) : Option (List (String × String)) :=
  match description.toList.span isWordChar with
  | (_ :: _, '/' :: s) =>
    match s.span isWordChar with
    | (_, []) => some []
    | (_ :: _, ';' :: s) => readParameters? (s.length + 1) s
    | _ => none
  | _ => none

/-- The encoding of content with a description: the usual one unless it names another that is
known. -/
def charset (description : Option String) : Text.Charset :=
  (((description.bind parameters?).bind (·.lookup "charset")).bind
    Text.Charset.ofLabel?).getD .utf8

end UsageFeed.Http.Content
