import UsageFeed.Decimal.Layout
import UsageFeed.Decimal.Literal
import UsageFeed.Text.Case
import UsageFeed.Text.Quoted

/-!
# `UsageFeed.Config.Setting` — one value from the environment

## Contents
- `Setting`, what a text stands for, and `Setting.ofText`.
- `Mismatch`, why a setting has not the kind asked for, and its message.
- **Conversions.** `Setting.toText`, `Setting.toFlag` and `Setting.toCount`.
-/

namespace UsageFeed.Config

/-- What stands in the environment under a name. -/
inductive Setting where
  | flag (b : Bool)
  | whole (n : Int)
  | float (x : Float)
  | text (s : String)
  /-- Settings under names that go on after the name with a point. -/
  | group
  /-- Settings under names that go on after the name with a place in brackets. -/
  | sequence
  deriving Repr

/-- The flag that a text in small letters spells. -/
def readFlag? : String → Option Bool
  | "true" => some true
  | "false" => some false
  | _ => none

/-- What the sizes of numbers of 64 bits with a sign are below. -/
def wholeLimit : Nat := Nat.pow 2 63

/-- The number that a text spells, if it fits into 64 bits with a sign. -/
def readWhole? (s : String) : Option Int :=
  (Decimal.readInt? s.toList).filter fun n => -wholeLimit ≤ n && n < wholeLimit

/-- What a text stands for: a flag, a whole number, any number, or itself, whichever fits first. -/
def Setting.ofText (s : String) : Setting :=
  match readFlag? (Text.toSmall s) with
  | some b => .flag b
  | none =>
    match readWhole? s with
    | some n => .whole n
    | none =>
      match Decimal.readFloat? s.toList with
      | some x => .float x
      | none => .text s

/-! ## Mismatches -/

/-- What a setting was asked to be. -/
inductive Kind where
  | text
  | flag
  | count
  deriving DecidableEq, Repr

/-- The words for what was asked for. -/
def Kind.words : Kind → String
  | text => "a string"
  | flag => "a boolean"
  | count => "an integer"

/-- Why a setting is not what it was asked to be. -/
inductive Mismatch where
  | negative (n : Int)
  /-- The number needs more than so many bits. -/
  | tooLarge (n bits : Nat)
  | wrongText (s : String) (expected : Kind)
  | group (expected : Kind)
  | sequence (expected : Kind)
  deriving DecidableEq, Repr

/-- What was found. -/
def Mismatch.found : Mismatch → String
  | negative n => "64-bit integer `" ++ toString n ++ "`"
  | tooLarge n _ => "64-bit unsigned integer `" ++ toString n ++ "`"
  | wrongText s _ => "string " ++ Text.quoted s
  | group _ => "map"
  | sequence _ => "sequence"

/-- What was asked for. -/
def Mismatch.expected : Mismatch → String
  | negative _ => "an unsigned 64 bit or less integer"
  | tooLarge _ bits => "an unsigned " ++ toString bits ++ " bit integer"
  | wrongText _ k | group k | sequence k => k.words

/-- Whether the mismatch is one of a text itself, and not of what was made of it. -/
def Mismatch.isInText : Mismatch → Bool
  | negative _ | wrongText _ _ => true
  | tooLarge _ _ | group _ | sequence _ => false

/-- The text of a mismatch under a name. -/
def Mismatch.message (m : Mismatch) (key : String) : String :=
  "invalid type: " ++ m.found ++ ", expected " ++ m.expected ++ " for key `" ++ key ++ "`" ++
    (if m.isInText then " in the environment" else "")

/-! ## Conversions -/

namespace Setting

/-- A setting as a text. Numbers and flags are written anew. -/
def toText : Setting → Except Mismatch String
  | flag b => .ok (if b then "true" else "false")
  | whole n => .ok (toString n)
  | float x => .ok (Decimal.Layout.plain.write x)
  | text s => .ok s
  | group => .error (.group .text)
  | sequence => .error (.sequence .text)

/-- A setting as a flag: numbers other than zero are true, and some words are read. -/
def toFlag : Setting → Except Mismatch Bool
  | flag b => .ok b
  | whole n => .ok (n != 0)
  | float x => .ok (x != 0)
  | text s =>
    let small := Text.toSmall s
    if small ∈ ["1", "true", "on", "yes"] then .ok true
    else if small ∈ ["0", "false", "off", "no"] then .ok false
    else .error (.wrongText small .flag)
  | group => .error (.group .flag)
  | sequence => .error (.sequence .flag)

/-- The largest number of 64 bits. -/
def largestCount : Nat := Nat.pow 2 64 - 1

/-- A number next to a float, a half going away from zero, within 64 bits without a sign. -/
def countOfFloat (x : Float) : Nat :=
  if x.isNaN || Decimal.isNegative x then 0
  else if !Decimal.isFinite x then largestCount
  else
    let p := Decimal.parts x
    let unit := Nat.pow 2 p.exponent.natAbs
    let n := if p.exponent < 0
      then (2 * p.mantissa + unit) / (2 * unit)
      else p.mantissa * unit
    min n largestCount

/-- A setting as a number of 64 bits without a sign. -/
def toWideCount : Setting → Except Mismatch Nat
  | flag b => .ok (if b then 1 else 0)
  | whole n => if 0 ≤ n then .ok n.toNat else .error (.negative n)
  | float x => .ok (countOfFloat x)
  | text s =>
    let small := Text.toSmall s
    if small ∈ ["true", "on", "yes"] then .ok 1
    else if small ∈ ["false", "off", "no"] then .ok 0
    else .error (.wrongText s .count)
  | group => .error (.group .count)
  | sequence => .error (.sequence .count)

/-- A setting as a number of so many bits without a sign. -/
def toCount (bits : Nat) (s : Setting) : Except Mismatch Nat := do
  let n ← s.toWideCount
  if n < Nat.pow 2 bits then return n else throw (.tooLarge n bits)

end Setting
end UsageFeed.Config
