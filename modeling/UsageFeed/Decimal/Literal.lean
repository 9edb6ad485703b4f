import UsageFeed.Decimal.Binary64

/-!
# `UsageFeed.Decimal.Literal` — reading floats

## Contents
- `Literal`, a decimal number as written: sign, digits before and after the point, exponent.
- `Literal.value`, the float next to it.
- `readFloat?`, which reads a whole text as a number, an infinity or not-a-number.
-/

namespace UsageFeed.Decimal

/-- A decimal number `± whole.fraction · 10 ^ exponent`. -/
structure Literal where
  negative : Bool
  whole : List Nat
  fraction : List Nat
  exponent : Int
  deriving DecidableEq, Repr

/-- The number that digits spell. -/
def natOfDigits (ds : List Nat) : Nat := ds.foldl (fun n d => 10 * n + d) 0

/-- The float next to `± m · 10 ^ e`. Exponents that no float reaches are settled by size alone. -/
def nearestScaled (negative : Bool) (m : Nat) (e : Int) : Float :=
  if m = 0 then nearest negative 0 1
  else if e < 0 then
    if (m.log2 : Int) / 3 + 1 + e < -330 then nearest negative 0 1
    else nearest negative m (Nat.pow 10 e.natAbs)
  else if 310 < e then assemble negative (Nat.pow 2 52) 972
  else nearest negative (m * Nat.pow 10 e.natAbs) 1

/-- The float next to the number that a literal writes. -/
def Literal.value (l : Literal) : Float :=
  nearestScaled l.negative (natOfDigits (l.whole ++ l.fraction)) (l.exponent - l.fraction.length)

/-- The value of a decimal digit. -/
def digitValue? (c : Char) : Option Nat := if c.isDigit then some (c.toNat - 48) else none

/-- Takes the decimal digits off the front. -/
def takeDigits : List Char → List Nat × List Char
  | [] => ([], [])
  | c :: s =>
    match digitValue? c with
    | some d => let (ds, rest) := takeDigits s; (d :: ds, rest)
    | none => ([], c :: s)

/-- Takes a sign off the front: whether it was a minus, and the rest. -/
def takeSign : List Char → Bool × List Char
  | '-' :: s => (true, s)
  | '+' :: s => (false, s)
  | s => (false, s)

/-- Reads an exponent: nothing, or `e` or `E` with a signed whole number. -/
def readExponent? : List Char → Option Int
  | [] => some 0
  | c :: s =>
    if c == 'e' || c == 'E' then
      let (negative, s) := takeSign s
      match takeDigits s with
      | ([], _) => none
      | (ds, []) => some (if negative then -(natOfDigits ds : Int) else natOfDigits ds)
      | (_, _ :: _) => none
    else none

/-- Reads an unsigned number: digits with at most one point among or beside them, and at least one
digit; then an optional exponent. -/
def readUnsigned? (negative : Bool) (s : List Char) : Option Literal :=
  let (whole, s) := takeDigits s
  let (fraction, s) := match s with
    | '.' :: s => takeDigits s
    | s => ([], s)
  if whole.isEmpty && fraction.isEmpty then none
  else (readExponent? s).map fun e => ⟨negative, whole, fraction, e⟩

/-- The signed infinity. -/
def infinity (negative : Bool) : Float := assemble negative (Nat.pow 2 52) 972

/-- Not a number. -/
def notANumber : Float := Float.ofBits 0x7FF8000000000000

/-- The names of what is no ordinary number, in small letters. -/
def special? (negative : Bool) (s : List Char) : Option Float :=
  match String.ofList (s.map Char.toLower) with
  | "inf" => some (infinity negative)
  | "infinity" => some (infinity negative)
  | "nan" => some (if negative then -notANumber else notANumber)
  | _ => none

/-- Reads a whole text as a float: an optional sign, then a decimal number or, in any case, `inf`,
`infinity` or `nan`. -/
def readFloat? (s : List Char) : Option Float :=
  let (negative, s) := takeSign s
  match readUnsigned? negative s with
  | some l => some l.value
  | none => special? negative s

/-- Reads a whole text as an integer: an optional sign and digits. -/
def readInt? (s : List Char) : Option Int :=
  let (negative, s) := takeSign s
  match takeDigits s with
  | ([], _) => none
  | (ds, []) => some (if negative then -(natOfDigits ds : Int) else natOfDigits ds)
  | (_, _ :: _) => none

end UsageFeed.Decimal
