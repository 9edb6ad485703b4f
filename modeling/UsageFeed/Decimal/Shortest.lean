import UsageFeed.Decimal.Binary64

/-!
# `UsageFeed.Decimal.Shortest` — the fewest digits that read back

## Contents
- `Digits`, a decimal number as its significant digits and the place of its point.
- `shortest`, the decimal of fewest digits within the interval of numbers that read as a given
  float; of several the one next to it.
-/

namespace UsageFeed.Decimal

/-- The number `0.d₁d₂… · 10 ^ point`, without leading or trailing zero digits; none for zero. -/
structure Digits where
  digits : List Nat
  point : Int
  deriving DecidableEq, Repr

/-- The decimal digits of a number, most significant first; none for zero. -/
def digitsOf (n : Nat) : List Nat :=
  if _h : n = 0 then [] else digitsOf (n / 10) ++ [n % 10]
termination_by n
decreasing_by omega

/-- The digits without the zeros at the end. -/
def dropTrailingZeros (ds : List Nat) : List Nat := (ds.reverse.dropWhile (· == 0)).reverse

/-- A decimal from its digits, most significant first and the first of them not zero. -/
def Digits.ofList (ds : List Nat) (point : Int) : Digits := ⟨dropTrailingZeros ds, point⟩

/-- `num / den` counted in units of `10 ^ k`, as a ratio. -/
def scaled (num den : Nat) (k : Int) : Nat × Nat :=
  let unit := Nat.pow 10 k.natAbs
  if k < 0 then (num * unit, den) else (num, den * unit)

/-- The least number of times that `num` has to be multiplied by ten to reach `den`. -/
def timesTen : Nat → Nat → Nat → Nat
  | 0, _, _ => 0
  | fuel + 1, num, den => if den ≤ num then 0 else timesTen fuel (num * 10) den + 1

/-- The place of the point of `num / den`: the `p` with `10 ^ (p - 1) ≤ num / den < 10 ^ p`. -/
def pointOf (num den : Nat) : Int :=
  if den ≤ num then ((digitsOf (num / den)).length : Int) else 1 - (timesTen 400 num den : Int)

/-- The interval of numbers that read as one float, in some unit: its value and its ends. -/
structure Interval where
  low : Nat
  value : Nat
  high : Nat
  /-- The unit is one over this. -/
  unit : Nat
  /-- Whether the ends themselves belong to it. -/
  closed : Bool

/-- The numbers that read as the float of the given parts. -/
def Interval.ofParts (p : Parts) : Interval :=
  let q := p.exponent - 2
  let size := Nat.pow 2 q.natAbs
  let (up, unit) := if q < 0 then (1, size) else (size, 1)
  { low := (4 * p.mantissa - (if p.onEdge then 1 else 2)) * up
    value := 4 * p.mantissa * up
    high := (4 * p.mantissa + 2) * up
    unit := unit
    closed := p.mantissa % 2 == 0 }

/-- Whether `d · 10 ^ k` lies in the interval. -/
def Interval.holds (i : Interval) (d : Nat) (k : Int) : Bool :=
  let (lowNum, lowDen) := scaled i.low i.unit k
  let (highNum, highDen) := scaled i.high i.unit k
  if i.closed then lowNum ≤ d * lowDen && d * highDen ≤ highNum
  else lowNum < d * lowDen && d * highDen < highNum

/-- The multiple of `10 ^ k` in the interval that is next to its value, as a multiplier. -/
def Interval.onGrid? (i : Interval) (k : Int) : Option Nat :=
  let (num, den) := scaled i.value i.unit k
  let d := num / den
  let r := num % den
  match i.holds d k, i.holds (d + 1) k with
  | true, true => some (if 2 * r < den || (2 * r == den && d % 2 == 0) then d else d + 1)
  | true, false => some d
  | false, true => some (d + 1)
  | false, false => none

/-- Tries grids of ever more digits, from `n` digits on, for a value with its point at `point`. -/
def Interval.search (i : Interval) (point : Int) : Nat → Nat → Digits
  | 0, _ => ⟨[], 0⟩
  | fuel + 1, n =>
    match i.onGrid? (point - n) with
    | some d =>
      let ds := digitsOf d
      Digits.ofList ds (point - n + ds.length)
    | none => i.search point fuel (n + 1)

/-- The fewest digits that read back as a finite float without its sign. -/
def shortest (x : Float) : Digits :=
  let p := parts x
  if p.mantissa = 0 then ⟨[], 0⟩
  else
    let i := Interval.ofParts p
    i.search (pointOf i.value i.unit) 20 1

end UsageFeed.Decimal
