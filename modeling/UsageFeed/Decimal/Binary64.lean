/-!
# `UsageFeed.Decimal.Binary64` — binary floating point as exact numbers

## Contents
- **Taking apart.** `isFinite`, and `parts`, which writes the size of a finite float as `m · 2^q`
  with whole numbers `m` and `q`.
- **Nearest float.** `nearest num den` is the float next to a ratio, a tie going to the even one;
  every reader of decimal text goes through it.
-/

namespace UsageFeed.Decimal

/-! ## Taking apart -/

/-- The eleven exponent bits. -/
def exponentBits (x : Float) : Nat := (x.toBits.toNat / Nat.pow 2 52) % Nat.pow 2 11

/-- The fifty-two fraction bits. -/
def fractionBits (x : Float) : Nat := x.toBits.toNat % Nat.pow 2 52

/-- The sign bit. -/
def isNegative (x : Float) : Bool := x.toBits.toNat / Nat.pow 2 63 == 1

/-- Neither infinite nor not-a-number. -/
def isFinite (x : Float) : Bool := exponentBits x != 2047

/-- A size `mantissa · 2 ^ exponent`. -/
structure Parts where
  mantissa : Nat
  exponent : Int
  /-- Whether the next smaller float is only half as far away as the next larger one. -/
  onEdge : Bool
  deriving DecidableEq, Repr

/-- The size of a finite float. -/
def parts (x : Float) : Parts :=
  let e := exponentBits x
  let f := fractionBits x
  if e = 0 then ⟨f, -1074, false⟩ else ⟨Nat.pow 2 52 + f, (e : Int) - 1075, f == 0 && 1 < e⟩

/-! ## Nearest float -/

/-- A whole number next to `num / den`, a tie going to the even one. -/
def roundHalfEven (num den : Nat) : Nat :=
  let q := num / den
  let r := num % den
  if 2 * r < den then q else if den < 2 * r then q + 1 else if q % 2 = 0 then q else q + 1

/-- `num / den` in units of `2 ^ q`, to the nearest whole number. -/
def roundAt (num den : Nat) (q : Int) : Nat :=
  let unit := Nat.pow 2 q.natAbs
  if q < 0 then roundHalfEven (num * unit) den else roundHalfEven num (den * unit)

/-- The size of the last mantissa bit of the float next to `num / den`, as a power of two. -/
def lastBit (num den : Nat) : Int :=
  let guess : Int := (num.log2 : Int) - (den.log2 : Int) - 53
  let big : Bool :=
    let unit := Nat.pow 2 guess.natAbs
    if guess < 0 then den * Nat.pow 2 53 ≤ num * unit else den * Nat.pow 2 53 * unit ≤ num
  max (-1074) (if big then guess + 1 else guess)

/-- The float of size `m · 2 ^ q`, for `m ≤ 2 ^ 53` and `-1074 ≤ q`; infinite when too large. -/
def assemble (negative : Bool) (m : Nat) (q : Int) : Float :=
  let (m, q) := if m = Nat.pow 2 53 then (Nat.pow 2 52, q + 1) else (m, q)
  let size : Nat :=
    if m < Nat.pow 2 52 then m
    else if 971 < q then 2047 * Nat.pow 2 52
    else (q + 1075).toNat * Nat.pow 2 52 + (m - Nat.pow 2 52)
  Float.ofBits (UInt64.ofNat ((if negative then Nat.pow 2 63 else 0) + size))

/-- The float next to `num / den`, a tie going to the even one. -/
def nearest (negative : Bool) (num den : Nat) : Float :=
  if num = 0 then assemble negative 0 0
  else
    let q := lastBit num den
    assemble negative (roundAt num den q) q

/-- The float next to a whole number. -/
def ofNat (n : Nat) : Float := nearest false n 1

end UsageFeed.Decimal
