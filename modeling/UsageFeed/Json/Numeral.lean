import UsageFeed.Json.Cursor
import UsageFeed.Json.Value

/-!
# `UsageFeed.Json.Numeral` — reading JSON numbers

## Contents
- `scaleByTen?`, the float of a whole number and a power of ten, by one multiplication or division.
- `readNumber`, which reads a number after its sign; whole numbers that fit 64 bits stay whole.
- `skipNumber`, which only checks the grammar.
-/

namespace UsageFeed.Json

/-! ## Scaling -/

/-- The greatest number of 64 bits. -/
def maxWord : Nat := Nat.pow 2 64 - 1

/-- `x / 10 ^ e`, dividing by at most `10 ^ 308` at a time; zero stays as it is. -/
def divideByTen (x : Float) (e : Nat) : Float :=
  if e ≤ 308 then x / Decimal.ofNat (Nat.pow 10 e)
  else if x == 0 then x
  else divideByTen (x / Decimal.ofNat (Nat.pow 10 308)) (e - 308)
termination_by e
decreasing_by omega

/-- `n · 10 ^ e` as a float, if it is finite. The whole number and the power are each rounded first,
so the result may lie one step beside the float next to the product. -/
def scaleByTen? (n : Nat) (e : Int) : Option Float :=
  let x := Decimal.ofNat n
  if e < 0 then some (divideByTen x e.natAbs)
  else if 308 < e then if n = 0 then some x else none
  else
    let y := x * Decimal.ofNat (Nat.pow 10 e.natAbs)
    if Decimal.isFinite y then some y else none

/-- The float with a sign put before it. -/
def signed (negative : Bool) (x : Float) : Float := if negative then -x else x

/-- The float `± n · 10 ^ e`, read up to `s`. -/
def scaledNumber (negative : Bool) (n : Nat) (e : Int) (s : List UInt8) : Reading Number :=
  match scaleByTen? n e with
  | some x => .ok (.float (signed negative x), s)
  | none => .error (here .numberOutOfRange s)

/-! ## Parts -/

/-- The value of a digit byte. -/
def digitOf (b : UInt8) : Nat := b.toNat - 0x30

/-- Takes digits into a number as long as it fits 64 bits: the number, how many digits went in, and
the bytes after them. -/
def absorbDigits (n taken : Nat) : List UInt8 → Nat × Nat × List UInt8
  | [] => (n, taken, [])
  | b :: s =>
    if isDigitByte b && 10 * n + digitOf b ≤ maxWord then
      absorbDigits (10 * n + digitOf b) (taken + 1) s
    else (n, taken, b :: s)

/-- The number of digits in front, and the bytes after them. -/
def countDigits (taken : Nat) : List UInt8 → Nat × List UInt8
  | [] => (taken, [])
  | b :: s => if isDigitByte b then countDigits (taken + 1) s else (taken, b :: s)

/-- The bytes after leading digits. -/
def skipDigits (s : List UInt8) : List UInt8 := s.dropWhile isDigitByte

/-- The greatest exponent that is read digit by digit. -/
def maxExponent : Nat := Nat.pow 2 31 - 1

/-- Reads the digits of an exponent. The flag tells that they went past `maxExponent`, and then the
bytes start after the digit that did. -/
def exponentDigits (e : Nat) : List UInt8 → Nat × Bool × List UInt8
  | [] => (e, false, [])
  | b :: s =>
    if isDigitByte b then
      if maxExponent < 10 * e + digitOf b then (e, true, s)
      else exponentDigits (10 * e + digitOf b) s
    else (e, false, b :: s)

/-- Whether a byte starts an exponent. -/
def isExponentMark (b : UInt8) : Bool := b == 0x65 || b == 0x45

/-- Takes the sign of an exponent: whether it is a minus, and the bytes after it. -/
def exponentSign : List UInt8 → Bool × List UInt8
  | [] => (false, [])
  | b :: s => if b = 0x2D then (true, s) else if b = 0x2B then (false, s) else (false, b :: s)

/-! ## Reading -/

/-- Reads an exponent after its mark, for the number `± n · 10 ^ e`. -/
def readExponent (negative : Bool) (n : Nat) (e : Int) (s : List UInt8) : Reading Number :=
  let (down, s) := exponentSign s
  match s with
  | [] => .error (here .endInValue [])
  | b :: s =>
    if !isDigitByte b then .error (here .invalidNumber s)
    else
      match exponentDigits (digitOf b) s with
      | (_, true, s) =>
        if n ≠ 0 && !down then .error (here .numberOutOfRange s)
        else .ok (.float (signed negative 0), skipDigits s)
      | (k, false, s) => scaledNumber negative n (if down then e - k else e + k) s

/-- Reads what may follow the digits of `± n · 10 ^ e`: an exponent or nothing. -/
def readAfterFraction (negative : Bool) (n : Nat) (e : Int) : List UInt8 → Reading Number
  | [] => scaledNumber negative n e []
  | b :: s =>
    if isExponentMark b then readExponent negative n e s else scaledNumber negative n e (b :: s)

/-- Reads the digits after a point. Those that no longer fit are passed over. -/
def readFraction (negative : Bool) (n : Nat) (e : Int) (s : List UInt8) : Reading Number :=
  let (m, taken, r) := absorbDigits n 0 s
  let rest := skipDigits r
  if rest.length = s.length then
    .error (ahead (if s.isEmpty then .endInValue else .invalidNumber) s)
  else readAfterFraction negative m (e - taken) rest

/-- Reads what follows the whole part `n`, of which `dropped` further digits did not fit. -/
def readAfterWhole (negative : Bool) (n dropped : Nat) (s : List UInt8) : Reading Number :=
  let whole : Reading Number :=
    if dropped ≠ 0 then scaledNumber negative n dropped s
    else if !negative then .ok (.whole n, s)
    else if n = 0 || Nat.pow 2 63 < n then .ok (.float (-(Decimal.ofNat n)), s)
    else .ok (.whole (-(n : Int)), s)
  match s with
  | [] => whole
  | b :: r =>
    if b = 0x2E then readFraction negative n dropped r
    else if isExponentMark b then readExponent negative n dropped r
    else whole

/-- Reads a number after its sign. -/
def readNumber (negative : Bool) : List UInt8 → Reading Number
  | [] => .error (here .endInValue [])
  | b :: s =>
    if b = 0x30 then
      match s with
      | d :: _ =>
        if isDigitByte d then .error (ahead .invalidNumber s) else readAfterWhole negative 0 0 s
      | [] => readAfterWhole negative 0 0 s
    else if isDigitByte b then
      let (n, _, r) := absorbDigits 0 0 (b :: s)
      let (dropped, rest) := countDigits 0 r
      readAfterWhole negative n dropped rest
    else .error (here .invalidNumber s)

/-! ## Passing over -/

/-- Passes over an exponent after its mark. -/
def skipExponent (s : List UInt8) : Except Fault (List UInt8) :=
  match (exponentSign s).2 with
  | [] => .error (here .invalidNumber [])
  | b :: s => if isDigitByte b then .ok (skipDigits s) else .error (here .invalidNumber s)

/-- Passes over an exponent, if one stands here. -/
def skipAfterFraction : List UInt8 → Except Fault (List UInt8)
  | [] => .ok []
  | b :: s => if isExponentMark b then skipExponent s else .ok (b :: s)

/-- Passes over what may follow the whole part of a number. -/
def skipAfterWhole : List UInt8 → Except Fault (List UInt8)
  | [] => .ok []
  | b :: s =>
    if b = 0x2E then
      match s with
      | d :: s =>
        if isDigitByte d then skipAfterFraction (skipDigits s)
        else .error (ahead .invalidNumber (d :: s))
      | [] => .error (ahead .invalidNumber [])
    else skipAfterFraction (b :: s)

/-- Passes over a number after its sign. -/
def skipNumber : List UInt8 → Except Fault (List UInt8)
  | [] => .error (here .invalidNumber [])
  | b :: s =>
    if b = 0x30 then
      match s with
      | d :: _ => if isDigitByte d then .error (ahead .invalidNumber s) else skipAfterWhole s
      | [] => .ok []
    else if isDigitByte b then skipAfterWhole (skipDigits s)
    else .error (here .invalidNumber s)

end UsageFeed.Json
