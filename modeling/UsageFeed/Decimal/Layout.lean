import UsageFeed.Decimal.Shortest

/-!
# `UsageFeed.Decimal.Layout` — writing floats

## Contents
- `Layout`, the choices that a number format makes, and `Layout.write`.
- `Layout.exchange`, the layout of numbers in data sent to others; `Layout.plain`, that of numbers
  in running text.
-/

namespace UsageFeed.Decimal

/-- The choices a number format makes. -/
structure Layout where
  /-- Numbers whose point lies here or further left are written with an exponent, if at all. -/
  exponentAtOrBelow : Option Int
  /-- Numbers whose point lies further right are written with an exponent, if at all. -/
  exponentAbove : Option Int
  /-- Whether a whole number written without exponent ends in `.0`. -/
  wholeTail : Bool
  infinity : String
  notANumber : String
  deriving Repr

/-- A digit as a character. -/
def digitChar (d : Nat) : Char := Char.ofNat (48 + d)

/-- Digits as characters. -/
def digitChars (ds : List Nat) : List Char := ds.map digitChar

/-- Whether a number with its point there is written with an exponent. -/
def Layout.usesExponent (l : Layout) (point : Int) : Bool :=
  (l.exponentAtOrBelow.any fun low => decide (point ≤ low)) ||
  (l.exponentAbove.any fun high => decide (high < point))

/-- Digits with the point among them, ahead of them or after them. -/
def Layout.positional (l : Layout) (d : Digits) : List Char :=
  let n : Int := d.digits.length
  if d.point ≤ 0 then
    ['0', '.'] ++ List.replicate d.point.natAbs '0' ++ digitChars d.digits
  else if n ≤ d.point then
    digitChars d.digits ++ List.replicate (d.point - n).toNat '0' ++
      (if l.wholeTail then ['.', '0'] else [])
  else
    digitChars (d.digits.take d.point.toNat) ++ ['.'] ++ digitChars (d.digits.drop d.point.toNat)

/-- One digit, the others after a point, and a signed exponent. -/
def scientific (d : Digits) : List Char :=
  let e := d.point - 1
  let mantissa := match d.digits with
    | [] => ['0']
    | [a] => [digitChar a]
    | a :: more => digitChar a :: '.' :: digitChars more
  mantissa ++ ['e', if e < 0 then '-' else '+'] ++ (Nat.repr e.natAbs).toList

/-- The characters of a finite float. -/
def Layout.finite (l : Layout) (x : Float) : List Char :=
  let d := shortest x
  let body :=
    if d.digits.isEmpty then '0' :: (if l.wholeTail then ['.', '0'] else [])
    else if l.usesExponent d.point then scientific d
    else l.positional d
  if isNegative x then '-' :: body else body

/-- The text of a float. -/
def Layout.write (l : Layout) (x : Float) : String :=
  if isFinite x then String.ofList (l.finite x)
  else if fractionBits x ≠ 0 then l.notANumber
  else if isNegative x then "-" ++ l.infinity
  else l.infinity

/-- Numbers from 0.00001 up to sixteen digits before the point are written positionally, always with
a point; others with a signed exponent. -/
def Layout.exchange : Layout :=
  { exponentAtOrBelow := some (-5), exponentAbove := some 16, wholeTail := true,
    infinity := "inf", notANumber := "NaN" }

/-- Every number is written positionally, whole ones without a point. -/
def Layout.plain : Layout :=
  { exponentAtOrBelow := none, exponentAbove := none, wholeTail := false,
    infinity := "inf", notANumber := "NaN" }

end UsageFeed.Decimal
