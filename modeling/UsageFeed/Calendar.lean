/-!
# `UsageFeed.Calendar` — instants and their written form

## Contents
- `Date` and `Clock`, a day of the proleptic Gregorian calendar and a time of day.
- `Date.ofDays`, days counted from 1970-01-01.
- `Instant` with `Instant.stamp`, its digits from year to second, and `Instant.marked`.
-/

namespace UsageFeed.Calendar

/-! ## Days -/

/-- A day. -/
structure Date where
  year : Int
  month : Nat
  day : Nat
  deriving DecidableEq, Repr

/-- The day that lies so many days after 1970-01-01. Years are taken to begin in March, so that the
leap day is the last of its year. -/
def Date.ofDays (days : Int) : Date :=
  let z := days + 719468
  let era := z / 146097
  let dayOfEra := z % 146097
  let yearOfEra := (dayOfEra - dayOfEra / 1460 + dayOfEra / 36524 - dayOfEra / 146096) / 365
  let dayOfYear := dayOfEra - (365 * yearOfEra + yearOfEra / 4 - yearOfEra / 100)
  let monthFromMarch := (5 * dayOfYear + 2) / 153
  let day := dayOfYear - (153 * monthFromMarch + 2) / 5 + 1
  let month := if monthFromMarch < 10 then monthFromMarch + 3 else monthFromMarch - 9
  let year := yearOfEra + era * 400 + (if month ≤ 2 then 1 else 0)
  ⟨year, month.toNat, day.toNat⟩

/-! ## Times of day -/

/-- A time of day. -/
structure Clock where
  hour : Nat
  minute : Nat
  second : Nat
  deriving DecidableEq, Repr

/-- The seconds since midnight. -/
def Clock.toSeconds (c : Clock) : Nat := c.hour * 3600 + c.minute * 60 + c.second

/-- The time of day so many seconds after midnight. -/
def Clock.ofSeconds (n : Nat) : Clock := ⟨n / 3600, n / 60 % 60, n % 60⟩

/-! ## Instants -/

/-- The nanoseconds of a second. -/
def nanosInSecond : Nat := 1000000000

/-- A point in time: seconds since 1970-01-01 00:00:00 UTC, and nanoseconds into the second. A leap
second shows as nanoseconds past those of a second. -/
structure Instant where
  seconds : Int
  nanos : Nat := 0
  deriving DecidableEq, Repr

/-- The day of an instant. -/
def Instant.date (t : Instant) : Date := Date.ofDays (t.seconds / 86400)

/-- The time of day of an instant; within a leap second it shows second 60. -/
def Instant.clock (t : Instant) : Clock :=
  let c := Clock.ofSeconds (t.seconds % 86400).toNat
  if nanosInSecond ≤ t.nanos then { c with second := c.second + 1 } else c

/-! ## Digits -/

/-- A number in at least `width` digits. -/
def padded (width n : Nat) : List Char :=
  let ds := Nat.toDigits 10 n
  List.replicate (width - ds.length) '0' ++ ds

/-- A year in four digits, or with a sign and at least four when it has more or lies before year
zero. -/
def yearDigits (y : Int) : List Char :=
  if 0 ≤ y && y ≤ 9999 then padded 4 y.toNat
  else (if y < 0 then '-' else '+') :: padded 4 y.natAbs

/-- Year, month, day, hour, minute and second, without anything between them. -/
def Instant.stamp (t : Instant) : String :=
  let d := t.date
  let c := t.clock
  String.ofList (yearDigits d.year ++ padded 2 d.month ++ padded 2 d.day ++ padded 2 c.hour ++
    padded 2 c.minute ++ padded 2 c.second)

/-- Date and time to the millionth of a second, with marks between the parts. -/
def Instant.marked (t : Instant) : String :=
  let d := t.date
  let c := t.clock
  String.ofList (yearDigits d.year ++ '-' :: padded 2 d.month ++ '-' :: padded 2 d.day ++
    'T' :: padded 2 c.hour ++ ':' :: padded 2 c.minute ++ ':' :: padded 2 c.second ++
    '.' :: padded 6 (t.nanos % nanosInSecond / 1000) ++ ['Z'])

end UsageFeed.Calendar
