import Mathlib.Tactic.IntervalCases
import UsageFeed.Calendar

/-!
# `UsageFeed.Proofs.CivilDates` — days and the calendar

A day is found from its number by divisions. Here the calendar is said by the lengths of its years and
months alone, and the day that is found is the one which that many days lie before.

## Contents
- **The calendar.** `IsLeap`, `monthLength` and `Date.IsCivil`; `Date.number` counts the days before a
  day, year by year and month by month.
- **Years from March on.** `Date.fromMarch`, the leap day coming last, with `isCivil_fromMarch` and
  `number_fromMarch`.
- **Four centuries.** `InEra`, where the divisions end up, and `exists_fromMarch`.
- **Days.** `isCivil_ofDays`, `number_ofDays`; `Date.Before.number_lt`, days in order have numbers
  in order.
-/

namespace UsageFeed.Calendar

/-! ## The calendar -/

/-- Whether a year has a leap day. -/
def IsLeap (y : Int) : Prop := y % 4 = 0 ∧ (y % 100 ≠ 0 ∨ y % 400 = 0)

instance (y : Int) : Decidable (IsLeap y) := inferInstanceAs (Decidable (_ ∧ _))

/-- The number of days in a year. -/
def yearLength (y : Int) : Nat := if IsLeap y then 366 else 365

/-- The number of days in a month of a year. -/
def monthLength (y : Int) : Nat → Nat
  | 2 => if IsLeap y then 29 else 28
  | 4 | 6 | 9 | 11 => 30
  | _ => 31

/-- A day that the calendar has. -/
structure Date.IsCivil (d : Date) : Prop where
  month : 1 ≤ d.month ∧ d.month ≤ 12
  day : 1 ≤ d.day ∧ d.day ≤ monthLength d.year d.month

/-- The days of all years from year zero up to a year. -/
def daysBeforeYear (y : Nat) : Nat := ((List.range y).map fun (k : Nat) => yearLength k).sum

/-- The days of all months of a year before a month. -/
def daysBeforeMonth (y : Int) (m : Nat) : Nat :=
  ((List.range (m - 1)).map fun k => monthLength y (k + 1)).sum

/-- The number of days before a day, from the first of January of year zero on. -/
def Date.number (d : Date) : Nat :=
  daysBeforeYear d.year.toNat + daysBeforeMonth d.year d.month + (d.day - 1)

theorem sum_map_range_succ (f : Nat → Nat) (n : Nat) :
    ((List.range (n + 1)).map f).sum = ((List.range n).map f).sum + f n := by
  rw [List.range_succ, List.map_append, List.sum_append_nat, List.map_singleton, List.sum_singleton]

theorem daysBeforeYear_succ (y : Nat) :
    daysBeforeYear (y + 1) = daysBeforeYear y + yearLength y := sum_map_range_succ _ y

theorem daysBeforeMonth_succ (y : Int) {m : Nat} (h : 1 ≤ m) :
    daysBeforeMonth y (m + 1) = daysBeforeMonth y m + monthLength y m := by
  obtain ⟨k, rfl⟩ : ∃ k, m = k + 1 := ⟨m - 1, by omega⟩
  exact sum_map_range_succ _ k

theorem yearLength_cases (y : Int) :
    IsLeap y ∧ yearLength y = 366 ∨ ¬ IsLeap y ∧ yearLength y = 365 := by
  unfold yearLength
  split
  · exact .inl ⟨‹_›, rfl⟩
  · exact .inr ⟨‹_›, rfl⟩

/-- The days before a year, by the number of leap days among them. -/
theorem daysBeforeYear_eq (y : Nat) :
    daysBeforeYear y = 365 * y + (y + 3) / 4 - (y + 99) / 100 + (y + 399) / 400 := by
  induction y with
  | zero => rfl
  | succ y ih =>
    have hlength := yearLength_cases y
    unfold IsLeap at hlength
    rw [daysBeforeYear_succ, ih]
    omega

/-! ## Years from March on -/

/-- The day so many days after the first of March of a year, if the next first of March lies further
off. -/
def Date.fromMarch (y : Int) (r : Nat) : Date :=
  let k := (5 * r + 2) / 153
  ⟨if k < 10 then y else y + 1, if k < 10 then k + 3 else k - 9, r - (153 * k + 2) / 5 + 1⟩

/-- From March to January the lengths of the months are those of steps on a line. -/
theorem monthLength_eq (y : Int) {k : Nat} (h : k < 11) :
    monthLength y (if k < 10 then k + 3 else k - 9) =
      (153 * (k + 1) + 2) / 5 - (153 * k + 2) / 5 := by
  interval_cases k <;> rfl

/-- February has what is left of a year. -/
theorem monthLength_february (y : Int) : monthLength y 2 + 337 = yearLength y := by
  rcases yearLength_cases y with ⟨hleap, hlength⟩ | ⟨hleap, hlength⟩
  · rw [hlength, monthLength, if_pos hleap]
  · rw [hlength, monthLength, if_neg hleap]

/-- The days before a month, counted from March on. -/
theorem daysBeforeMonth_eq (y : Int) {k : Nat} (h : k < 12) :
    daysBeforeMonth y (if k < 10 then k + 3 else k - 9) + 306 =
      (153 * k + 2) / 5 + (if k < 10 then yearLength y else 0) := by
  rcases yearLength_cases y with ⟨hleap, hlength⟩ | ⟨hleap, hlength⟩
  all_goals
    rw [hlength]
    interval_cases k <;> simp [daysBeforeMonth, monthLength, hleap, List.range_succ]

/-- A year from March on has as many days as the year that its last month lies in. -/
theorem isCivil_fromMarch {y : Int} {r : Nat} (h : r < yearLength (y + 1)) :
    (Date.fromMarch y r).IsCivil := by
  have hlength := yearLength_cases (y + 1)
  obtain ⟨k, hk⟩ : ∃ k, k = (5 * r + 2) / 153 := ⟨_, rfl⟩
  simp only [Date.fromMarch, ← hk]
  by_cases hlast : k = 11
  · subst hlast
    have hfebruary := monthLength_february (y + 1)
    refine ⟨⟨Nat.le_of_ble_eq_true rfl, Nat.le_of_ble_eq_true rfl⟩, Nat.le_add_left .., ?_⟩
    show r - (153 * 11 + 2) / 5 + 1 ≤ monthLength (y + 1) 2
    omega
  · have hmonth := monthLength_eq (if k < 10 then y else y + 1) (k := k) (by omega)
    constructor
    case month =>
      simp only
      split <;> omega
    case day =>
      simp only [hmonth]
      omega

/-- The first of March of year zero has the number 60. -/
theorem number_fromMarch {y : Int} {r : Nat} (h : r < yearLength (y + 1))
    (hyear : 0 ≤ (Date.fromMarch y r).year) :
    ((Date.fromMarch y r).number : Int) = 365 * y + y / 4 - y / 100 + y / 400 + r + 60 := by
  have hlength := yearLength_cases (y + 1)
  obtain ⟨k, hk⟩ : ∃ k, k = (5 * r + 2) / 153 := ⟨_, rfl⟩
  simp only [Date.fromMarch, ← hk] at hyear
  have hmonths := daysBeforeMonth_eq (if k < 10 then y else y + 1) (k := k) (by omega)
  have hyears := daysBeforeYear_eq (if k < 10 then y else y + 1).toNat
  simp only [Date.number, Date.fromMarch, ← hk]
  -- the last two months from March on belong to the next year
  by_cases hearly : k < 10
  · simp only [hearly, if_true] at *
    have hlength' := yearLength_cases y
    unfold IsLeap at hlength'
    omega
  · simp only [hearly, if_false] at *
    omega

/-! ## Four centuries -/

/-- A day of the four centuries after which the calendar repeats itself: centuries, spans of four
years, years from March on and days that lie before it. -/
structure InEra (n c q p r : Int) : Prop where
  sum : n = 36524 * c + 1461 * q + 365 * p + r
  centuries : 0 ≤ c ∧ c ≤ 3
  fours : 0 ≤ q ∧ q ≤ 24
  years : 0 ≤ p ∧ p ≤ 3
  days : 0 ≤ r ∧ r ≤ 365
  /-- Only the fourth of four years has a leap day, and at the end of a century only the last. -/
  leap : r = 365 → p = 3 ∧ (q ≠ 24 ∨ c = 3)

theorem exists_inEra {n : Int} (h0 : 0 ≤ n) (h1 : n < 146097) : ∃ c q p r, InEra n c q p r := by
  obtain ⟨c, hc⟩ : ∃ c, c = min (n / 36524) 3 := ⟨_, rfl⟩
  obtain ⟨q, hq⟩ : ∃ q, q = (n - 36524 * c) / 1461 := ⟨_, rfl⟩
  obtain ⟨p, hp⟩ : ∃ p, p = min ((n - 36524 * c) % 1461 / 365) 3 := ⟨_, rfl⟩
  exact ⟨c, q, p, n - 36524 * c - 1461 * q - 365 * p, by constructor <;> omega⟩

variable {n c q p r : Int}

/-- Without the leap days that lie before it, the number of a day tells its year. -/
theorem InEra.year (h : InEra n c q p r) :
    (n - n / 1460 + n / 36524 - n / 146096) / 365 = 100 * c + 4 * q + p := by
  obtain ⟨hn, hc, hq, hp, hr, hleap⟩ := h
  -- the last day of four centuries is the one that would make a fifth of them
  have hcenturies : n / 36524 - n / 146096 = c := by
    rcases (by omega : n = 146096 ∧ c = 3 ∨ 1461 * q + 365 * p + r < 36524) with hlast | hbefore
    · omega
    · have hzero : n / 146096 = 0 := by omega
      omega
  have hfours : n / 1460 = 25 * c + q ∧ r ≠ 365 ∨ n / 1460 = 25 * c + q + 1 ∧ 0 < r := by omega
  omega

theorem InEra.dayOfYear (h : InEra n c q p r) :
    n - (365 * (100 * c + 4 * q + p) + (100 * c + 4 * q + p) / 4 - (100 * c + 4 * q + p) / 100) =
      r := by
  obtain ⟨hn, hc, hq, hp, hr, hleap⟩ := h
  have hcenturies : (100 * c + 4 * q + p) / 100 = c := by omega
  omega

/-- A year from March on with a last day more ends in a leap year. -/
theorem InEra.isLeap (h : InEra n c q p r) (hr : r = 365) (e : Int) :
    IsLeap (100 * c + 4 * q + p + e * 400 + 1) := by
  obtain ⟨hp, hend⟩ := h.leap hr
  have hc := h.centuries
  have hq := h.fours
  refine ⟨by omega, ?_⟩
  rcases hend with hend | hend
  · exact .inl (by omega)
  · by_cases hq' : q = 24
    · exact .inr (by omega)
    · exact .inl (by omega)

/-- The divisions find a day in a year from March on. -/
theorem ofDays_eq {days e : Int} {r : Nat} (h : InEra (days + 719468 - 146097 * e) c q p r) :
    Date.ofDays days = Date.fromMarch (100 * c + 4 * q + p + e * 400) r := by
  have hrange : 0 ≤ days + 719468 - 146097 * e ∧ days + 719468 - 146097 * e < 146097 := by
    obtain ⟨hn, hc, hq, hp, hr, -⟩ := h
    omega
  have hera : (days + 719468) / 146097 = e := by omega
  have hrest : (days + 719468) % 146097 = days + 719468 - 146097 * e := by omega
  simp only [Date.ofDays, Date.fromMarch, hera, hrest, h.year, h.dayOfYear]
  have hr := h.days.2
  obtain ⟨k, hk⟩ : ∃ k, k = (5 * r + 2) / 153 := ⟨_, rfl⟩
  have hmonth : (5 * (r : Int) + 2) / 153 = k := by omega
  simp only [hmonth, ← hk]
  rw [Date.mk.injEq]
  by_cases hearly : k < 10
  · simp only [hearly, if_true, Nat.cast_lt_ofNat]
    refine ⟨?_, by omega, by omega⟩
    rw [if_neg (by omega), Int.add_zero]
  · simp only [hearly, if_false, Nat.cast_lt_ofNat]
    refine ⟨?_, by omega, by omega⟩
    rw [if_pos (by omega)]

/-- Every number is that of a day in some year from March on. -/
theorem exists_fromMarch (days : Int) : ∃ (y : Int) (r : Nat), r < yearLength (y + 1) ∧
    365 * y + y / 4 - y / 100 + y / 400 + r = days + 719468 ∧
      Date.ofDays days = Date.fromMarch y r := by
  obtain ⟨e, he⟩ : ∃ e, e = (days + 719468) / 146097 := ⟨_, rfl⟩
  obtain ⟨c, q, p, r, h⟩ := exists_inEra (n := days + 719468 - 146097 * e) (by omega) (by omega)
  obtain ⟨r, rfl⟩ := Int.eq_ofNat_of_zero_le h.days.1
  refine ⟨100 * c + 4 * q + p + e * 400, r, ?_, ?_, ofDays_eq h⟩
  · have hr := h.days.2
    rcases yearLength_cases (100 * c + 4 * q + p + e * 400 + 1) with ⟨-, hlong⟩ | ⟨hshort, hlong⟩
    · omega
    · have hnot : (r : Int) ≠ 365 := fun hlast => hshort (h.isLeap hlast e)
      omega
  · obtain ⟨hn, hc, hq, hp, hr, -⟩ := h
    have hfours : (100 * c + 4 * q + p + e * 400) / 4 = 25 * c + q + 100 * e := by omega
    have hcenturies : (100 * c + 4 * q + p + e * 400) / 100 = c + 4 * e := by omega
    have heras : (100 * c + 4 * q + p + e * 400) / 400 = e := by omega
    omega

/-! ## Days -/

/-- **Every number is that of a day which the calendar has.** -/
theorem isCivil_ofDays (days : Int) : (Date.ofDays days).IsCivil := by
  obtain ⟨y, r, hr, -, heq⟩ := exists_fromMarch days
  rw [heq]
  exact isCivil_fromMarch hr

/-- The number of 1970-01-01, from which days are counted. -/
def epochNumber : Nat := Date.number ⟨1970, 1, 1⟩

theorem epochNumber_eq : epochNumber = 719528 := by
  have hyears : daysBeforeYear (1970 : Int).toNat = 719528 := by
    rw [daysBeforeYear_eq]
    rfl
  have hmonths : daysBeforeMonth 1970 1 = 0 := rfl
  simp only [epochNumber, Date.number, hyears, hmonths]

/-- **The day of a number is the one which that many days lie before**, from year zero on. -/
theorem number_ofDays {days : Int} (h : 0 ≤ days + epochNumber) :
    0 ≤ (Date.ofDays days).year ∧ ((Date.ofDays days).number : Int) = days + epochNumber := by
  obtain ⟨y, r, hr, hsum, heq⟩ := exists_fromMarch days
  rw [epochNumber_eq] at h ⊢
  have hyear : 0 ≤ (Date.fromMarch y r).year := by
    have hlength := yearLength_cases (y + 1)
    simp only [Date.fromMarch]
    split <;> omega
  rw [heq, number_fromMarch hr hyear]
  omega

theorem daysBeforeYear_mono {y z : Nat} (h : y < z) :
    daysBeforeYear y + yearLength y ≤ daysBeforeYear z := by
  induction z with
  | zero => omega
  | succ z ih =>
    rw [daysBeforeYear_succ]
    rcases Nat.lt_succ_iff_lt_or_eq.mp h with hlt | rfl
    · have := ih hlt
      omega
    · exact Nat.le_refl _

theorem daysBeforeMonth_mono (y : Int) {m k : Nat} (hm : 1 ≤ m) (h : m < k) :
    daysBeforeMonth y m + monthLength y m ≤ daysBeforeMonth y k := by
  induction k with
  | zero => omega
  | succ k ih =>
    rcases Nat.lt_succ_iff_lt_or_eq.mp h with hlt | rfl
    · have := ih hlt
      rw [daysBeforeMonth_succ y (by omega : 1 ≤ k)]
      omega
    · rw [daysBeforeMonth_succ y hm]

/-- The months of a year make up the year. -/
theorem daysBeforeMonth_thirteen (y : Int) : daysBeforeMonth y 13 = yearLength y := by
  have hfebruary := monthLength_february y
  have hmarch := daysBeforeMonth_eq y (k := 9) (by decide)
  have hdecember := daysBeforeMonth_succ y (m := 12) (by decide)
  have hlength : monthLength y 12 = 31 := rfl
  simp only [Nat.reduceLT, if_true, Nat.reduceAdd] at hmarch hdecember
  omega

/-- A day lies within its year. -/
theorem Date.IsCivil.number_lt {d : Date} (h : d.IsCivil) :
    d.number < daysBeforeYear d.year.toNat + yearLength d.year := by
  have hmonth := daysBeforeMonth_mono d.year h.month.1 (by have := h.month.2; omega : d.month < 13)
  have hday := h.day
  rw [daysBeforeMonth_thirteen] at hmonth
  unfold Date.number
  omega

/-- A day comes before another in the calendar. -/
def Date.Before (d e : Date) : Prop :=
  d.year < e.year ∨ d.year = e.year ∧
    (d.month < e.month ∨ d.month = e.month ∧ d.day < e.day)

/-- **Days in order have numbers in order.** -/
theorem Date.Before.number_lt {d e : Date} (h : d.Before e) (hd : d.IsCivil)
    (hyear : 0 ≤ d.year) : d.number < e.number := by
  rcases h with hlt | ⟨heq, hlt | ⟨hmonth, hlt⟩⟩
  · have hbefore := hd.number_lt
    have hyears := daysBeforeYear_mono (by omega : d.year.toNat < e.year.toNat)
    rw [Int.toNat_of_nonneg hyear] at hyears
    unfold Date.number at hbefore ⊢
    omega
  · have hmonths := daysBeforeMonth_mono d.year hd.month.1 hlt
    have hday := hd.day
    unfold Date.number
    rw [← heq]
    omega
  · have hday := hd.day
    unfold Date.number
    rw [← heq, ← hmonth]
    omega

end UsageFeed.Calendar
