import UsageFeed.Experiment
import UsageFeed.Proofs.CivilDates

/-!
# `UsageFeed.Proofs.Timestamps` — what the timestamp of a trial says

The stamp of an instant is fourteen digits. Read again as a date and a time of day they give back the
second of the instant, so that stamps are compared as the texts they are.

## Contents
- **Digits.** `number`, what digits spell, with `number_padded`; `lt_of_number_lt`: among lists of
  digits of one length, that of the lesser number comes first.
- **Reading.** `stampDate` and `stampClock`, what digits name; `secondOf`, the second of a date and a
  time of day; `Encodes`.
- **Stamps.** `Instant.IsPlain`, the instants of which this is said; `stamp_encodes`, `stamp_lt` and
  `timestamp_encodes`.
-/

namespace UsageFeed
namespace Calendar

/-! ## Digits -/

/-- The number that digits spell. -/
def number (cs : List Char) : Nat := Nat.ofDigitChars 10 cs 0

theorem number_append (a b : List Char) : number (a ++ b) = 10 ^ b.length * number a + number b := by
  rw [number, Nat.ofDigitChars_append, Nat.ofDigitChars_eq_ofDigitChars_zero]
  rfl

theorem number_cons (c : Char) (cs : List Char) :
    number (c :: cs) = 10 ^ cs.length * (c.toNat - 48) + number cs := by
  rw [number, Nat.ofDigitChars_cons, Nat.mul_zero, Nat.zero_add,
    Nat.ofDigitChars_eq_ofDigitChars_zero]
  rfl

theorem number_padded (width n : Nat) : number (padded width n) = n := by
  rw [padded, number_append]
  simp [number, Nat.ofDigitChars_replicate_zero, Nat.ofDigitChars_ten_toDigits]

theorem length_padded {width n : Nat} (hwidth : 0 < width) (h : n < 10 ^ width) :
    (padded width n).length = width := by
  have hshort := (Nat.length_toDigits_le_iff (by decide : 1 < 10) hwidth).mpr h
  simp only [padded, List.length_append, List.length_replicate]
  omega

theorem isDigit_padded {width n : Nat} {c : Char} (h : c ∈ padded width n) : c.isDigit := by
  rcases List.mem_append.mp h with h | h
  · rw [List.eq_of_mem_replicate h]
    rfl
  · exact Nat.isDigit_of_mem_toDigits (by decide) (by decide) h

theorem toNat_of_isDigit {c : Char} (h : c.isDigit) : 48 ≤ c.toNat ∧ c.toNat ≤ 57 := by
  simpa [Char.isDigit, UInt32.le_iff_toNat_le] using h

theorem number_lt {cs : List Char} (h : ∀ c ∈ cs, c.isDigit) : number cs < 10 ^ cs.length := by
  induction cs with
  | nil => decide
  | cons c cs ih =>
    obtain ⟨hc, hcs⟩ := List.forall_mem_cons.mp h
    have hrest := ih hcs
    have hdigit := toNat_of_isDigit hc
    rw [number_cons, List.length_cons, Nat.pow_succ]
    have : 10 ^ cs.length * (c.toNat - 48) ≤ 10 ^ cs.length * 9 :=
      Nat.mul_le_mul_left _ (by omega)
    omega

/-- Among lists of digits of one length, that of the lesser number comes first. -/
theorem lt_of_number_lt {a b : List Char} (ha : ∀ c ∈ a, c.isDigit) (hb : ∀ c ∈ b, c.isDigit)
    (hlength : a.length = b.length) (h : number a < number b) : a < b := by
  induction a generalizing b with
  | nil =>
    rw [List.eq_nil_of_length_eq_zero hlength.symm] at h
    exact absurd h (Nat.lt_irrefl _)
  | cons c a ih =>
    obtain ⟨d, b, rfl⟩ := List.exists_cons_of_length_eq_add_one hlength.symm
    obtain ⟨hc, ha'⟩ := List.forall_mem_cons.mp ha
    obtain ⟨hd, hb'⟩ := List.forall_mem_cons.mp hb
    have hlength' : a.length = b.length := Nat.succ.inj hlength
    rw [number_cons, number_cons, hlength'] at h
    rw [List.cons_lt_cons_iff]
    by_cases heq : c = d
    · subst heq
      exact .inr ⟨rfl, ih ha' hb' hlength' (by omega)⟩
    · refine .inl (show c.toNat < d.toNat from ?_)
      have hne : c.toNat ≠ d.toNat := fun htoNat => heq (Char.toNat_inj.mp htoNat)
      have hrest := number_lt hb'
      have hdigit := toNat_of_isDigit hd
      by_contra hnot
      have hmore : 10 ^ b.length * (d.toNat - 48 + 1) ≤ 10 ^ b.length * (c.toNat - 48) :=
        Nat.mul_le_mul_left _ (by omega)
      rw [Nat.mul_add] at hmore
      omega

/-! ## Reading -/

/-- The number at a place of a text. -/
def field (s : String) (start width : Nat) : Nat := number ((s.toList.drop start).take width)

/-- The day that the digits of a stamp name. -/
def stampDate (s : String) : Date := ⟨field s 0 4, field s 4 2, field s 6 2⟩

/-- The time of day that the digits of a stamp name. -/
def stampClock (s : String) : Clock := ⟨field s 8 2, field s 10 2, field s 12 2⟩

/-- A time of day that clocks show. -/
structure Clock.IsCivil (c : Clock) : Prop where
  hour : c.hour < 24
  minute : c.minute < 60
  second : c.second < 60

/-- The seconds from 1970-01-01 00:00:00 to a time of a day, days being counted one by one. -/
def secondOf (d : Date) (c : Clock) : Int := ((d.number : Int) - epochNumber) * 86400 + c.toSeconds

/-- A text is fourteen digits that name the second of an instant. -/
structure Encodes (s : String) (t : Instant) : Prop where
  length : s.toList.length = 14
  digits : ∀ c ∈ s.toList, c.isDigit
  date : (stampDate s).IsCivil
  clock : (stampClock s).IsCivil
  second : secondOf (stampDate s) (stampClock s) = t.seconds

/-- An instant outside leap seconds, in one of the years from 0 to 9999. -/
structure Instant.IsPlain (t : Instant) : Prop where
  nanos : t.nanos < nanosInSecond
  first : secondOf ⟨0, 1, 1⟩ ⟨0, 0, 0⟩ ≤ t.seconds
  last : t.seconds < secondOf ⟨10000, 1, 1⟩ ⟨0, 0, 0⟩

/-! ## Stamps -/

variable {t t' : Instant}

/-- The clock shows what is left of the seconds after whole days. -/
theorem clock_plain (h : t.IsPlain) :
    t.clock.IsCivil ∧ (t.clock.toSeconds : Int) = t.seconds % 86400 := by
  have hnanos := h.nanos
  have hclock : t.clock = Clock.ofSeconds (t.seconds % 86400).toNat := by
    rw [Instant.clock, if_neg (by omega)]
  rw [hclock]
  refine ⟨⟨?_, ?_, ?_⟩, ?_⟩
  all_goals
    simp only [Clock.ofSeconds, Clock.toSeconds]
    omega

theorem secondOf_newYear (y : Nat) :
    secondOf ⟨y, 1, 1⟩ ⟨0, 0, 0⟩ = ((daysBeforeYear y : Int) - epochNumber) * 86400 := by
  have hmonth : daysBeforeMonth y 1 = 0 := rfl
  have hclock : Clock.toSeconds ⟨0, 0, 0⟩ = 0 := rfl
  simp only [secondOf, Date.number, hmonth, hclock, Int.toNat_natCast]
  omega

/-- The first and the last of the seconds in years of four digits. -/
theorem isPlain_iff : t.IsPlain ↔
    t.nanos < nanosInSecond ∧ -62167219200 ≤ t.seconds ∧ t.seconds < 253402300800 := by
  have hfirst := secondOf_newYear 0
  have hlast := secondOf_newYear 10000
  rw [daysBeforeYear_eq, epochNumber_eq] at hfirst hlast
  constructor
  · rintro ⟨hnanos, h0, h1⟩
    exact ⟨hnanos, hfirst.symm.trans_le h0, h1.trans_eq hlast⟩
  · rintro ⟨hnanos, h0, h1⟩
    exact ⟨hnanos, hfirst.trans_le h0, h1.trans_eq hlast.symm⟩

/-- The date is that of as many whole days. -/
theorem date_plain (h : t.IsPlain) :
    t.date.IsCivil ∧ 0 ≤ t.date.year ∧ t.date.year ≤ 9999 ∧
      (t.date.number : Int) = t.seconds / 86400 + epochNumber := by
  obtain ⟨-, h0, h1⟩ := isPlain_iff.mp h
  have hepoch := epochNumber_eq
  have hdays : 0 ≤ t.seconds / 86400 + epochNumber := by omega
  obtain ⟨hyear, hnumber⟩ := number_ofDays hdays
  refine ⟨isCivil_ofDays _, hyear, ?_, hnumber⟩
  have hyears : daysBeforeYear t.date.year.toNat ≤ t.date.number := by
    unfold Date.number
    omega
  have hnumber' : (t.date.number : Int) = t.seconds / 86400 + epochNumber := hnumber
  rw [daysBeforeYear_eq] at hyears
  omega

/-- The parts of a stamp, each of as many digits as it should have. -/
theorem stamp_plain (h : t.IsPlain) :
    t.stamp.toList = padded 4 t.date.year.toNat ++ (padded 2 t.date.month ++ (padded 2 t.date.day ++
      (padded 2 t.clock.hour ++ (padded 2 t.clock.minute ++ padded 2 t.clock.second)))) := by
  obtain ⟨-, h0, h9999, -⟩ := date_plain h
  have hyear : yearDigits t.date.year = padded 4 t.date.year.toNat := by
    rw [yearDigits, if_pos (by simp [h0, h9999])]
  simp only [Instant.stamp, String.toList_ofList, hyear, List.append_assoc]

/-- What six parts of a text say, the first of four characters and the others of two. -/
theorem fields_parts {s : String} {a b c d e f : List Char}
    (h : s.toList = a ++ (b ++ (c ++ (d ++ (e ++ f))))) (ha : a.length = 4) (hb : b.length = 2)
    (hc : c.length = 2) (hd : d.length = 2) (he : e.length = 2) (hf : f.length = 2) :
    stampDate s = ⟨number a, number b, number c⟩ ∧
      stampClock s = ⟨number d, number e, number f⟩ := by
  simp [stampDate, stampClock, field, h, List.drop_append, ha, hb, hc, hd, he, hf,
    List.take_of_length_le, List.drop_eq_nil_of_le]

/-- The parts of a stamp have as many digits as there is room for. -/
structure Widths (t : Instant) : Prop where
  year : (padded 4 t.date.year.toNat).length = 4
  month : (padded 2 t.date.month).length = 2
  day : (padded 2 t.date.day).length = 2
  hour : (padded 2 t.clock.hour).length = 2
  minute : (padded 2 t.clock.minute).length = 2
  second : (padded 2 t.clock.second).length = 2

theorem monthLength_le (y : Int) (m : Nat) : monthLength y m ≤ 31 := by
  unfold monthLength
  split
  · split <;> omega
  all_goals omega

theorem widths_plain (h : t.IsPlain) : Widths t := by
  obtain ⟨hdate, -, hyear, -⟩ := date_plain h
  obtain ⟨hclock, -⟩ := clock_plain h
  have hmonth := hdate.month
  have hday := hdate.day
  have hlength := monthLength_le t.date.year t.date.month
  have hhour := hclock.hour
  have hminute := hclock.minute
  have hsecond := hclock.second
  constructor <;> exact length_padded (by decide) (by omega)

/-- A stamp read again gives date and time of day. -/
theorem stamp_reads (h : t.IsPlain) : stampDate t.stamp = t.date ∧ stampClock t.stamp = t.clock := by
  have w := widths_plain h
  obtain ⟨-, hyear, -⟩ := date_plain h
  obtain ⟨hdate, hclock⟩ :=
    fields_parts (stamp_plain h) w.year w.month w.day w.hour w.minute w.second
  simp only [number_padded, Int.toNat_of_nonneg hyear] at hdate hclock
  exact ⟨hdate, hclock⟩

/-- **A stamp encodes its instant.** -/
theorem stamp_encodes (h : t.IsPlain) : Encodes t.stamp t := by
  have w := widths_plain h
  obtain ⟨hdate, hclock⟩ := stamp_reads h
  obtain ⟨hcivil, -, -, hnumber⟩ := date_plain h
  obtain ⟨hcivil', hseconds⟩ := clock_plain h
  constructor
  case length =>
    simp [stamp_plain h, w.year, w.month, w.day, w.hour, w.minute, w.second]
  case digits =>
    intro c hc
    simp only [stamp_plain h, List.mem_append] at hc
    rcases hc with hc | hc | hc | hc | hc | hc <;> exact isDigit_padded hc
  case date => rwa [hdate]
  case clock => rwa [hclock]
  case second =>
    rw [hdate, hclock, secondOf]
    omega

/-- The digits of a stamp as one number. -/
theorem number_stamp (h : t.IsPlain) : number t.stamp.toList =
    10 ^ 10 * t.date.year.toNat + 10 ^ 8 * t.date.month + 10 ^ 6 * t.date.day +
      10 ^ 4 * t.clock.hour + 10 ^ 2 * t.clock.minute + t.clock.second := by
  have w := widths_plain h
  simp only [stamp_plain h, number_append, number_padded, List.length_append, w.month, w.day, w.hour,
    w.minute, w.second]
  omega

/-- **Stamps of earlier seconds come first.** -/
theorem stamp_lt (h : t.IsPlain) (h' : t'.IsPlain) (hlt : t.seconds < t'.seconds) :
    t.stamp < t'.stamp := by
  have e := stamp_encodes h
  have e' := stamp_encodes h'
  refine lt_of_number_lt e.digits e'.digits (e.length.trans e'.length.symm) ?_
  rw [number_stamp h, number_stamp h']
  obtain ⟨hdate, h0, -, hnumber⟩ := date_plain h
  obtain ⟨hdate', h0', -, hnumber'⟩ := date_plain h'
  obtain ⟨hclock, hseconds⟩ := clock_plain h
  obtain ⟨hclock', hseconds'⟩ := clock_plain h'
  have hsame : t.date.year = t'.date.year → t.date.month = t'.date.month →
      t.date.day = t'.date.day → t.clock.toSeconds < t'.clock.toSeconds := by
    intro hyears hmonths hdays
    have heq : t.date.number = t'.date.number := by
      rw [Date.number, Date.number, hyears, hmonths, hdays]
    omega
  have hlater : ¬ t'.date.Before t.date := by
    intro hbefore
    have := hbefore.number_lt hdate' h0'
    omega
  have hmonth := hdate.month
  have hday := hdate.day
  have hlength := monthLength_le t.date.year t.date.month
  obtain ⟨hhour, hminute, hsecond⟩ := hclock
  obtain ⟨hhour', hminute', hsecond'⟩ := hclock'
  unfold Clock.toSeconds at hsame
  unfold Date.Before at hlater
  omega

theorem stamp_congr (h : t.IsPlain) (h' : t'.IsPlain) (heq : t.seconds = t'.seconds) :
    t.stamp = t'.stamp := by
  have hclock : t.clock = t'.clock := by
    rw [Instant.clock, Instant.clock, if_neg (Nat.not_le.mpr h.nanos),
      if_neg (Nat.not_le.mpr h'.nanos), heq]
  rw [Instant.stamp, Instant.stamp, Instant.date, Instant.date, hclock, heq]

end Calendar

/-- **The timestamp of a trial encodes the second of its instant**, and timestamps are compared as
texts just as seconds are. -/
theorem timestamp_encodes {t : Calendar.Instant} (h : t.IsPlain) (number : Nat) :
    (Trial.at number t).number = number ∧ Calendar.Encodes (Trial.at number t).timestamp t ∧
      ∀ (t' : Calendar.Instant) (number' : Nat), t'.IsPlain →
        ((Trial.at number t).timestamp = (Trial.at number' t').timestamp ↔
          t.seconds = t'.seconds) ∧
        ((Trial.at number t).timestamp < (Trial.at number' t').timestamp ↔
          t.seconds < t'.seconds) := by
  refine ⟨rfl, Calendar.stamp_encodes h, fun t' number' h' => ?_⟩
  show (t.stamp = t'.stamp ↔ _) ∧ (t.stamp < t'.stamp ↔ _)
  constructor
  · refine ⟨fun heq => ?_, Calendar.stamp_congr h h'⟩
    rcases Int.lt_trichotomy t.seconds t'.seconds with hlt | hsame | hgt
    · exact absurd (Calendar.stamp_lt h h' hlt) (heq ▸ String.lt_irrefl _)
    · exact hsame
    · exact absurd (Calendar.stamp_lt h' h hgt) (heq ▸ String.lt_irrefl _)
  · refine ⟨fun hstamp => ?_, Calendar.stamp_lt h h'⟩
    rcases Int.lt_trichotomy t.seconds t'.seconds with hlt | hsame | hgt
    · exact hlt
    · exact absurd hstamp (Calendar.stamp_congr h h' hsame ▸ String.lt_irrefl _)
    · exact absurd hstamp (String.lt_asymm (Calendar.stamp_lt h' h hgt))

/-- The last second of a leap day and the one after it. -/
theorem timestamp_encodes_leapDay :
    (⟨951868799, 999999999⟩ : Calendar.Instant).IsPlain ∧
      (⟨951868800, 0⟩ : Calendar.Instant).IsPlain ∧
      Calendar.stampDate "20000229235959" = ⟨2000, 2, 29⟩ ∧
      Calendar.Encodes "20000229235959" ⟨951868799, 999999999⟩ ∧
      "20000229235959" < "20000301000000" := by
  have h : (⟨951868799, 999999999⟩ : Calendar.Instant).IsPlain :=
    Calendar.isPlain_iff.mpr (by decide)
  have h' : (⟨951868800, 0⟩ : Calendar.Instant).IsPlain := Calendar.isPlain_iff.mpr (by decide)
  have hstamp : (Trial.at 98 ⟨951868799, 999999999⟩).timestamp = "20000229235959" := by
    decide +kernel
  have hstamp' : (Trial.at 98 ⟨951868800, 0⟩).timestamp = "20000301000000" := by decide +kernel
  obtain ⟨-, hencodes, horder⟩ := timestamp_encodes h 98
  obtain ⟨-, hlt⟩ := horder _ 98 h'
  rw [hstamp] at hencodes hlt
  rw [hstamp'] at hlt
  exact ⟨h, h', by decide +kernel, hencodes, hlt.mpr (by decide)⟩

end UsageFeed
