import BearerAuth.Time.Instant
import Mathlib.Tactic.IntervalCases

/-!
# Days and dates

The date with a number of days is a date that exists, and counting the days to
it gives that number again. Years are counted from March here, so that the leap
day is the last day of its year; four hundred years have 146097 days.

- `CycleDay`: the place of a day among the days of four hundred years, as
  century, four years, year and day.
- `Date.dayNumber_ofDayNumber`: the days to the date with a number of days.
- `Date.valid_ofDayNumber`: the date with a number of days exists.
- `Date.year_lt_iff`: the days before a year have dates in earlier years.
-/

namespace BearerAuth.Time

/-- The place of a day among the days of four hundred years that start in March:
the centuries, four-year spans and years before it, and the days of its year
before it. Only the last year of a span can have a 366th day, and the last span
of a century has one in the last century only. -/
structure CycleDay (day century span year rest : Int) : Prop where
  days : day = 36524 * century + 1461 * span + 365 * year + rest
  centuries : 0 ≤ century ∧ century ≤ 3
  spans : 0 ≤ span ∧ span ≤ 24
  years : 0 ≤ year ∧ year ≤ 3
  rests : 0 ≤ rest ∧ rest ≤ 365
  leap : rest = 365 → year = 3 ∧ (span = 24 → century = 3)

/-- Every day of four hundred years has a place. -/
theorem exists_cycleDay {day : Int} (h : 0 ≤ day ∧ day ≤ 146096) :
    ∃ century span year rest, CycleDay day century span year rest := by
  obtain ⟨century, hcentury⟩ : ∃ c, c = min 3 (day / 36524) := ⟨_, rfl⟩
  obtain ⟨later, hlater⟩ : ∃ d, d = day - 36524 * century := ⟨_, rfl⟩
  have hlaterBounds : 0 ≤ later ∧ later ≤ 36524 ∧ (later = 36524 → century = 3) := by omega
  obtain ⟨span, hspan⟩ : ∃ s, s = later / 1461 := ⟨_, rfl⟩
  obtain ⟨last, hlast⟩ : ∃ d, d = later - 1461 * span := ⟨_, rfl⟩
  have hlastBounds : 0 ≤ last ∧ last ≤ 1460 := by omega
  obtain ⟨year, hyear⟩ : ∃ y, y = min 3 (last / 365) := ⟨_, rfl⟩
  refine ⟨century, span, year, last - 365 * year, ?_⟩
  exact {
    days := by omega
    centuries := by omega
    spans := by omega
    years := by omega
    rests := by omega
    leap := by omega }

namespace CycleDay

variable {day century span year rest : Int} (h : CycleDay day century span year rest)
include h

/-- The years before a day can be read off the days before it. -/
theorem year_eq :
    (day - day / 1460 + day / 36524 - day / 146096) / 365 = 100 * century + 4 * span + year := by
  obtain ⟨heq, hcentury, hspan, hyear, hrest, hleap⟩ := h
  -- one day more than 365 for each span, one less for each century but the last
  have hlast : day / 36524 - day / 146096 = century := by
    by_cases hend : day = 146096
    · omega
    · have hfirst : day / 146096 = 0 := by omega
      have hcenturies : day / 36524 = century := by omega
      omega
  by_cases hlong : 1460 ≤ 24 * century + span + 365 * year + rest
  · have hspans : day / 1460 = 25 * century + span + 1 := by omega
    omega
  · have hspans : day / 1460 = 25 * century + span := by omega
    omega

/-- The days of the year before a day. -/
theorem rest_eq {years : Int} (hyears : years = 100 * century + 4 * span + year) :
    day - (365 * years + years / 4 - years / 100) = rest := by
  obtain ⟨heq, hcentury, hspan, hyear, hrest, -⟩ := h
  have hspans : years / 4 = 25 * century + span := by omega
  have hcenturies : years / 100 = century := by omega
  omega

/-- The month, counted from March, that a day of the year lies in. -/
theorem month_bounds : 0 ≤ (5 * rest + 2) / 153 ∧ (5 * rest + 2) / 153 ≤ 11 := by
  have hrest := h.rests
  omega

/-- A year whose last day is its 366th, counted from March, ends in the February
of a leap year. -/
theorem isLeapYear_of_rest (hrest : rest = 365) (era : Int) :
    isLeapYear (100 * century + 4 * span + year + 400 * era + 1) = true := by
  obtain ⟨hyear, hspan⟩ := h.leap hrest
  have hspans := h.spans
  rw [isLeapYear, Bool.and_eq_true, Bool.or_eq_true, beq_iff_eq, bne_iff_ne, beq_iff_eq]
  refine ⟨by omega, ?_⟩
  by_cases hlast : span = 24
  · exact .inr (by omega)
  · exact .inl (by omega)

end CycleDay

namespace Date

/-- The date in a year that starts in March, with the months and the days before
it. -/
def ofMarch (year month day : Int) : Date where
  year := year + (if 10 ≤ month then 1 else 0)
  month := (if 10 ≤ month then month - 9 else month + 3).toNat
  day := (day + 1).toNat

/-- The days to a year that starts in March. -/
def marchDays (year : Int) : Int :=
  365 * year + year / 4 - year / 100 + year / 400 - 719468

/-- Counted from March on, the days before a month follow one formula for all years, as the
day that leap years add comes last. -/
theorem dayNumber_ofMarch (year : Int) {month day : Int} (hmonth : 0 ≤ month ∧ month ≤ 11)
    (hday : 0 ≤ day) :
    (ofMarch year month day).dayNumber = marchDays year + (153 * month + 2) / 5 + day := by
  obtain ⟨hlow, hhigh⟩ := hmonth
  have hdays : ((day + 1).toNat : Int) = day + 1 := Int.toNat_of_nonneg (by omega)
  -- January and February are the last months of a year that starts in March
  by_cases hlate : 10 ≤ month
  · have hnumber : ((month - 9).toNat : Int) = month - 9 := Int.toNat_of_nonneg (by omega)
    simp only [dayNumber, ofMarch, marchDays, if_pos hlate]
    rw [if_pos (by omega), if_pos (by omega), hnumber, hdays, Int.add_sub_cancel,
      Int.sub_add_cancel]
    omega
  · have hnumber : ((month + 3).toNat : Int) = month + 3 := Int.toNat_of_nonneg (by omega)
    simp only [dayNumber, ofMarch, marchDays, if_neg hlate]
    rw [if_neg (by omega), if_neg (by omega), hnumber, hdays, Int.add_zero, Int.add_sub_cancel]
    omega

/-- Counted from March, every month but February ends where the next one
starts. -/
theorem daysInMonth_fromMarch (year : Int) {month : Int} (h : 0 ≤ month ∧ month ≤ 10) :
    (daysInMonth year (if 10 ≤ month then month - 9 else month + 3).toNat : Int) =
      (153 * (month + 1) + 2) / 5 - (153 * month + 2) / 5 := by
  obtain ⟨hlow, hhigh⟩ := h
  interval_cases month <;> rfl

theorem le_daysInMonth_february (year : Int) : 28 ≤ daysInMonth year 2 := by
  show 28 ≤ if isLeapYear year then 29 else 28
  split <;> decide

theorem daysInMonth_of_isLeapYear {year : Int} (h : isLeapYear year = true) :
    daysInMonth year 2 = 29 :=
  if_pos h

end Date

namespace CycleDay

variable {day century span year rest : Int} (h : CycleDay day century span year rest)
include h

/-- The days before a year, taken apart into centuries, spans of four years and single
years. -/
theorem marchDays_eq (era : Int) :
    Date.marchDays (100 * century + 4 * span + year + 400 * era) + rest =
      146097 * era + day - 719468 := by
  obtain ⟨hdays, hcentury, hspan, hyear, hrest, -⟩ := h
  have hspans : (100 * century + 4 * span + year + 400 * era) / 4 =
      25 * century + span + 100 * era := by omega
  have hcenturies : (100 * century + 4 * span + year + 400 * era) / 100 = century + 4 * era := by
    omega
  have heras : (100 * century + 4 * span + year + 400 * era) / 400 = era := by omega
  rw [Date.marchDays, hspans, hcenturies, heras]
  omega

/-- The date with a number of days, once the place of its day is known. -/
theorem ofDayNumber_eq {days : Int} (hday : day = (days + 719468) % 146097) :
    Date.ofDayNumber days =
      .ofMarch (100 * century + 4 * span + year + 400 * ((days + 719468) / 146097))
        ((5 * rest + 2) / 153) (rest - (153 * ((5 * rest + 2) / 153) + 2) / 5) := by
  subst hday
  simp only [Date.ofDayNumber, h.year_eq, h.rest_eq rfl, Date.ofMarch]

end CycleDay

namespace Date

theorem daysInMonth_le (year : Int) (month : Nat) : daysInMonth year month ≤ 31 := by
  unfold daysInMonth
  split
  case h_12 => split <;> decide
  all_goals decide

theorem daysInMonth_of_lt (year : Int) {month : Nat} (h : 12 < month) :
    daysInMonth year month = 0 := by
  unfold daysInMonth
  split <;> omega

/-- An existing date has its month among twelve and its day among thirty-one. -/
theorem Valid.le {d : Date} (h : d.Valid) : d.month ≤ 12 ∧ d.day ≤ 31 := by
  obtain ⟨hfirst, hlast⟩ := h
  refine ⟨Nat.not_lt.1 fun hmonth => ?_, Nat.le_trans hlast (daysInMonth_le _ _)⟩
  have hnone := daysInMonth_of_lt d.year hmonth
  omega

/-- The days to the date with a number of days. -/
theorem dayNumber_ofDayNumber (days : Int) : (ofDayNumber days).dayNumber = days := by
  obtain ⟨day, hday⟩ : ∃ d, d = (days + 719468) % 146097 := ⟨_, rfl⟩
  have hcycle : 0 ≤ day ∧ day ≤ 146096 := by omega
  obtain ⟨century, span, year, rest, h⟩ := exists_cycleDay hcycle
  have hrest := h.rests
  rw [h.ofDayNumber_eq hday, dayNumber_ofMarch _ h.month_bounds (by omega)]
  have hyears := h.marchDays_eq ((days + 719468) / 146097)
  omega

/-- The date with a number of days exists. -/
theorem valid_ofDayNumber (days : Int) : (ofDayNumber days).Valid := by
  obtain ⟨day, hday⟩ : ∃ d, d = (days + 719468) % 146097 := ⟨_, rfl⟩
  have hcycle : 0 ≤ day ∧ day ≤ 146096 := by omega
  obtain ⟨century, span, year, rest, h⟩ := exists_cycleDay hcycle
  obtain ⟨hmonthLow, hmonthHigh⟩ := h.month_bounds
  have hrest := h.rests
  rw [h.ofDayNumber_eq hday, Valid, ofMarch]
  dsimp only
  refine ⟨by omega, ?_⟩
  by_cases hfebruary : (5 * rest + 2) / 153 = 11
  · rw [hfebruary]
    show (rest - 337 + 1).toNat ≤ daysInMonth (_ + 1) 2
    by_cases hleap : rest = 365
    · rw [daysInMonth_of_isLeapYear (h.isLeapYear_of_rest hleap _)]
      omega
    · refine Nat.le_trans ?_ (le_daysInMonth_february _)
      omega
  · have hmonth : 0 ≤ (5 * rest + 2) / 153 ∧ (5 * rest + 2) / 153 ≤ 10 := by omega
    have hlength := daysInMonth_fromMarch
      (100 * century + 4 * span + year + 400 * ((days + 719468) / 146097) +
        (if 10 ≤ (5 * rest + 2) / 153 then 1 else 0)) hmonth
    omega

theorem marchDays_mono {earlier later : Int} (h : earlier ≤ later) :
    marchDays earlier ≤ marchDays later := by
  unfold marchDays
  omega

/-- A year has at least 365 days. -/
theorem marchDays_succ (year : Int) : marchDays year + 365 ≤ marchDays (year + 1) := by
  unfold marchDays
  omega

/-- The new year begins 306 days after the first of March before it. -/
theorem dayNumber_newYear (year : Int) :
    dayNumber ⟨year, 1, 1⟩ = marchDays (year - 1) + 306 := by
  have hdate : (⟨year, 1, 1⟩ : Date) = ofMarch (year - 1) 10 0 := by
    simp [ofMarch]
  rw [hdate, dayNumber_ofMarch _ (by decide) (by decide)]
  omega

/-- Every date of a year, or of a later one, comes after its first of January. -/
theorem dayNumber_newYear_le {d : Date} {year : Int} (h : d.Valid) (hyear : year ≤ d.year) :
    dayNumber ⟨year, 1, 1⟩ ≤ d.dayNumber := by
  have hmonth : 1 ≤ d.month := by
    refine Nat.one_le_iff_ne_zero.2 fun hzero => ?_
    have hnone : daysInMonth d.year d.month = 0 := by rw [hzero]; rfl
    have hvalid := Nat.le_trans h.1 h.2
    omega
  have hday := h.1
  rw [dayNumber_newYear]
  by_cases hearly : d.month ≤ 2
  · have hyears := marchDays_mono (show year - 1 ≤ d.year - 1 by omega)
    simp only [dayNumber, if_pos hearly, marchDays] at hyears ⊢
    omega
  · have hyears := marchDays_mono (show year - 1 + 1 ≤ d.year by omega)
    have hlength := marchDays_succ (year - 1)
    simp only [dayNumber, if_neg hearly, marchDays] at hyears hlength ⊢
    omega

/-- The dates of the days before a year are in earlier years, and no others are. -/
theorem year_lt_iff {days year : Int} :
    (ofDayNumber days).year < year ↔ days < dayNumber ⟨year, 1, 1⟩ := by
  obtain ⟨day, hday⟩ : ∃ d, d = (days + 719468) % 146097 := ⟨_, rfl⟩
  have hcycle : 0 ≤ day ∧ day ≤ 146096 := by omega
  obtain ⟨century, span, offset, rest, hplace⟩ := exists_cycleDay hcycle
  have hrest := hplace.rests
  have hdays := hplace.marchDays_eq ((days + 719468) / 146097)
  rw [hplace.ofDayNumber_eq hday, ofMarch, dayNumber_newYear]
  dsimp only
  obtain ⟨march, hmarch⟩ : ∃ y, y = 100 * century + 4 * span + offset +
    400 * ((days + 719468) / 146097) := ⟨_, rfl⟩
  rw [← hmarch] at hdays ⊢
  -- January starts after 306 days of the year that started in March
  have hmonth : 10 ≤ (5 * rest + 2) / 153 ↔ 306 ≤ rest := by omega
  have hstart : marchDays march + rest = days := by omega
  rcases Int.lt_trichotomy march (year - 1) with hbefore | hsame | hafter
  · have hyears := marchDays_mono (Int.add_one_le_iff.2 hbefore)
    have hlength := marchDays_succ march
    split
    · omega
    · omega
  · subst hsame
    split
    · omega
    · omega
  · have hyears := marchDays_mono (Int.add_one_le_iff.2 hafter)
    have hlength := marchDays_succ (year - 1)
    split
    · omega
    · omega

end Date

end BearerAuth.Time
