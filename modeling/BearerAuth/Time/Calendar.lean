/-!
# The calendar

Dates of the proleptic Gregorian calendar and their numbering by days. Day zero
is 1970-01-01; years before year 1 are year 0 and negative years.

- `Date.Valid`: the month and the day exist.
- `Date.dayNumber`, `Date.ofDayNumber`: a date as a number of days and back.
-/

namespace BearerAuth.Time

/-- A date by year, month and day. -/
structure Date where
  year : Int
  month : Nat
  day : Nat
  deriving DecidableEq, Repr

/-- Whether the year has a 29 February. -/
def isLeapYear (year : Int) : Bool :=
  year % 4 == 0 && (year % 100 != 0 || year % 400 == 0)

/-- The number of days of a month; zero for a month that does not exist. -/
def daysInMonth (year : Int) (month : Nat) : Nat :=
  match month with
  | 1 | 3 | 5 | 7 | 8 | 10 | 12 => 31
  | 4 | 6 | 9 | 11 => 30
  | 2 => if isLeapYear year then 29 else 28
  | _ => 0

namespace Date

/-- The month and the day exist. -/
def Valid (d : Date) : Prop :=
  1 ≤ d.day ∧ d.day ≤ daysInMonth d.year d.month

instance (d : Date) : Decidable d.Valid := by
  unfold Valid; infer_instance

/-- The days from 1970-01-01 to the date. Years are counted from March, so that
the leap day is the last of its year. -/
def dayNumber (d : Date) : Int :=
  let year := if d.month ≤ 2 then d.year - 1 else d.year
  let month : Int := if d.month ≤ 2 then d.month + 9 else d.month - 3
  365 * year + year / 4 - year / 100 + year / 400 + (153 * month + 2) / 5 + d.day - 719469

/-- The date that lies `days` days after 1970-01-01. -/
def ofDayNumber (days : Int) : Date :=
  let shifted := days + 719468
  let era := shifted / 146097
  let dayOfEra := shifted % 146097
  let yearOfEra := (dayOfEra - dayOfEra / 1460 + dayOfEra / 36524 - dayOfEra / 146096) / 365
  let dayOfYear := dayOfEra - (365 * yearOfEra + yearOfEra / 4 - yearOfEra / 100)
  let month := (5 * dayOfYear + 2) / 153
  let day := dayOfYear - (153 * month + 2) / 5 + 1
  { year := yearOfEra + 400 * era + (if 10 ≤ month then 1 else 0)
    month := (if 10 ≤ month then month - 9 else month + 3).toNat
    day := day.toNat }

end Date

end BearerAuth.Time
