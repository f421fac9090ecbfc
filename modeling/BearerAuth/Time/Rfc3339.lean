import BearerAuth.Text.Integer
import BearerAuth.Time.Instant

/-!
# RFC 3339 time stamps

A stamp gives a date, a time of day and an offset from UTC:
`2024-05-01T12:00:00.25+02:00`. A minute may have a sixtieth second where UTC
ends a month; it is read as the last nanosecond before.

- `Rfc3339.read?`: the instant that a stamp denotes.
- `Rfc3339.write?`: the stamp of an instant in UTC and whole microseconds, for
  years 0 to 9999.
- `Rfc3339.canonical`: a stamp brought into that form.
-/

namespace BearerAuth.Time.Rfc3339

/-- The number that ASCII digits spell; none if one of the characters is no
digit. -/
def number? (digits : List Char) : Option Nat :=
  digits.foldlM (fun acc c => (Text.Range.digit? c).map (10 * acc + ·)) 0

/-- The nanoseconds that the digits after the decimal point spell; digits after
the ninth do not count. -/
def nanoseconds? (digits : List Char) : Option Nat :=
  number? ((digits ++ List.replicate 9 '0').take 9)

/-- The fraction of a second at the start of the text, in nanoseconds, and the
rest. -/
def fraction? : List Char → Option (Nat × List Char)
  | '.' :: rest =>
    let digits := rest.takeWhile fun c => (Text.Range.digit? c).isSome
    if digits.isEmpty then none
    else (nanoseconds? digits).map fun n => (n, rest.drop digits.length)
  | rest => some (0, rest)

/-- The offset from UTC, in seconds, that the whole text spells. -/
def offset? : List Char → Option Int
  | ['Z'] => some 0
  | ['z'] => some 0
  | [sign, h₁, h₂, ':', m₁, m₂] => do
    let hours ← number? [h₁, h₂]
    let minutes ← number? [m₁, m₂]
    if 23 < hours ∨ 59 < minutes then none
    else
      let seconds : Int := 3600 * hours + 60 * minutes
      if sign = '+' then some seconds
      else if sign = '-' then some (-seconds)
      else none
  | _ => none

/-- Whether the instant is the last nanosecond of a month in UTC, within the
calendar. -/
def endsMonth (t : Instant) : Bool :=
  t.representable && t.secondOfDay == secondsPerDay - 1 && t.subsecond == nanosPerSecond - 1 &&
    t.date.day == daysInMonth t.date.year t.date.month

/-- The instant of a local date and time of day, given the offset of the place
from UTC. -/
def instant (date : Date) (secondOfDay : Int) (nanos : Int) (offset : Int) : Instant :=
  ⟨(date.dayNumber * secondsPerDay + secondOfDay - offset) * nanosPerSecond + nanos⟩

/-- The instant for the parts of a stamp, if they name an existing date and
time. -/
def assemble? (date : Date) (hour minute second nanos : Nat) (offset : Int) : Option Instant :=
  if ¬date.Valid ∨ 23 < hour ∨ 59 < minute ∨ 60 < second then none
  else if second = 60 then
    let t := instant date (3600 * hour + 60 * minute + 59) (nanosPerSecond - 1) offset
    if endsMonth t then some t else none
  else some (instant date (3600 * hour + 60 * minute + second) nanos offset)

/-- The instant that a stamp denotes. Date and time may be separated by any
ASCII character. -/
def readList? : List Char → Option Instant
  | y₁ :: y₂ :: y₃ :: y₄ :: '-' :: o₁ :: o₂ :: '-' :: d₁ :: d₂ :: separator ::
      h₁ :: h₂ :: ':' :: m₁ :: m₂ :: ':' :: s₁ :: s₂ :: rest => do
    let year ← number? [y₁, y₂, y₃, y₄]
    let month ← number? [o₁, o₂]
    let day ← number? [d₁, d₂]
    let hour ← number? [h₁, h₂]
    let minute ← number? [m₁, m₂]
    let second ← number? [s₁, s₂]
    let (nanos, rest) ← fraction? rest
    let offset ← offset? rest
    if 128 ≤ separator.toNat then none
    else assemble? ⟨year, month, day⟩ hour minute second nanos offset
  | _ => none

/-- The instant that a stamp denotes; none if the text is no stamp. -/
def read? (s : String) : Option Instant :=
  readList? s.toList

/-- The decimal digit for a number below ten. -/
def digit (n : Nat) : Char :=
  Char.ofNat (48 + n % 10)

/-- The last `count` decimal digits of `n`. -/
def digits : Nat → Nat → List Char
  | 0, _ => []
  | count + 1, n => digits count (n / 10) ++ [digit n]

/-- The digits without zeros at the end. -/
def dropTrailingZeros (cs : List Char) : List Char :=
  (cs.reverse.dropWhile (· == '0')).reverse

/-- Whole microseconds below a second as a fraction: nothing for zero, else no
zeros at the end. -/
def fraction (micros : Nat) : List Char :=
  if micros = 0 then [] else '.' :: dropTrailingZeros (digits 6 micros)

/-- The characters of the stamp of an instant in UTC, cut to whole microseconds. -/
def writeList (t : Instant) : List Char :=
  let date := t.date
  let second := t.secondOfDay.toNat
  digits 4 date.year.toNat ++ '-' :: digits 2 date.month ++ '-' :: digits 2 date.day ++
    'T' :: digits 2 (second / 3600) ++ ':' :: digits 2 (second / 60 % 60) ++
    ':' :: digits 2 (second % 60) ++ fraction (t.subsecond / 1000).toNat ++ ['Z']

/-- The stamp of an instant in UTC, cut to whole microseconds. Years before 0
have none; an instant that the calendar does not have is a fault. -/
def write? (t : Instant) : Checked (Option String) :=
  if !t.representable then .error .mk
  else if t.date.year < 0 then .ok none
  else .ok (some (String.ofList (writeList t)))

/-- The stamp in UTC and whole microseconds; none if there is no such form. -/
def canonical (s : String) : Checked (Option String) :=
  match read? s with
  | none => .ok none
  | some t => write? t

end BearerAuth.Time.Rfc3339
