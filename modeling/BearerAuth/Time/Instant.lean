import BearerAuth.Time.Calendar

/-!
# Instants and spans

An instant is a number of nanoseconds since the start of 1970 in UTC, a span a
number of nanoseconds. The calendar ends with the year 9999: an instant after
that has no date, and reaching one is reported and not wrapped around.

- `Instant.seconds`: the whole seconds since the start of 1970, rounded down.
- `Instant.after?`: an instant moved by a span, if the calendar still has it.
- `CalendarOverflow`: the fault of a computation that would need a later date.
-/

namespace BearerAuth.Time

/-- A point in time, in nanoseconds since the start of 1970 in UTC. -/
structure Instant where
  nanoseconds : Int
  deriving DecidableEq, Repr

/-- A length of time in nanoseconds. -/
structure Span where
  nanoseconds : Int
  deriving DecidableEq, Repr

/-- The fault of a computation whose result lies after the last day of the
calendar. Where it arises there is no answer. -/
inductive CalendarOverflow where
  | mk
  deriving DecidableEq, Repr

/-- The result of a computation that may leave the calendar. -/
abbrev Checked (α : Type) := Except CalendarOverflow α

/-- The nanoseconds of a second. -/
def nanosPerSecond : Int := 1000000000

/-- The seconds of a day. -/
def secondsPerDay : Int := 86400

namespace Span

/-- A span of whole seconds. -/
def ofSeconds (seconds : Int) : Span := ⟨seconds * nanosPerSecond⟩

/-- A span of whole minutes. -/
def ofMinutes (minutes : Int) : Span := ofSeconds (minutes * 60)

/-- A span of whole days. -/
def ofDays (days : Int) : Span := ofSeconds (days * secondsPerDay)

/-- The whole seconds of the span, rounded towards zero. -/
def seconds (s : Span) : Int := s.nanoseconds.tdiv nanosPerSecond

/-- The nanoseconds beyond the whole seconds, with the sign of the span. -/
def subsecond (s : Span) : Int := s.nanoseconds.tmod nanosPerSecond

end Span

namespace Instant

/-- The instant `seconds` after the start of 1970. -/
def ofSeconds (seconds : Int) : Instant := ⟨seconds * nanosPerSecond⟩

/-- The whole seconds since the start of 1970, rounded down. -/
def seconds (t : Instant) : Int := t.nanoseconds / nanosPerSecond

/-- The date in UTC. -/
def date (t : Instant) : Date := .ofDayNumber (t.seconds / secondsPerDay)

/-- The seconds since midnight in UTC. -/
def secondOfDay (t : Instant) : Int := t.seconds % secondsPerDay

/-- The nanoseconds since the last whole second. -/
def subsecond (t : Instant) : Int := t.nanoseconds % nanosPerSecond

/-- The first instant that the calendar does not have: the start of the year
10000. -/
def calendarEnd : Instant := ofSeconds 253402300800

/-- The first instant of the calendar: the start of the year -9999. -/
def calendarStart : Instant := ofSeconds (-377705116800)

/-- Whether the calendar has the instant. -/
def representable (t : Instant) : Bool :=
  calendarStart.nanoseconds ≤ t.nanoseconds && t.nanoseconds < calendarEnd.nanoseconds

/-- The instant `span` after `t`; none when the calendar does not have it. -/
def after? (t : Instant) (span : Span) : Option Instant :=
  let moved : Instant := ⟨t.nanoseconds + span.nanoseconds⟩
  if moved.representable then some moved else none

end Instant

end BearerAuth.Time
