/-!
# Points in time

An instant is a number of seconds since 1970-01-01T00:00:00Z and nanoseconds within the second.
A leap second is kept as the second before it with a thousand million nanoseconds more, so the
nanoseconds may reach below two thousand million.

The time between two instants counts a leap second as one second only if it lies between them,
as far as the time of day tells (`Instant.since`).
-/

namespace TermSync.Time

/-- Nanoseconds in a second. -/
def nanosPerSecond : Nat := 1000000000

/-- Seconds in a day. -/
def secondsPerDay : Nat := 86400

/-- A point in time. -/
structure Instant where
  seconds : Int
  nanos : Nat := 0
deriving DecidableEq, Repr

/-- A span of time in nanoseconds. -/
abbrev Span := Int

namespace Span

/-- The whole seconds of a span, without its fraction. -/
def wholeSeconds (s : Span) : Int := Int.tdiv s nanosPerSecond

/-- The whole milliseconds of a span, without its fraction. -/
def wholeMillis (s : Span) : Int := Int.tdiv s 1000000

/-- A span of so many milliseconds. -/
def ofMillis (ms : Int) : Span := ms * 1000000

end Span

namespace Instant

/-- Whether the instant lies in a leap second. -/
def isLeap (t : Instant) : Bool := nanosPerSecond ≤ t.nanos

/-- Seconds since midnight. -/
def timeOfDay (t : Instant) : Int := t.seconds % secondsPerDay

/-- The time from `earlier` to `t`. -/
def since (t earlier : Instant) : Span :=
  let leap : Int :=
    if earlier.timeOfDay < t.timeOfDay then (if earlier.isLeap then 1 else 0)
    else if t.timeOfDay < earlier.timeOfDay then (if t.isLeap then -1 else 0)
    else 0
  (t.seconds - earlier.seconds + leap) * nanosPerSecond + ((t.nanos : Int) - earlier.nanos)

/-- The instant so many milliseconds after 1970-01-01T00:00:00Z. -/
def ofMillis (ms : Int) : Instant where
  seconds := ms / 1000
  nanos := (ms % 1000).toNat * 1000000

/-- The instant so many milliseconds later. Only instants outside leap seconds are moved. -/
def addMillis (t : Instant) (ms : Nat) : Instant :=
  let nanos := t.nanos + ms % 1000 * 1000000
  { seconds := t.seconds + (ms / 1000 : Nat) + (nanos / nanosPerSecond : Nat)
    nanos := nanos % nanosPerSecond }

end Instant
end TermSync.Time
