/-!
# Instants and spans of time

An instant counts seconds since the start of 1970 in UTC. A leap second is written as the second
before it with a thousand million nanoseconds or more.
-/

namespace MeshFirmware

/-- A thousand million, the nanoseconds of a second. -/
def nanosPerSecond : Nat := 1000000000

/-- The seconds of a civil day. -/
def secondsPerDay : Nat := 86400

/-- A point in time. -/
structure Instant where
  seconds : Int
  nanos : Nat
  deriving DecidableEq, Repr, Inhabited

/-- A length of time that is not negative. -/
structure Span where
  seconds : Nat
  nanos : Nat
  deriving DecidableEq, Repr, Inhabited

namespace Span

/-- No time at all. -/
def zero : Span := ⟨0, 0⟩

/-- So many seconds. -/
def ofSeconds (s : Nat) : Span := ⟨s, 0⟩

/-- The length in nanoseconds. -/
def toNanos (d : Span) : Nat := d.seconds * nanosPerSecond + d.nanos

/-- Whether the first span is the shorter one. -/
def lt (a b : Span) : Bool := a.toNanos < b.toNanos

end Span

namespace Instant

/-- The nanoseconds that an instant reads since the start of 1970. Those of a leap second are read again in the second
after it. -/
def reading (t : Instant) : Int := t.seconds * nanosPerSecond + t.nanos

/-- The second of the day. -/
def daySecond (t : Instant) : Int := t.seconds % secondsPerDay

/-- Whether the instant lies in a leap second. -/
def inLeapSecond (t : Instant) : Bool := nanosPerSecond ≤ t.nanos

/-- The seconds that a leap second adds between two times of day: a leap second that the earlier
time of day still has to go through counts, and the leap second that one of them is in counts
through its nanoseconds. -/
def leapSecondsSince (later earlier : Instant) : Int :=
  if earlier.daySecond < later.daySecond then if earlier.inLeapSecond then 1 else 0
  else if later.daySecond < earlier.daySecond then if later.inLeapSecond then -1 else 0
  else 0

/-- The nanoseconds from the second instant to the first, negative if it comes later. -/
def nanosSince (later earlier : Instant) : Int :=
  (later.seconds - earlier.seconds + leapSecondsSince later earlier) * nanosPerSecond
    + ((later.nanos : Int) - earlier.nanos)

/-- The whole milliseconds from the second instant to the first, cut toward zero. -/
def millisSince (later earlier : Instant) : Int := (nanosSince later earlier).tdiv 1000000

end Instant

end MeshFirmware
