import RecordStore.Calendar
/-!
# Instants

A point of time in UTC as whole seconds since 1970-01-01T00:00:00Z and nanoseconds. A
leap second shares the number of the second before it and has its nanoseconds counted on
from `10 ^ 9`.
-/

namespace RecordStore

/-- A point of time in UTC. -/
structure Instant where
  /-- Seconds since 1970-01-01T00:00:00Z. -/
  seconds : Int
  /-- Nanoseconds within the second, from `10 ^ 9` on within a leap second. -/
  nanos : Nat
  nanos_lt : nanos < 2 * 10 ^ 9 := by decide
deriving DecidableEq, Repr

namespace Instant

/-- The instant from which seconds are counted. -/
def epoch : Instant where
  seconds := 0
  nanos := 0

/-- The milliseconds since 1970-01-01T00:00:00Z, a fraction of one dropped. -/
def millis (t : Instant) : Int :=
  (t.seconds * 10 ^ 9 + t.nanos).tdiv (10 ^ 6)

/-- The date in UTC. -/
def date (t : Instant) : Date :=
  Date.ofDays (t.seconds / 86400)

/-- The seconds since midnight UTC. -/
def secondOfDay (t : Instant) : Nat :=
  (t.seconds % 86400).toNat

end Instant

end RecordStore
