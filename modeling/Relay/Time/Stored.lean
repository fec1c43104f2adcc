import Relay.Time.Instant

/-!
# Instants as they are stored

A database counts microseconds from the beginning of the year 2000. `Instant.stored` is the instant
that comes back: what is less than a microsecond is dropped toward that beginning, and a leap second
counts as the second after it.
-/

namespace Relay.Instant

/-- The second that stored instants are counted from. -/
def storedEpoch : Int := 946684800

/-- Microseconds from the beginning of the year 2000. -/
def toMicros (t : Instant) : Int :=
  ((t.second - storedEpoch) * 1_000_000_000 + t.nanos).tdiv 1000

/-- The instant a number of microseconds from the beginning of the year 2000. -/
def ofMicros (micros : Int) : Option Instant :=
  ofParts (storedEpoch + micros / 1_000_000) ((micros % 1_000_000).toNat * 1000)

/-- The instant that comes back when one is stored. -/
def stored (t : Instant) : Instant := (ofMicros t.toMicros).getD t

end Relay.Instant
