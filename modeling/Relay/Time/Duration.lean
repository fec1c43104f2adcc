/-!
# Durations

A `Duration` is a whole number of nanoseconds of fewer than `2 ^ 64` seconds. It is made from a
number of milliseconds or from seconds and nanoseconds, and read back in the same units.
-/

namespace Relay

/-- A length of time. -/
structure Duration where
  toNanos : Nat
  toNanos_lt : toNanos < 1 <<< 64 * 1_000_000_000 := by omega
  deriving DecidableEq, Repr

namespace Duration

/-- No time at all. -/
def zero : Duration := ⟨0, by omega⟩

instance : Inhabited Duration := ⟨zero⟩

/-- The longest duration. -/
def longest : Duration := ⟨1 <<< 64 * 1_000_000_000 - 1, by omega⟩

/-- A number of nanoseconds, cut down to the longest duration. -/
def ofNanos (n : Nat) : Duration :=
  if h : n < 1 <<< 64 * 1_000_000_000 then ⟨n, h⟩ else longest

/-- A number of milliseconds, cut down to what 64 bits hold. -/
def ofMillis (n : Nat) : Duration := ofNanos (min n (1 <<< 64 - 1) * 1_000_000)

/-- A number of seconds, cut down to what 64 bits hold. -/
def ofSeconds (n : Nat) : Duration := ofNanos (min n (1 <<< 64 - 1) * 1_000_000_000)

/-- Seconds and nanoseconds, whole seconds among the latter carried over; `none` when the sum is
too long. -/
def ofParts (seconds nanos : Nat) : Option Duration :=
  if h : seconds * 1_000_000_000 + nanos < 1 <<< 64 * 1_000_000_000 then some ⟨_, h⟩ else none

/-- The whole seconds. -/
def seconds (d : Duration) : Nat := d.toNanos / 1_000_000_000

/-- The nanoseconds beside the whole seconds. -/
def subsecond (d : Duration) : Nat := d.toNanos % 1_000_000_000

/-- The whole milliseconds. -/
def toMillis (d : Duration) : Nat := d.toNanos / 1_000_000

/-- The length in seconds, rounded to a float in two steps. -/
def toSeconds (d : Duration) : Float :=
  d.seconds.toFloat + d.subsecond.toFloat / 1000000000.0

instance : Max Duration := ⟨fun a b => if a.toNanos ≤ b.toNanos then b else a⟩
instance : Min Duration := ⟨fun a b => if a.toNanos ≤ b.toNanos then a else b⟩

theorem toNanos_max (a b : Duration) : (max a b).toNanos = max a.toNanos b.toNanos := by
  show (if a.toNanos ≤ b.toNanos then b else a).toNanos = _
  split <;> omega

theorem toNanos_ofNanos {n : Nat} (h : n < 1 <<< 64 * 1_000_000_000) : (ofNanos n).toNanos = n := by
  rw [ofNanos, dif_pos h]

end Duration

end Relay
