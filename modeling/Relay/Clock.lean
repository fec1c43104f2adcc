import Relay.Time.Instant

/-!
# Clocks

A `Clock` is the clock on the wall or one that is moved by hand. A clock that is told to move beyond
the range of instants stays where it is.
-/

namespace Relay

/-- Where a program takes the time from. -/
inductive Clock where
  | wall
  | manual (at_ : Instant)
  deriving DecidableEq, Repr

namespace Clock

/-- What the clock shows when the wall shows `wall`. -/
def now (c : Clock) (wall : Instant) : Instant :=
  match c with
  | .wall => wall
  | .manual t => t

/-- A clock moved by hand that starts with the time on the wall. -/
def started (wall : Instant) : Clock := .manual wall

/-- Moves a clock by a number of nanoseconds; none if it cannot move so far. -/
def advance (c : Clock) (nanos : Int) : Option Clock :=
  match c with
  | .wall => some .wall
  | .manual t => (t.shift nanos).map .manual

/-- Sets a clock that is moved by hand. -/
def set (c : Clock) (t : Instant) : Clock :=
  match c with
  | .wall => .wall
  | .manual _ => .manual t

end Clock

end Relay
