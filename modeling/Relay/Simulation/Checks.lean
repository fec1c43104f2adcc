import Relay.Clock
import Relay.Retry
import Relay.Trace
import Relay.Uuid.Fresh

/-!
# Checks of what is drawn

What holds of a delay, an identifier or a trace whatever is drawn, and of a clock whatever the wall
shows, is checked here for draws and times that cover what may come. A check has a name and an
outcome.
-/

namespace Relay.Simulation

/-- Checks by their names. -/
abbrev Checks := List (String × Bool)

/-- Draws from minus one to one. -/
def draws : List Float := (List.range 64).map fun i => (2 * i.toFloat - 63) / 63

/-- Whether not all durations are the same. -/
def varies (ds : List Duration) : Bool := ds.any fun d => ds.any fun e => d ≠ e

/-- A factor within zero and one. -/
def within (x : Float) : Float := if x.isNaN then 0 else if x < 0 then 0 else if x > 1 then 1 else x

/-- The milliseconds of a duration. -/
def millis (d : Duration) : Float := d.toMillis.toFloat

/-- Checks the delays of a policy before an attempt. -/
def delayChecks (p : RetryPolicy Float) (attempt : UInt32) : Checks :=
  let ds := draws.map (p.delay attempt)
  let low := millis (p.withoutJitter.delay attempt 0) * (1 - within p.jitter) - 1
  [("within_max", ds.all fun d => d.toNanos ≤ p.longest.toNanos),
    ("above_low", ds.all fun d => low ≤ millis d), ("varies", varies ds)]

/-- Checks the durations that are spread by a factor. -/
def spreadChecks (d : Duration) (factor : Float) : Checks :=
  let ds := draws.map (d.spread factor)
  let part := within factor
  let near (e : Duration) : Bool :=
    millis d * (1 - part) - 1 ≤ millis e && millis e ≤ millis d * (1 + part) + 1
  [("in_range", ds.all near), ("whole_ms", ds.all fun e => e.toNanos % 1_000_000 = 0),
    ("varies", varies ds), ("some_below", ds.any fun e => e.toMillis < d.toMillis),
    ("some_above", ds.any fun e => d.toMillis ≤ e.toMillis)]

/-- Checks two identifiers that a source gave out in a row. -/
def identifierChecks (a b : Uuid) : Checks :=
  [("distinct", a ≠ b), ("increasing", a < b)]

/-- Whether a context is read back from its header and state. -/
def readsBack (c : TraceContext) : Bool := (TraceContext.parse c.header c.state).toOption = some c

/-- Checks the contexts that begin two traces. -/
def rootChecks (a b : TraceContext) : Checks :=
  [("sampled", a.isSampled), ("distinct", a ≠ b), ("reparsed_equal", readsBack a && readsBack b)]

/-- Checks the clock on the wall and one that was started from it, the wall showing the earliest
and the latest time. -/
def clockChecks : Checks :=
  let manual := Clock.started .epoch
  [("system", Clock.wall.now .epoch = .epoch ∧ Clock.wall.now .last = .last),
    ("manual_default_is_now", manual.now .epoch = .epoch),
    ("manual_moves_only_when_told", manual.now .last = .epoch)]

end Relay.Simulation
