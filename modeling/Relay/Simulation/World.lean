import Relay.Enqueue
import Relay.Table.Memory
import Relay.Worker.Loop

/-!
# Simulated worlds

A `World` is all that workers share when they are tried out in memory: a table, a broker, a clock
that is moved by hand, and what was noted and measured. Ids that are random elsewhere come from a
`Naming` here, so that a run can be repeated. An `Action` changes a world from outside, and
`World.act` says how.
-/

namespace Relay.Simulation

open Journal

/-- The ids given out in a world, counted from one. -/
structure Naming where
  row : Nat → Uuid
  claim : Nat → Uuid
  span : Nat → TraceContext.Draw

/-- Where a worker's measurements go. -/
inductive Gauge where
  | none
  /-- They are counted under the name of the worker. -/
  | tally (name : String)
  | recorder
  deriving DecidableEq, Repr

/-- What workers share. -/
structure World where
  table : Table := {}
  broker : Broker := {}
  clock : Instant
  /-- Whether the worker that runs was told to stop. -/
  cancelled : Bool := false
  /-- What was noted, in order. -/
  notes : Array Note := #[]
  tallies : List (String × Tally) := []
  recorder : Recorder := {}
  /-- The units of work that were begun. -/
  works : List (String × Work) := []
  /-- The requests of the current step, in order. -/
  requests : Array Request := #[]
  rows : Nat := 0
  claims : Nat := 0
  spans : Nat := 0

/-- Something done to a world from outside. -/
inductive Action where
  /-- A call to the store, given the time. -/
  | call (c : Instant → Call)
  /-- Moves the clock by a number of nanoseconds. -/
  | advance (nanos : Int)
  | setClock (t : Instant)
  /-- Tells the broker to refuse a message. -/
  | refuse (r : Refusal)
  /-- Tells the worker that runs to stop. -/
  | cancel
  /-- Changes a row, whatever its state. -/
  | update (id : Uuid) (f : Row → Row)
  /-- A caller breaks off while it changes a row. -/
  | breakOff (id : Uuid)
  | begin (work : String)
  | write (work : String) (row : Row)
  | commit (work : String)
  /-- Drops a unit of work. -/
  | discard (work : String)

/-- What an action answers. -/
inductive Reply where
  | done
  | time (t : Instant)
  | stored (c : Call) (result : Except StoreError c.Result)
  | failed (e : StoreError)
  | count (n : Nat)
  /-- The caller broke off. -/
  | aborted

namespace World

/-- Sets a unit of work. -/
def setWork (w : World) (name : String) (work : Work) : World :=
  { w with works := (name, work) :: w.works.filter (·.1 ≠ name) }

/-- Forgets a unit of work. -/
def dropWork (w : World) (name : String) : World :=
  { w with works := w.works.filter (·.1 ≠ name) }

/-- A unit of work. -/
def work (w : World) (name : String) : Work := (w.works.lookup name).getD {}

/-- Does something to the world. -/
def act (w : World) : Action → World × Reply
  | .call c =>
    let c := c w.clock
    let (table, result) := w.table.respond c
    ({ w with table }, match result with
      | some result => .stored c result
      | none => .aborted)
  | .advance nanos =>
    match w.clock.shift nanos with
    | some t => ({ w with clock := t }, .time t)
    | none => (w, .aborted)
  | .setClock t => ({ w with clock := t }, .done)
  | .refuse r => ({ w with broker := w.broker.refuse r }, .done)
  | .cancel => ({ w with cancelled := true }, .done)
  | .update id f =>
    match w.table.update id f with
    | .ok table => ({ w with table }, .done)
    | .error e => (w, .failed e)
  | .breakOff id =>
    match w.table.breakOff id with
    | .ok table => ({ w with table }, .done)
    | .error e => (w, .failed e)
  | .begin name => (w.setWork name {}, .done)
  | .write name row => (w.setWork name ((w.work name).write row), .done)
  | .commit name =>
    match (w.work name).commit w.table with
    | .ok (table, n) => ({ w.dropWork name with table }, .count n)
    | .error e => (w.dropWork name, .failed e)
  | .discard name => (w.dropWork name, .done)

/-- The rows that are not as they were, in the order of their ids. -/
def changedSince (w before : World) : List Row :=
  (w.table.rows.filter fun r => before.table.find? r.id ≠ some r).mergeSort
    fun a b => a.id.toNat ≤ b.id.toNat

/-- The messages that the broker has accepted since. -/
def acceptedSince (w before : World) : List Message :=
  w.broker.accepted.drop before.broker.accepted.length

/-- Makes sure that a name has a tally. -/
def withTally (w : World) (name : String) : World :=
  if (w.tallies.lookup name).isSome then w else { w with tallies := (name, {}) :: w.tallies }

/-- Counts a measurement under a name. -/
def tally (w : World) (name : String) (m : Measurement) : World :=
  let tally := ((w.tallies.lookup name).getD {}).record m
  { w with tallies := (name, tally) :: w.tallies.filter (·.1 ≠ name) }

/-- Keeps a measurement. What takes no time here is recorded as taking none. -/
def measure (w : World) (gauge : Gauge) (outbox : Outbox) (m : Measurement) : World :=
  match gauge with
  | .none => w
  | .tally name => w.tally name m
  | .recorder => { w with recorder := w.recorder.record outbox m .zero }

/-- Writes a note down. -/
def note (w : World) (n : Note) : World :=
  let w := { w with notes := w.notes.push n }
  match n with
  | .opened _ => { w with spans := w.spans + 1 }
  | _ => w

end World

end Relay.Simulation
