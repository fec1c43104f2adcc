import Relay.Simulation.Transcript
import Relay.Simulation.World

/-!
# Running workers in a simulated world

An `Actor` is a worker with a place for its measurements, and a `Hook` interferes with its requests:
it may act on the world before the request is served, break the worker off, make the request fail,
or answer it itself. `iterate` carries one iteration out. `run` lets a worker loop until it is told
to stop; sleeps take no time here but move a clock of their own, and `spawn` looks at the loop from
outside.
-/

namespace Relay.Simulation

open Journal

/-- An answer that a hook gives in place of the store. -/
inductive Gift where
  | flag (b : Bool)
  | ids (ids : List Uuid)
  | other

/-- A failure that a hook gives in place of the store or the broker. -/
structure Failure where
  store : StoreError
  broker : Refusal

/-- Interference with the requests of one name. -/
structure Hook where
  request : String
  /-- Which request of that name, counted from one; every one if none is given. -/
  nth : Option Nat
  deeds : List Action
  /-- Whether the worker breaks off. -/
  abort : Bool
  failure : Option Failure
  gift : Option Gift

/-- A worker with a place for its measurements. -/
structure Actor where
  worker : Worker
  gauge : Gauge

/-- A world in which a tally is ready for an actor that counts. -/
def Actor.prepare (a : Actor) (w : World) : World :=
  match a.gauge with
  | .tally name => w.withTally name
  | _ => w

/-- What a hook does to a request. -/
inductive Interference (α : Type) where
  | none
  | abort
  | answer (a : α)

/-- The answer of a failure. -/
def Failure.answer (f : Failure) : (q : Request) → q.Answer
  | .publish _ => .error f.broker
  | .store c => .error (ε := StoreError) (α := c.Result) f.store

/-- The answer of a gift, where the request can take it. -/
def Gift.answer (g : Gift) : (q : Request) → Option q.Answer
  | .store (.hasDue _) =>
    match g with
    | .flag b => some (.ok b)
    | _ => none
  | .store (.selectDue _ _) =>
    match g with
    | .ids chosen => some (.ok chosen)
    | _ => none
  | .store (.get _) => some (.ok none)
  | _ => none

namespace World

/-- The surroundings of a worker. -/
def reading (w : World) (n : Naming) : Reading where
  now := w.clock
  cancelled := w.cancelled
  claimId := n.claim (w.claims + 1)
  draw := 0
  spanIds := n.span (w.spans + 1)

/-- Carries out what an actor did beside its requests. -/
def carryOut (w : World) (actor : Actor) (acts : List Act) : World :=
  acts.foldl (fun w act =>
    match act with
    | .note n => w.note n
    | .measure m => w.measure actor.gauge actor.worker.outbox m) w

/-- The request is written down; a claim uses up its id. -/
def noteRequest (w : World) (q : Request) : World :=
  let w := { w with requests := w.requests.push q }
  match q with
  | .store (.claim _ _ _ _) => { w with claims := w.claims + 1 }
  | _ => w

/-- Lets hooks interfere in turn, until one breaks the worker off or makes the request fail. Of
several gifts the last one counts, and then only if the request can take it. -/
def interfere (w : World) (q : Request) (gift : Option Gift) :
    List Hook → World × Interference q.Answer
  | [] => (w, (gift.bind (Gift.answer · q)).elim .none .answer)
  | h :: hs =>
    let w := h.deeds.foldl (fun w a => (w.act a).1) w
    if h.abort then (w, .abort)
    else
      match h.failure with
      | some f => (w, .answer (f.answer q))
      | none => w.interfere q (h.gift <|> gift) hs

/-- The answer of the store or the broker; none if the caller breaks off. -/
def reach (w : World) : (q : Request) → World × Option q.Answer
  | .publish m =>
    let (broker, result) := w.broker.publish w.cancelled m
    ({ w with broker }, some result)
  | .store c =>
    let (table, result) := w.table.respond c
    ({ w with table }, result)

/-- Serves a request; none if the caller breaks off. -/
def serve (w : World) (hooks : List Hook) (q : Request) : World × Option q.Answer :=
  let w := w.noteRequest q
  let name := q.name
  let count := (w.requests.toList.filter fun r => r.name = name).length
  let here := hooks.filter fun h => h.request = name && (h.nth.elim true (· = count))
  let (w, i) := w.interfere q none here
  match i with
  | .abort => (w, none)
  | .answer a => (w, some a)
  | .none => w.reach q

end World

/-- The most requests that are served in one step of a simulation. -/
def requestLimit : Nat := 100000

/-- The request of a loop after which it is told to stop. -/
def loopLimit : Nat := 400

/-- Carries an iteration out; none if the worker breaks off. -/
def iterateFrom (n : Naming) (hooks : List Hook) (actor : Actor) :
    (fuel : Nat) → World → Phase → World × Option Outcome
  | 0, w, _ => (w, none)
  | fuel + 1, w, phase =>
    let (w, answer) := w.serve hooks (phase.request actor.worker)
    match answer with
    | none => (w, none)
    | some a =>
      let step := actor.worker.resume (w.reading n) phase a
      let w := w.carryOut actor step.acts
      match step.progress with
      | .waiting phase => iterateFrom n hooks actor fuel w phase
      | .finished outcome => (w, some outcome)

/-- Carries one iteration out. -/
def iterate (n : Naming) (hooks : List Hook) (actor : Actor) (w : World) :
    World × Option Outcome :=
  iterateFrom n hooks actor requestLimit w (actor.worker.start (w.reading n))

/-- A loop seen from outside. -/
structure Watched where
  world : World
  /-- How long the sleeps took, in nanoseconds. -/
  slept : Nat
  /-- Whether the loop ended before it was told to stop from outside. -/
  endedBefore : Bool
  /-- Whether the worker broke off. -/
  aborted : Bool

/-- Lets a loop go on until it stops. It is told to stop once its sleeps have taken `stopAt`
nanoseconds, or by its request with the number `loopLimit`. -/
def loopFrom (n : Naming) (hooks : List Hook) (actor : Actor) (stopAt : Nat) :
    (fuel : Nat) → (slept : Nat) → World → Loop → Watched
  | 0, slept, w, _ => ⟨w, slept, false, false⟩
  | fuel + 1, slept, w, loop =>
    match loop with
    | .stopped => ⟨w, slept, slept < stopAt, false⟩
    | .sleeping pause =>
      let woken := slept + pause.toNanos
      let (slept, w) :=
        if w.cancelled then (slept, w)
        else if stopAt ≤ woken then (stopAt, { w with cancelled := true })
        else (woken, w)
      let (acts, loop) := actor.worker.wake (w.reading n)
      loopFrom n hooks actor stopAt fuel slept (w.carryOut actor acts) loop
    | .iterating phase =>
      let w := if loopLimit ≤ w.requests.size + 1 then { w with cancelled := true } else w
      let (w, answer) := w.serve hooks (phase.request actor.worker)
      match answer with
      | none => ⟨w, slept, slept < stopAt, true⟩
      | some a =>
        let (acts, loop) := actor.worker.advance (w.reading n) phase a
        loopFrom n hooks actor stopAt fuel slept (w.carryOut actor acts) loop

/-- Lets a worker run until it is told to stop, after a time of sleeping. -/
def run (n : Naming) (hooks : List Hook) (actor : Actor) (stopAt : Duration) (w : World) :
    Watched :=
  let w := if stopAt.toNanos = 0 then { w with cancelled := true } else w
  let (acts, loop) := actor.worker.run (w.reading n)
  loopFrom n hooks actor stopAt.toNanos requestLimit 0 (w.carryOut actor acts) loop

/-- What is noted when a worker that runs in the background broke off. -/
def taskFailed (worker : Worker) (reason : String) : Note :=
  .entry
    ⟨.error, Worker.target, some "outbox dispatcher task failed",
      [worker.outboxField, Worker.errorField reason]⟩

/-- Lets a worker run in the background and shuts it down after a time. -/
def spawn (n : Naming) (hooks : List Hook) (actor : Actor) (stopAt : Duration) (w : World) :
    Watched :=
  let seen := run n hooks actor stopAt w
  let world := { seen.world with cancelled := true }
  let world :=
    if seen.aborted then world.note (taskFailed actor.worker "task panicked") else world
  { seen with world }

/-- Asks the store for counts as the worker would; none if the worker breaks off. -/
def stats (hooks : List Hook) (actor : Actor) (w : World) :
    World × Option (Except StoreError Stats) :=
  w.serve hooks (.store (.stats (actor.worker.due w.clock)))

/-- Puts an event into the table, or into a unit of work; none if the caller breaks off. -/
def enqueueIn (n : Naming) (hooks : List Hook) {s : Schema} (e : Envelope s) (sink : Sink)
    (ambient : Ambient) (work : Option String) (w : World) :
    World × Option (Except EnqueueError Uuid) :=
  let id := n.row (w.rows + 1)
  let write (state : World × Bool) (row : Row) : (World × Bool) × Except StoreError Unit :=
    match work with
    | some name => (((state.1.act (.write name row)).1, false), .ok ())
    | none =>
      let (w, result) := state.1.serve hooks (.store (.insert row))
      match result with
      | some r => ((w, false), r)
      | none => ((w, true), .error Table.lockPoisoned)
  let ((w, aborted), result, notes) := enqueue write (w, false) e id w.clock sink ambient
  let w := notes.foldl World.note w
  if aborted then (w, none)
  else
    match result with
    | .ok id => ({ w with rows := w.rows + 1 }, some (.ok id))
    | .error fault => (w, some (.error fault))

end Relay.Simulation
