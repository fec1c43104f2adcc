import Relay.Simulation.Checks
import Relay.Simulation.Run

/-!
# A trial of the defaults

`Trial.run` puts one event into a table and lets a worker go through one iteration, with everything
at its default, and then asks for the row to be tried again. A `Trial` is what came of it.
-/

namespace Relay.Simulation

/-- What came of a trial. -/
structure Trial where
  /-- The row after the iteration. -/
  row : Option Row
  /-- When the row was created. -/
  created : Option Instant
  /-- Whether the iteration ended with a batch. -/
  dispatched : Bool
  /-- What the broker accepted. -/
  accepted : List Message
  /-- Whether the row got its attempts back. -/
  renewed : Option (Except StoreError Bool)

namespace Trial

/-- Whether an iteration ended with a batch. -/
def isBatch : Option Outcome → Bool
  | some (.dispatched _) => true
  | _ => false

/-- Whether the first accepted message carries a trace. -/
def traced (t : Trial) : Option Bool :=
  t.accepted.head?.map fun m =>
    (m.headers.get? traceparentHeader).any fun h => (TraceContext.parse h none).isOk

/-- Checks the trial: when the row was created, how the iteration ended, and that the row is held
for as long as a worker holds it by default, by a worker whose name was made up. -/
def checks (t : Trial) (now : Instant) : Checks :=
  let expiry := now.after (Tuning.standard "").claimDuration
  [("created_now", t.created = some now), ("dispatched", t.dispatched),
    ("claim_about_300s", (t.row.bind Row.claimedUntil) = some expiry),
    ("claimed_by_default_name",
      (t.row.bind Row.claimedBy).any fun c => c.startsWith "dispatcher-")]

/-- Carries the trial out. -/
def run {s : Schema} (n : Naming) (now : Instant) (registry : Registry) (e : Envelope s) :
    Option (Except EnqueueError Trial) :=
  let (w, result) := enqueueIn n [] e .tracing [] none { clock := now }
  result.map fun
    | .error fault => .error fault
    | .ok id =>
      let tuning := Tuning.standard (Tuning.freshName (n.row 1))
      let actor : Actor := ⟨⟨.integration, registry, tuning, .tracing⟩, .none⟩
      let (after, outcome) := iterate n [] actor w
      .ok
        { row := after.table.find? id
          created := (w.table.find? id).map Row.created
          dispatched := isBatch outcome
          accepted := after.broker.accepted
          renewed := (after.table.respond (.requeue id)).2 }

end Trial

end Relay.Simulation
