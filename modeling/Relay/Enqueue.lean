import Relay.Envelope
import Relay.Table.Call
import Relay.Worker.Publish

/-!
# Putting events into an outbox

`enqueue` turns an envelope into a fresh row, with the ambient trace context captured in it, and
hands it to a writer: a table, or a unit of work that may be committed or not.
-/

namespace Relay

open Journal

/-- Why an event did not get into an outbox. -/
inductive EnqueueError where
  /-- The event cannot be written. -/
  | unwritable (event : String) (reason : String)
  | store (e : StoreError)
  deriving DecidableEq, Repr

/-- The wording of an event that did not get in. -/
def EnqueueError.message : EnqueueError → String
  | .unwritable event reason => "failed to serialize " ++ event ++ " payload: " ++ reason
  | .store e => e.message

/-- The part of the program that enqueues. -/
def enqueueTarget : String := "brushwork_outbox::enqueuer"

/-- The row of an envelope. -/
def Envelope.row {s : Schema} (e : Envelope s) (id : Uuid) (now : Instant) (sink : Sink)
    (ambient : Ambient) : Except EnqueueError Row :=
  match s.encode e.event with
  | .error reason => .error (.unwritable s.name reason)
  | .ok payload => .ok (Row.ofEnvelope e id payload now (sink.capture ambient))

/-- What is noted about a row that got in. -/
def enqueued (s : Schema) (id : Uuid) : Note :=
  .entry
    ⟨.debug, enqueueTarget, some "outbox message enqueued",
      [("message_id", .text id.text), ("event", .quoted s.name),
        ("version", .number s.version.toNat)]⟩

/-- Puts an event into an outbox through a writer. -/
def enqueue {s : Schema} {σ : Type} (write : σ → Row → σ × Except StoreError Unit) (writer : σ)
    (e : Envelope s) (id : Uuid) (now : Instant) (sink : Sink) (ambient : Ambient) :
    σ × Except EnqueueError Uuid × List Note :=
  match e.row id now sink ambient with
  | .error fault => (writer, .error fault, [])
  | .ok row =>
    let (writer, result) := write writer row
    match result with
    | .error fault => (writer, .error (.store fault), [])
    | .ok () => (writer, .ok row.id, [enqueued s row.id])

end Relay
