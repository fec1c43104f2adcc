import Relay.Event.Schema
import Relay.Row.Basic

/-!
# Envelopes

An `Envelope` is an event on its way into an outbox: who raised it and when, and the ids that tie
it to other events. `Row.ofEnvelope` is the fresh row of an envelope.
-/

namespace Relay

/-- An event with its provenance. -/
structure Envelope (s : Schema) where
  tenant : Uuid
  username : String
  occurred : Instant
  correlation : Option String
  causation : Option String
  event : s.Event

namespace Envelope

variable {s : Schema}

/-- Wraps an event; it occurred when it says it did. -/
def ofEvent (tenant : Uuid) (username : String) (event : s.Event) : Envelope s :=
  ⟨tenant, username, s.occurredAt event, none, none, event⟩

/-- Sets another time of occurrence. -/
def withOccurred (e : Envelope s) (t : Instant) : Envelope s := { e with occurred := t }

/-- Sets the correlation id. -/
def withCorrelation (e : Envelope s) (id : String) : Envelope s := { e with correlation := some id }

/-- Sets the causation id. -/
def withCausation (e : Envelope s) (id : String) : Envelope s := { e with causation := some id }

end Envelope

/-- The fresh row of an envelope, whose event is already written as `payload`. -/
def Row.ofEnvelope {s : Schema} (e : Envelope s) (id : Uuid) (payload : String) (now : Instant)
    (trace : Option TraceContext) : Row where
  id
  name := s.name
  version := s.version
  tenant := e.tenant
  username := e.username
  occurred := e.occurred
  correlation := e.correlation
  causation := e.causation
  traceId := trace.map TraceContext.traceIdText
  parentSpan := trace.map TraceContext.spanIdText
  traceFlags := trace.map TraceContext.flags
  traceState := trace.bind TraceContext.state
  payload
  created := now
  processed := none
  attempts := 0
  notBefore := none
  claimedBy := none
  claimedUntil := none
  poisoned := false
  lastError := none

end Relay
