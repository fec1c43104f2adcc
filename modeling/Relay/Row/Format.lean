import Relay.Json.Reader
import Relay.Json.Writer
import Relay.Row.Basic

/-!
# Rows as JSON

The fields of a row in their order, and the rows as records of them: `Row.toRecord` and
`Row.ofRecord` are inverse to each other.
-/

namespace Relay.Row

open Relay.Json

/-- The fields of a row. -/
def fields : List Field :=
  [⟨"id", .uuid⟩, ⟨"name", .text⟩, ⟨"version", .natural 16⟩, ⟨"tenant_id", .uuid⟩,
    ⟨"username", .text⟩, ⟨"occurred_utc", .instant⟩, ⟨"correlation_id", .optional .text⟩,
    ⟨"causation_id", .optional .text⟩, ⟨"trace_id", .optional .text⟩,
    ⟨"parent_span_id", .optional .text⟩, ⟨"trace_flags", .optional (.natural 8)⟩,
    ⟨"trace_state", .optional .text⟩, ⟨"payload", .text⟩, ⟨"created_utc", .instant⟩,
    ⟨"processed_utc", .optional .instant⟩, ⟨"attempts", .natural 32⟩,
    ⟨"do_not_process_before_utc", .optional .instant⟩, ⟨"claimed_by", .optional .text⟩,
    ⟨"claimed_until", .optional .instant⟩, ⟨"is_poisoned", .boolean⟩,
    ⟨"last_error", .optional .text⟩]

/-- The record of a row. -/
def toRecord (r : Row) : Record fields :=
  (r.id, r.name, r.version.toFin, r.tenant, r.username, r.occurred, r.correlation, r.causation,
    r.traceId, r.parentSpan, r.traceFlags.map UInt8.toFin, r.traceState, r.payload, r.created,
    r.processed, r.attempts.toFin, r.notBefore, r.claimedBy, r.claimedUntil, r.poisoned,
    r.lastError, ())

/-- The row of a record. -/
def ofRecord : Record fields → Row
  | (id, name, version, tenant, username, occurred, correlation, causation, traceId, parentSpan,
      traceFlags, traceState, payload, created, processed, attempts, notBefore, claimedBy,
      claimedUntil, poisoned, lastError, ()) =>
    { id, name, version := UInt16.ofFin version, tenant, username, occurred, correlation, causation,
      traceId, parentSpan, traceFlags := traceFlags.map UInt8.ofFin, traceState, payload, created,
      processed, attempts := UInt32.ofFin attempts, notBefore, claimedBy, claimedUntil, poisoned,
      lastError }

theorem ofRecord_toRecord (r : Row) : ofRecord r.toRecord = r := by
  cases r with
  | mk _ _ _ _ _ _ _ _ _ _ flags =>
    cases flags <;> rfl

/-- The name of a row's record. -/
def recordName : String := "OutboxMessage"

/-- A row as JSON. -/
def render (r : Row) : String := Json.render fields r.toRecord

/-- Reads a row from JSON. -/
def parse (text : String) : Except Fault Row := (parseRecord recordName fields text).map ofRecord

end Relay.Row
