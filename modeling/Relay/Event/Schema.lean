import Relay.Json.Reader
import Relay.Json.Writer
import Relay.Text.Place

/-!
# Event types

A `Schema` is an event type: the name and version it has on the wire, the fields of its payload,
the last of which says when the event occurred, and the name of the type the payload is read into.
An `Event` of a schema is one value for each field. `Schema.encode` writes an event and
`Schema.decode` reads one.
-/

namespace Relay

open Relay.Json

/-- The field that ends every payload. -/
def occurredField : Field := ⟨"occurred_at", .instant⟩

/-- An event type. -/
structure Schema where
  /-- The name on the wire. -/
  name : String
  /-- The version of the payload's fields. -/
  version : UInt16
  /-- The full name of the type a payload is read into. -/
  typeName : String
  /-- The name of a payload in messages about its text. -/
  recordName : String
  /-- The fields before the time of occurrence. -/
  leading : List Field
  /-- Why an event cannot be written, if it cannot. -/
  refusal : Record (leading ++ [occurredField]) → Option String := fun _ => none

namespace Schema

/-- The fields of the payload. -/
@[reducible] def fields (s : Schema) : List Field := s.leading ++ [occurredField]

/-- An event of a type. -/
abbrev Event (s : Schema) := Record s.fields

/-- The last value of a record that ends with an instant. -/
def lastInstant : (leading : List Field) → Record (leading ++ [occurredField]) → Instant
  | [], (t, ()) => t
  | _ :: fs, (_, vs) => lastInstant fs vs

/-- When an event occurred. -/
def occurredAt (s : Schema) (e : s.Event) : Instant := lastInstant s.leading e

/-- The payload of an event; a place that the reason against it names is written as places are. -/
def encode (s : Schema) (e : s.Event) : Except String String :=
  match s.refusal e with
  | some reason => .error (Text.settlePlace reason)
  | none => .ok (render s.fields e)

/-- Reads a payload. -/
def decode (s : Schema) (payload : String) : Except Fault s.Event :=
  parseRecord s.recordName s.fields payload

/-- The fault of a payload, if it is not one of this type. -/
def validate (s : Schema) (payload : String) : Except Fault Unit :=
  (s.decode payload).map fun _ => ()

/-- The message about a payload that is not of this type. -/
def invalidPayload (s : Schema) (fault : Fault) : String :=
  "payload is not a valid " ++ s.typeName ++ ": " ++ fault.message

/-- The type, as it is shown to people. -/
def describe (s : Schema) : String :=
  "EventType \x7b name: " ++ Text.quote s.name ++ ", version: " ++ toString s.version
    ++ ", type_name: " ++ Text.quote s.typeName ++ " \x7d"

end Schema

/-- The topic that events of a name and version are published to. -/
def topic (name : String) (version : UInt16) : String := name ++ ".v" ++ toString version.toNat

end Relay
