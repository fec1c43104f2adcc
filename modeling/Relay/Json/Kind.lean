import Relay.Time.Instant
import Relay.Uuid

/-!
# Kinds of JSON values

A `Kind` names what a field may hold, `Kind.Value` is the type of what it holds, and a `Record` has
one value for each field of a list. Reading and writing are defined on kinds once and for all, so a
new record needs a list of fields and nothing else.
-/

namespace Relay.Json

/-- What a field may hold. -/
inductive Kind where
  | text
  | uuid
  | instant
  | boolean
  /-- A natural number of so many bits. -/
  | natural (bits : Nat)
  /-- A signed number of 64 bits. -/
  | integer
  | number
  | duration
  /-- One of some names. -/
  | choice (names : List String)
  | optional (kind : Kind)
  deriving DecidableEq, Repr

/-- What a field of a kind holds. -/
@[reducible] def Kind.Value : Kind → Type
  | .text => String
  | .uuid => Uuid
  | .instant => Instant
  | .boolean => Bool
  | .natural bits => Fin (1 <<< bits)
  | .integer => { i : Int // -0x8000_0000_0000_0000 ≤ i ∧ i < 0x8000_0000_0000_0000 }
  | .number => Float
  | .duration => Duration
  | .choice names => Fin names.length
  | .optional kind => Option kind.Value

/-- A named field. -/
structure Field where
  name : String
  kind : Kind
  deriving DecidableEq, Repr

/-- One value for each field. -/
@[reducible] def Record : List Field → Type
  | [] => Unit
  | f :: fs => f.kind.Value × Record fs

/-- The values read so far. -/
@[reducible] def Slots : List Field → Type
  | [] => Unit
  | f :: fs => Option f.kind.Value × Slots fs

/-- No value was read yet. -/
def Slots.empty : (fields : List Field) → Slots fields
  | [] => ()
  | _ :: fs => (none, Slots.empty fs)

end Relay.Json
