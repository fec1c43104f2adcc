import Relay.Event.Schema

/-!
# Registries

A `Registry` is a finite map from names and versions to event types, built by registering one type
after another. The first type of a name and version stays; a second one is refused with
`Duplicate`.
-/

namespace Relay

/-- The event types known to a program. -/
structure Registry where
  /-- The types in the order of their registration. -/
  types : List Schema := []

/-- A name and version that were registered before. -/
structure Duplicate where
  name : String
  version : UInt16
  /-- The type that is registered. -/
  existing : String
  /-- The type that was refused. -/
  duplicate : String
  deriving DecidableEq, Repr

/-- The wording of a duplicate. -/
def Duplicate.message (d : Duplicate) : String :=
  "event type " ++ d.name ++ " v" ++ toString d.version.toNat ++ " registered twice ("
    ++ d.existing ++ " and " ++ d.duplicate ++ ")"

namespace Registry

/-- Whether a type has a name and version. -/
def isNamed (name : String) (version : UInt16) (s : Schema) : Bool :=
  s.name = name && s.version = version

/-- The type of a name and version. -/
def resolve (r : Registry) (name : String) (version : UInt16) : Option Schema :=
  r.types.find? (isNamed name version)

/-- Whether a name and version are registered. -/
def contains (r : Registry) (name : String) (version : UInt16) : Bool :=
  (r.resolve name version).isSome

/-- Registers a type. -/
def register (r : Registry) (s : Schema) : Except Duplicate Registry :=
  match r.resolve s.name s.version with
  | some existing => .error ⟨s.name, s.version, existing.typeName, s.typeName⟩
  | none => .ok ⟨r.types ++ [s]⟩

/-- Registers types one after another. -/
def registerAll (r : Registry) (types : List Schema) : Except Duplicate Registry :=
  types.foldlM register r

/-- The number of types. -/
def size (r : Registry) : Nat := r.types.length

/-- Whether there are no types. -/
def isEmpty (r : Registry) : Bool := r.size = 0

/-- Whether one name and version come before another or are the same. -/
def keyLe (a b : String × UInt16) : Bool :=
  a.1 < b.1 || (a.1 = b.1 && a.2 ≤ b.2)

/-- The names and versions in ascending order. -/
def registered (r : Registry) : List (String × UInt16) :=
  (r.types.map fun s => (s.name, s.version)).mergeSort keyLe

end Registry

end Relay
