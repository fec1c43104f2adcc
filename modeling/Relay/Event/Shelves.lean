import Relay.Event.Registry

/-!
# Registries on shelves

A `Registry` as it is kept in memory: there is a shelf for every name, and on it stand the types of
that name in ascending order of their versions. The shelves stand in no particular order.
`Shelves.register` opens the shelf of a name, whether or not there is one, before it looks for the
version there.
-/

namespace Relay

/-- The types of one name. -/
structure Shelf where
  name : String
  /-- The types in ascending order of their versions. -/
  types : List Schema

namespace Shelf

/-- The type of a version. -/
def find? (shelf : Shelf) (version : UInt16) : Option Schema :=
  shelf.types.find? fun s => s.version = version

/-- Types with one more at the place of its version, which none of them has. -/
def inserted (s : Schema) : List Schema → List Schema
  | [] => [s]
  | t :: types => if s.version < t.version then s :: t :: types else t :: inserted s types

/-- Puts a type on a shelf. -/
def insert (shelf : Shelf) (s : Schema) : Shelf := { shelf with types := inserted s shelf.types }

end Shelf

/-- The shelves of a registry. -/
structure Shelves where
  shelves : List Shelf := []

namespace Shelves

/-- The shelves with one of a name among them, which is empty if there was none. -/
def withShelf (all : Shelves) (name : String) : Shelves :=
  if all.shelves.any fun shelf => shelf.name = name then all
  else ⟨all.shelves ++ [⟨name, []⟩]⟩

/-- Puts a type on the shelf of its name. -/
def put (all : Shelves) (s : Schema) : Shelves :=
  ⟨all.shelves.map fun shelf => if shelf.name = s.name then shelf.insert s else shelf⟩

/-- The type of a name and version. -/
def resolve (all : Shelves) (name : String) (version : UInt16) : Option Schema := do
  let shelf ← all.shelves.find? fun shelf => shelf.name = name
  shelf.find? version

/-- Whether a name and version are registered. -/
def contains (all : Shelves) (name : String) (version : UInt16) : Bool :=
  (all.resolve name version).isSome

/-- Registers a type, if it can be. -/
def register (all : Shelves) (s : Schema) : Shelves × Option Duplicate :=
  let opened := all.withShelf s.name
  match opened.resolve s.name s.version with
  | some existing => (opened, some ⟨s.name, s.version, existing.typeName, s.typeName⟩)
  | none => (opened.put s, none)

/-- The number of types. -/
def size (all : Shelves) : Nat := all.shelves.foldr (fun shelf n => shelf.types.length + n) 0

/-- Whether there are no types. -/
def isEmpty (all : Shelves) : Bool := all.size = 0

/-- The names and versions in ascending order. -/
def registered (all : Shelves) : List (String × UInt16) :=
  (all.shelves.flatMap fun shelf => shelf.types.map fun s => (shelf.name, s.version)).mergeSort
    Registry.keyLe

end Shelves

end Relay
