import Relay.Simulation.Serving
import Relay.Simulation.World

/-!
# Names for ids that are given out

In a simulation, ids that are random elsewhere are counted, and every `Alias` has a way to write the
number of an id as an id and as a name: the third row that was added is `<gen-3>`. `expand` puts ids
in the place of the names in a text, and `fold` names in the place of ids.
-/

namespace Relay.Simulation

open Text

/-- A kind of id. -/
structure Alias where
  /-- What its names begin with. -/
  name : String
  /-- What its ids begin with. -/
  start : String
  /-- The number of hexadecimal digits after that. -/
  digits : Nat

namespace Alias

def row : Alias := ⟨"<gen-", "f3a9c1e7-5b2d-7000-8000-", 12⟩
def claim : Alias := ⟨"<claim-", "f4b8d2c6-6e1f-7000-8000-", 12⟩
def trace : Alias := ⟨"<trace-", "e7a1c35bd902f68413b7ac5e", 8⟩
def span : Alias := ⟨"<span-", "c4f19a2e", 8⟩

/-- The claims on the table of an outbox. -/
def claimOn : Outbox → Alias
  | .domain => ⟨"<domain_outbox claim ", "f4b8d2c6-6e1f-7000-8001-", 12⟩
  | .integration => ⟨"<integration_outbox claim ", "f4b8d2c6-6e1f-7000-8002-", 12⟩

/-- All kinds of ids. -/
def all : List Alias := [row, claim, trace, span, claimOn .domain, claimOn .integration]

/-- The id with a number. -/
def chars (a : Alias) (n : Nat) : List Char := a.start.toList ++ hex a.digits n

/-- The id with a number, of those kinds that are written in groups. -/
def uuid (a : Alias) (n : Nat) : Uuid := (Uuid.read (a.chars n)).toOption.getD default

/-- What follows a start. -/
def after (start s : List Char) : Option (List Char) :=
  if start.isPrefixOf s then some (s.drop start.length) else none

/-- The id for a name at the front of a text, and the rest. -/
def expandFront (s : List Char) (a : Alias) : Option (List Char × List Char) := do
  let rest ← after a.name.toList s
  let ds := rest.takeWhile Char.isDigit
  let rest ← after ['>'] (rest.dropWhile Char.isDigit)
  if ds.isEmpty then none else some (a.chars (Decimal.natOfDigits ds), rest)

/-- The name for an id at the front of a text, and the rest. -/
def foldFront (s : List Char) (a : Alias) : Option (List Char × List Char) := do
  let rest ← after a.start.toList s
  let ds := rest.take a.digits
  if ds.length < a.digits then none
  else some (a.name.toList ++ Decimal.digits (← readHex ds) ++ ['>'], rest.drop a.digits)

/-- Replaces what `front` finds, from the front of a text on. -/
def replace (front : List Char → Option (List Char × List Char)) : (fuel : Nat) → List Char →
    List Char
  | 0, s => s
  | _, [] => []
  | fuel + 1, c :: s =>
    match front (c :: s) with
    | some (new, rest) => new ++ replace front fuel rest
    | none => c :: replace front fuel s

/-- Replaces what `front` finds in a text. -/
def replaceText (front : List Char → Option (List Char × List Char)) (s : String) : String :=
  String.ofList (replace front s.length s.toList)

/-- Puts ids in the place of their names. -/
def expand (s : String) : String := replaceText (fun s => all.findSome? (expandFront s)) s

/-- Puts names in the place of ids. -/
def fold (s : String) : String := replaceText (fun s => all.findSome? (foldFront s)) s

/-- The ids of a span. -/
def draw (n : Nat) : TraceContext.Draw :=
  ⟨0xe7a1c35bd902f68413b7ac5e_0000_0000 + n % 0x1_0000_0000,
    0xc4f19a2e_0000_0000 + n % 0x1_0000_0000,
    by omega, by omega, by omega, by omega⟩

/-- The ids of a world. -/
def naming : Naming := ⟨row.uuid, claim.uuid, draw⟩

/-- What a service draws. -/
def stamp (now : Instant) (instanceName : String) (sockets : Option Sockets) : Stamp :=
  { now, claim := fun o => (claimOn o).uuid, span := draw, instanceName, sockets }

end Alias

end Relay.Simulation
