import Relay.Text.Quoted

/-!
# Journal entries

What the program tells about itself. An `Entry` is an event with named values, a `Span` encloses
the entries of one piece of work, and a `Note` is one thing written to a journal: an entry, a span
that begins or ends, or values added to the innermost span.
-/

namespace Relay.Journal

/-- How much an entry matters. -/
inductive Level where
  | error
  | warn
  | info
  | debug
  | trace
  deriving DecidableEq, Repr

/-- The name of a level. -/
def Level.name : Level → String
  | .error => "ERROR"
  | .warn => "WARN"
  | .info => "INFO"
  | .debug => "DEBUG"
  | .trace => "TRACE"

/-- How much a level tells: each level includes those before it. -/
def Level.rank : Level → Nat
  | .error => 1
  | .warn => 2
  | .info => 3
  | .debug => 4
  | .trace => 5

/-- The value of a field. -/
inductive Value where
  | text (s : String)
  /-- A text that stands in quotes where people read it. -/
  | quoted (s : String)
  | number (n : Nat)
  deriving DecidableEq, Repr

/-- The text of a value. -/
def Value.shown : Value → String
  | .text s => s
  | .quoted s => s
  | .number n => toString n

/-- Named values. -/
abbrev Fields := List (String × Value)

/-- An event of the program. -/
structure Entry where
  level : Level
  /-- The part of the program that speaks. -/
  target : String
  /-- What happened; failures that are reported elsewhere too have no message. -/
  message : Option String
  fields : Fields
  deriving DecidableEq, Repr

/-- A piece of work that encloses entries. -/
structure Span where
  name : String
  target : String
  fields : Fields
  /-- The names of the values that may be added. -/
  later : List String := []
  deriving DecidableEq, Repr

/-- Something written to a journal. -/
inductive Note where
  | entry (e : Entry)
  | opened (s : Span)
  /-- Values are added to the innermost span. -/
  | extended (fields : Fields)
  | closed
  deriving DecidableEq, Repr

/-- The names of the spans around the next note, the innermost first. -/
def enclosing (names : List String) : Note → List String
  | .opened s => s.name :: names
  | .closed => names.drop 1
  | _ => names

/-- Notes, each with the name of the innermost span around it. -/
def placed (names : List String) : List Note → List (Note × Option String)
  | [] => []
  | n :: ns => (n, names.head?) :: placed (enclosing names n) ns

end Relay.Journal
