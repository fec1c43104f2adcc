import Relay.Journal.Filter
import Relay.Json.Writer

/-!
# How a journal is written

A `Line` is an entry that is shown, with the spans around it that are shown, the outermost first.
`lines` makes the lines of a course of notes. A line is written as a JSON object or, for people, as
a text with a further line for every span, the innermost first.
-/

namespace Relay.Journal

/-- How lines are written. -/
inductive Style where
  | json
  | pretty
  deriving DecidableEq, Repr

/-- The style of a setting; whatever is not known is JSON. -/
def Style.ofSetting (s : String) : Style :=
  match (Text.trimmed s).map Char.toLower with
  | "pretty" | "text" => .pretty
  | _ => .json

/-- An entry within its spans, the outermost first. -/
structure Line where
  entry : Entry
  spans : List Span
  deriving DecidableEq, Repr

/-- A span that is open. -/
structure OpenSpan where
  span : Span
  isShown : Bool

/-- How much is shown within spans because of them. Only spans that are shown count. -/
def around (f : Filter) (spans : List OpenSpan) : Nat :=
  ((spans.filter (·.isShown)).map fun s => f.within s.span).foldl max 0

/-- Takes one note into account, with the spans around it, the innermost first; the line of an
entry, if it is shown. -/
def follow (f : Filter) (spans : List OpenSpan) : Note → List OpenSpan × Option Line
  | .entry e =>
    let shown := ((spans.filter (·.isShown)).map OpenSpan.span).reverse
    (spans, if f.showsEntry (around f spans) e then some ⟨e, shown⟩ else none)
  | .opened s => (⟨s, f.showsSpan (around f spans) s⟩ :: spans, none)
  | .extended fields =>
    match spans with
    | s :: rest => ({ s with span.fields := s.span.fields ++ fields } :: rest, none)
    | [] => ([], none)
  | .closed => (spans.drop 1, none)

/-- The lines of notes within some spans. -/
def linesWithin (f : Filter) : List OpenSpan → List Note → List Line
  | _, [] => []
  | spans, n :: ns =>
    let (spans, line) := follow f spans n
    line.toList ++ linesWithin f spans ns

/-- The lines of notes. -/
def lines (f : Filter) (notes : List Note) : List Line := linesWithin f [] notes

/-! ## JSON -/

/-- The JSON text of a value. -/
def Value.json : Value → String
  | .text s | .quoted s => String.ofList (Json.writeString s)
  | .number n => toString n

/-- An object of named JSON texts. -/
def object (members : List (String × String)) : String :=
  let texts := members.map fun (k, v) => String.ofList (Json.writeString k) ++ ":" ++ v
  "\x7b" ++ ",".intercalate texts ++ "\x7d"

/-- The JSON texts of fields. -/
def members (fields : Fields) : List (String × String) := fields.map fun (k, v) => (k, v.json)

/-- A span as an object: its fields and its name. -/
def Span.json (s : Span) : String := object (members s.fields ++ members [("name", .text s.name)])

/-- A line as an object. -/
def Line.json (time : String) (l : Line) : String :=
  let message := (l.entry.message.map fun m => ("message", Value.text m)).toList
  let spans := match l.spans.getLast? with
    | none => []
    | some inner =>
      [("span", inner.json), ("spans", "[" ++ ",".intercalate (l.spans.map Span.json) ++ "]")]
  object
    ([("timestamp", (Value.text time).json), ("level", (Value.text l.entry.level.name).json),
      ("fields", object (members (message ++ l.entry.fields)))] ++ spans)

/-! ## For people -/

/-- A value as people read it. -/
def Value.pretty : Value → String
  | .text s => s
  | .quoted s => Text.quote s
  | .number n => toString n

/-- Fields with their names. -/
def prettyFields (fields : Fields) : List String := fields.map fun (k, v) => k ++ ": " ++ v.pretty

/-- A line as people read it. -/
def Line.pretty (time : String) (l : Line) : List String :=
  let parts := l.entry.message.toList ++ prettyFields l.entry.fields
  let first := time ++ " " ++ l.entry.level.name ++ " " ++ l.entry.target ++ ": " ++
    ", ".intercalate parts
  let around (s : Span) : String :=
    let name := "in " ++ s.target ++ "::" ++ s.name
    if s.fields.isEmpty then name else name ++ " with " ++ ", ".intercalate (prettyFields s.fields)
  first :: l.spans.reverse.map around

/-- The texts of a line in a style. -/
def Line.write (style : Style) (time : String) (l : Line) : List String :=
  match style with
  | .json => [l.json time]
  | .pretty => l.pretty time

end Relay.Journal
