import Relay.Journal.Format
import Relay.Text.Parts
import Relay.Text.Place
import Relay.Worker.Basic

/-!
# Transcripts

What a simulation writes down of a run. A worker's request is written as its name and its arguments
by their names. The lines of a journal are sorted into groups, and stand-ins take the place of ids
and times, which differ from one run to the next; lines for people are written one by one, without
colours and places in texts.
-/

namespace Relay

/-! ## Requests -/

/-- The name of a request. -/
def Request.name : Request → String
  | .publish _ => "publish"
  | .store c => c.operation

/-- An argument of a request. -/
inductive Argument where
  | flag (b : Bool)
  | number (n : Nat)
  | text (s : String)
  | instant (t : Option Instant)
  | id (id : Uuid)
  | ids (ids : List Uuid)
  | due (due : Due)
  | row (row : Row)
  | headers (headers : Headers)

/-- The arguments of a call. -/
def Call.arguments : Call → List (String × Argument)
  | .insert row => [("row", .row row)]
  | .hasDue due | .stats due => [("due", .due due)]
  | .selectDue due limit => [("due", .due due), ("limit", .number limit)]
  | .claim ids due holder expiry =>
    [("ids", .ids ids), ("due", .due due), ("claim", .text holder), ("until", .instant expiry)]
  | .fetchClaimed holder now => [("claim", .text holder), ("now", .instant now)]
  | .get id | .requeue id => [("id", .id id)]
  | .markProcessed id now => [("id", .id id), ("now", .instant now)]
  | .markPoisoned id reason => [("id", .id id), ("reason", .text reason)]
  | .recordFailure id attempt =>
    [("id", .id id), ("previous_attempts", .number attempt.previous.toNat),
      ("retry_at", .instant attempt.retryAt), ("error", .text attempt.error),
      ("exhausted", .flag attempt.exhausted)]

/-- The arguments of a request; the payload of a message is left out. -/
def Request.arguments : Request → List (String × Argument)
  | .publish message => [("topic", .text message.topic), ("headers", .headers message.headers)]
  | .store call => call.arguments

/-! ## Journals -/

namespace Journal

/-- The stand-ins for ids and times. -/
def idStandIn : String := "<id>"
def timeStandIn : String := "<time>"

/-- A field with a stand-in for what differs from one run to the next, in a run at some time. -/
def settledField (now : Instant) : String × Value → String × Value
  | (k, v) =>
    (k, match k with
      | "trace_id" | "span_id" => .text idStandIn
      | "now" | "until" | "retry_at" => .text timeStandIn
      | "due" => .text (v.shown.replace now.text timeStandIn)
      | _ => v)

/-- A value without the place that is named at its end. -/
def Value.withoutPlace : Value → Value
  | .text s => .text (Text.withoutPlace s)
  | .quoted s => .quoted (Text.withoutPlace s)
  | .number n => .number n

/-- A line with all of its fields changed. -/
def Line.mapFields (f : String × Value → String × Value) (l : Line) : Line :=
  ⟨{ l.entry with fields := l.entry.fields.map f },
    l.spans.map fun s => { s with fields := s.fields.map f }⟩

/-- A line as the journal of a run at some time is written down. -/
def Line.settled (now : Instant) (l : Line) : Line := l.mapFields (settledField now)

/-- A line whose texts name no places. -/
def Line.withoutPlaces (l : Line) : Line := l.mapFields fun (k, v) => (k, v.withoutPlace)

/-- The group that a line belongs to. -/
def Line.group (l : Line) : String :=
  if !l.spans.isEmpty || (l.entry.fields.lookup "message_id").isSome then "work"
  else ((l.entry.fields.lookup "outbox").map Value.shown).getD "process"

/-- The names of the groups. -/
def groups : List String := ["domain", "integration", "process", "work"]

/-- The lines of every group, but for the groups without lines. -/
def grouped (lines : List Line) : List (String × List Line) :=
  (groups.map fun g => (g, lines.filter fun l => l.group = g)).filter fun (_, ls) => !ls.isEmpty

/-- What follows a colour at the front of a text. -/
def afterColour : List Char → Option (List Char)
  | '\x1b' :: '[' :: rest =>
    match rest.dropWhile fun c => c.isDigit || c = ';' with
    | 'm' :: rest => some rest
    | _ => none
  | _ => none

/-- A text without colours. -/
def withoutColours : (fuel : Nat) → List Char → List Char
  | 0, s => s
  | _, [] => []
  | fuel + 1, c :: s =>
    match afterColour (c :: s) with
    | some rest => withoutColours fuel rest
    | none => c :: withoutColours fuel s

/-- The lines of a text for people, without blanks around them and empty lines, and without those
that say where in the program something happened. -/
def plainLines (s : String) : List String :=
  let lines := (Text.parts '\n' (withoutColours s.length s.toList)).map Text.trim
  (lines.filter fun l => !l.isEmpty && !"at ".toList.isPrefixOf l).map fun l =>
    Text.withoutPlace (String.ofList l)

/-- The lines of a journal for people, in the order of their texts. -/
def plainTexts (lines : List Line) : List String :=
  (lines.flatMap fun l => (l.pretty timeStandIn).flatMap plainLines).mergeSort fun a b => a ≤ b

end Journal

end Relay
