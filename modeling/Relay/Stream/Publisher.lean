import Relay.Journal.Entry
import Relay.Stream.Connection

/-!
# Publishing to streams

A topic has a stream of its own, and a message becomes an entry of it: the headers in their order
and the payload last. A message that is too large is refused for good before anything is sent.
Otherwise a connection is set up, unless there is one, and one command is sent. Whether the server
took the message is the `Outcome.verdict`; a fault in the set-up is judged as one in the answer is.
-/

namespace Relay.Stream

open Journal

/-- Publishes messages to streams. -/
structure Publisher where
  /-- The first part of every stream's key. -/
  keyPrefix : String
  /-- The most bytes of a payload. -/
  mostBytes : Nat := 1 <<< 20
  deriving DecidableEq, Repr

/-- What a publisher does with a message. -/
inductive Delivery where
  /-- Nothing is sent. -/
  | withheld (r : Refusal)
  /-- A command with these arguments is sent. -/
  | sent (arguments : List String)
  deriving DecidableEq, Repr

/-- The fault of a reply that is no text. -/
def notText : Reply → Fault
  | .bytes _ => .worded .type "Invalid UTF-8"
  | r => ⟨.type, none, "Response was of incompatible type - " ++ FaultKind.type.name ++
      ": \"Response type not string compatible.\" (response was " ++ r.shown ++ ")"⟩

namespace Outcome

/-- Whether the command was answered by a text. -/
def result : Outcome → Except Fault Unit
  | .unlinked f => .error f
  | .lost reason => .error (.broken reason)
  | .garbled m => .error m.fault
  | .replied (.error c) => .error c.fault
  | .replied (.ok r) => if r.toText.isSome then .ok () else .error (notText r)

/-- Why the connection was lost, if it was. -/
def loss (o : Outcome) : Option String :=
  match o.result with
  | .error f => if f.isConnection then some f.message else none
  | .ok () => none

/-- Whether the server took the message. -/
def verdict (o : Outcome) : Except Refusal Unit := o.result.mapError Fault.refusal

end Outcome

namespace Publisher

/-- The key of a topic's stream. -/
def key (p : Publisher) (topic : String) : String := p.keyPrefix ++ ":" ++ topic

/-- The command that adds a message to its stream. -/
def command (p : Publisher) (m : Message) : List String :=
  ["XADD", p.key m.topic, "*"] ++ m.headers.flatMap (fun (name, value) => [name, value]) ++
    ["payload", m.payload]

/-- The refusal of a payload that is too large. -/
def tooLarge (p : Publisher) (m : Message) : Refusal :=
  .permanent ("payload of " ++ toString m.payload.utf8ByteSize ++ " bytes exceeds the " ++
    toString p.mostBytes ++ " byte limit")

/-- What is done with a message. -/
def deliver (p : Publisher) (cancelled : Bool) (m : Message) : Delivery :=
  if p.mostBytes < m.payload.utf8ByteSize then .withheld (p.tooLarge m)
  else if cancelled then .withheld (.transient "cancelled")
  else .sent (p.command m)

/-- The part of the program that publishes to streams. -/
def target : String := "brushwork_outbox::redis_streams"

/-- What is noted about a connection that is lost. -/
def lossNotes (p : Publisher) (m : Message) (o : Outcome) : List Note :=
  match o.loss with
  | none => []
  | some reason =>
    [.entry
      ⟨.warn, target, some "redis connection lost, reconnecting on next publish",
        [("stream", .text (p.key m.topic)), ("error", .text reason)]⟩]

/-- What is noted about a message: a span, and in it what went wrong. -/
def notes (p : Publisher) (m : Message) (o : Option Outcome) (result : Except Refusal Unit) :
    List Note :=
  let fields := [("topic", .quoted m.topic), ("stream", .text (p.key m.topic))]
  let span : Span := { name := "publish", target, fields }
  let losses := (o.map (p.lossNotes m)).getD []
  let failures := match result with
    | .ok () => []
    | .error r => [.entry ⟨.error, target, none, [("error", .text r.message)]⟩]
  [.opened span] ++ losses ++ failures ++ [.closed]

end Publisher

end Relay.Stream
