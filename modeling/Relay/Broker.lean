import Relay.Event.Schema

/-!
# The broker

A broker takes messages: a topic, a payload and headers. It may refuse one for good or for now, and
a worker relies on nothing but that difference. `Broker` is a broker held in memory: it keeps what
it accepts in order and refuses as it was told to.
-/

namespace Relay

/-- The headers of a message in ascending order of their names, each name once. -/
abbrev Headers := List (String × String)

/-- Sets a header. -/
def Headers.insert (name value : String) : Headers → Headers
  | [] => [(name, value)]
  | (n, v) :: rest =>
    if name < n then (name, value) :: (n, v) :: rest
    else if name = n then (name, value) :: rest
    else (n, v) :: Headers.insert name value rest

/-- The value of a header. -/
def Headers.get? (hs : Headers) (name : String) : Option String := hs.lookup name

/-- A message for the broker. -/
structure Message where
  topic : String
  payload : String
  headers : Headers
  deriving DecidableEq, Repr

/-- Why a message was not accepted. -/
inductive Refusal where
  /-- The broker will never accept it. -/
  | permanent (reason : String)
  /-- The broker may accept it later. -/
  | transient (reason : String)
  deriving DecidableEq, Repr

/-- The wording of a refusal. -/
def Refusal.message : Refusal → String
  | .permanent reason => "broker rejected message: " ++ reason
  | .transient reason => "publish failed: " ++ reason

/-- A broker in memory. -/
structure Broker where
  /-- The accepted messages in order. -/
  accepted : List Message := []
  /-- The refusals that are still to be given. -/
  refusals : List Refusal := []

namespace Broker

/-- Tells the broker to refuse one more message. -/
def refuse (b : Broker) (r : Refusal) : Broker := { b with refusals := b.refusals ++ [r] }

/-- Offers a message. Nothing is accepted once the caller is cancelled. -/
def publish (b : Broker) (cancelled : Bool) (m : Message) : Broker × Except Refusal Unit :=
  if cancelled then (b, .error (.transient "cancelled"))
  else
    match b.refusals with
    | r :: rest => ({ b with refusals := rest }, .error r)
    | [] => ({ b with accepted := b.accepted ++ [m] }, .ok ())

/-- The topics of the accepted messages. -/
def topics (b : Broker) : List String := b.accepted.map Message.topic

end Broker

end Relay
