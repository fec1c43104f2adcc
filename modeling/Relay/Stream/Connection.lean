import Relay.Stream.Reply

/-!
# Connections to a stream server

Commands are sent over a `Connection` one after the other, and each is answered by the first reply
that is received after it. Further replies belong to no command and are passed over; what is left
after them begins the next reply, and after something that is no reply a connection is of no more
use. `Connection.hear` is what comes of a command.
-/

namespace Relay.Stream

/-- How sending a command ended. -/
inductive Exchange where
  /-- The connection could not be made, or broke. -/
  | lost (reason : String)
  /-- Bytes were received. -/
  | answered (bytes : List UInt8)
  deriving DecidableEq, Repr

/-- What came of a command. -/
inductive Outcome where
  /-- No connection could be set up. -/
  | unlinked (f : Fault)
  /-- There is no connection any more. -/
  | lost (reason : String)
  /-- What was received is no reply. -/
  | garbled (m : Malformed)
  | replied (r : Reply.Result)

/-- A connection over which commands were sent. -/
structure Connection where
  /-- The bytes that were received of a reply that is not over yet. -/
  pending : List UInt8 := []
  /-- Whether something was received that is no reply. -/
  isGarbled : Bool := false
  deriving DecidableEq, Repr

/-- A command over a connection, and what is left of the connection. -/
structure Turn where
  outcome : Outcome
  /-- Whether the server got the command. -/
  isSent : Bool := true
  /-- The connection, unless it was lost. -/
  connection : Option Connection := none

namespace Connection

/-- The reason given for an answer that breaks off. -/
def brokenOff : String := "unexpected end of file"

/-- The reason given for a connection that was closed. -/
def closed : String := "broken pipe"

/-- The connection after bytes that answer no command, of which there are no more than `fuel`. -/
def after : (fuel : Nat) → List UInt8 → Connection
  | 0, pending => { pending }
  | fuel + 1, bytes =>
    match Reply.read bytes with
    | .ok (_, rest) => after fuel rest
    | .error .incomplete => { pending := bytes }
    | .error (.malformed _) => { isGarbled := true }

/-- What comes of the next command. -/
def hear (c : Connection) (e : Exchange) : Turn :=
  if c.isGarbled then { outcome := .lost closed, isSent := false }
  else
    match e with
    | .lost reason => { outcome := .lost reason }
    | .answered bytes =>
      match Reply.read (c.pending ++ bytes) with
      | .ok (r, rest) => { outcome := .replied r, connection := some (after rest.length rest) }
      | .error .incomplete => { outcome := .lost brokenOff }
      | .error (.malformed m) =>
        { outcome := .garbled m, connection := some { isGarbled := true } }

end Connection

end Relay.Stream
