import Relay.Database.Reply
import Relay.Database.Statement
import Relay.Journal.Entry

/-!
# Dialogues with a database

A `Query` is a statement about the table of an outbox together with its parameters. A `Dialogue` is
what somebody does who may send queries and depends on their replies: it is over, or it sends a
query and goes on with the reply, or it notes something. `Dialogue.run` holds a dialogue with a
server, which is a state and a function from queries to replies.
-/

namespace Relay

open Journal

/-- A statement with its parameters. -/
structure Query where
  outbox : Outbox
  statement : Statement
  parameters : List Datum
  deriving DecidableEq, Repr

/-- The text of a query. -/
def Query.text (q : Query) : String := q.statement.text q.outbox.table

/-- A course of queries and replies that ends with a value. -/
inductive Dialogue (α : Type) where
  | done (a : α)
  | ask (q : Query) (next : Reply → Dialogue α)
  | note (n : Note) (next : Dialogue α)

namespace Dialogue

variable {α β σ : Type}

/-- Goes on with another dialogue. -/
def bind (d : Dialogue α) (f : α → Dialogue β) : Dialogue β :=
  match d with
  | done a => f a
  | ask q next => ask q fun r => (next r).bind f
  | note n next => note n (next.bind f)

instance : Monad Dialogue where
  pure := done
  bind := bind

/-- Notes several things in turn. -/
def noteAll : List Note → Dialogue Unit
  | [] => done ()
  | n :: ns => note n (noteAll ns)

/-- Holds a dialogue with a server; answers what was noted, and how the dialogue ended. -/
def run (serve : σ → Query → σ × Reply) : σ → Dialogue α → σ × List Note × α
  | s, done a => (s, [], a)
  | s, ask q next =>
    let (s, reply) := serve s q
    run serve s (next reply)
  | s, note n next =>
    let (s, notes, a) := run serve s next
    (s, n :: notes, a)

/-- Sends a query and reads its reply in an operation. -/
def perform (operation : String) (q : Query) (read : Reply → Except DatabaseFault α) :
    Dialogue (Except StoreError α) :=
  ask q fun reply => done ((read reply).mapError (·.toStoreError operation))

/-- Encloses a dialogue in a span, and notes how it failed. -/
def within (span : Span) (d : Dialogue (Except StoreError α)) : Dialogue (Except StoreError α) :=
  note (.opened span) <| d.bind fun result =>
    match result with
    | .ok a => note .closed (done (.ok a))
    | .error e =>
      note (.entry ⟨.error, span.target, none, [("error", .text e.message)]⟩)
        (note .closed (done (.error e)))

end Dialogue

end Relay
