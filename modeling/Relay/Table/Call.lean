import Relay.Row.Basic

/-!
# Calls to a store of rows

A `Call` is something asked of the store that holds the rows of an outbox, and `Call.Result` the
type of its answer. Whatever changes a row that is still alive is conditional, so that two workers
that race for a row never both win.
-/

namespace Relay

/-- Why a store did not answer. -/
inductive StoreError where
  | notFound (id : Uuid)
  | alreadyExists (id : Uuid)
  | storage (reason : String)
  | serialization (reason : String)
  deriving DecidableEq, Repr

/-- The wording of a failed call. -/
def StoreError.message : StoreError → String
  | .notFound id => "outbox message not found: " ++ id.text
  | .alreadyExists id => "outbox message already exists: " ++ id.text
  | .storage reason => "storage error: " ++ reason
  | .serialization reason => "serialization error: " ++ reason

/-- A failed attempt at relaying a row. -/
structure Attempt where
  /-- The failed attempts when the row was read. -/
  previous : UInt32
  /-- The end of the retry delay, if there is another attempt. -/
  retryAt : Option Instant
  error : String
  /-- Whether this was the last attempt. -/
  exhausted : Bool
  deriving DecidableEq, Repr

/-- The number of rows of every status. -/
structure Stats where
  pending : Nat := 0
  backingOff : Nat := 0
  claimed : Nat := 0
  processed : Nat := 0
  poisoned : Nat := 0
  stalled : Nat := 0
  deriving DecidableEq, Repr

/-- The number of all rows. -/
def Stats.total (s : Stats) : Nat :=
  s.pending + s.backingOff + s.claimed + s.processed + s.poisoned + s.stalled

/-- The counts by the names of the statuses. -/
def Stats.counts (s : Stats) : List (String × Nat) :=
  [(Status.pending.name, s.pending), (Status.backingOff.name, s.backingOff),
    (Status.claimed.name, s.claimed), (Status.processed.name, s.processed),
    (Status.poisoned.name, s.poisoned), (Status.stalled.name, s.stalled)]

/-- Counts a row. -/
def Stats.add (s : Stats) : Status → Stats
  | .pending => { s with pending := s.pending + 1 }
  | .backingOff => { s with backingOff := s.backingOff + 1 }
  | .claimed => { s with claimed := s.claimed + 1 }
  | .processed => { s with processed := s.processed + 1 }
  | .poisoned => { s with poisoned := s.poisoned + 1 }
  | .stalled => { s with stalled := s.stalled + 1 }

/-- What is asked of a store. -/
inductive Call where
  /-- Adds a row. -/
  | insert (row : Row)
  /-- Whether any row is due. -/
  | hasDue (due : Due)
  /-- The ids of due rows, the oldest first. -/
  | selectDue (due : Due) (limit : Nat)
  /-- Claims those of some rows that are still due, and counts them. -/
  | claim (ids : List Uuid) (due : Due) (claim : Claim) (expiry : Instant)
  /-- The rows that a live claim holds, the oldest first. -/
  | fetchClaimed (claim : Claim) (now : Instant)
  | get (id : Uuid)
  /-- Records that a row was relayed, unless it is terminal. -/
  | markProcessed (id : Uuid) (now : Instant)
  /-- Poisons a row, unless it is terminal. -/
  | markPoisoned (id : Uuid) (reason : String)
  /-- Records a failed attempt, unless the row is terminal or had another one since. -/
  | recordFailure (id : Uuid) (attempt : Attempt)
  | stats (due : Due)
  /-- Gives a row that is not processed its attempts back. -/
  | requeue (id : Uuid)
  deriving DecidableEq, Repr

/-- The name of a call. -/
def Call.operation : Call → String
  | .insert _ => "insert"
  | .hasDue _ => "has_due"
  | .selectDue _ _ => "select_due_ids"
  | .claim _ _ _ _ => "claim"
  | .fetchClaimed _ _ => "fetch_claimed"
  | .get _ => "get"
  | .markProcessed _ _ => "mark_processed"
  | .markPoisoned _ _ => "mark_poisoned"
  | .recordFailure _ _ => "record_failure"
  | .stats _ => "stats"
  | .requeue _ => "requeue"

/-- What a call answers when it succeeds. -/
@[reducible] def Call.Result : Call → Type
  | .insert _ => Unit
  | .hasDue _ => Bool
  | .selectDue _ _ => List Uuid
  | .claim _ _ _ _ => Nat
  | .fetchClaimed _ _ => List Row
  | .get _ => Option Row
  | .markProcessed _ _ => Bool
  | .markPoisoned _ _ => Bool
  | .recordFailure _ _ => Bool
  | .stats _ => Stats
  | .requeue _ => Bool

end Relay
