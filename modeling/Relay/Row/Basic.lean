import Relay.Time.Instant
import Relay.Trace
import Relay.Uuid

/-!
# Rows

A `Row` is one event waiting in an outbox to be relayed to the broker, or kept there afterwards. A
row is terminal once it is processed or poisoned. It is due when it is not terminal, its retry delay
is over, no live claim holds it and it has attempts left. `Row.status` names the one reason why a
row is or is not due.
-/

namespace Relay

/-- The two outboxes: one for events consumed inside the application, one for other systems. -/
inductive Outbox where
  | domain
  | integration
  deriving DecidableEq, Repr

/-- The name of an outbox. -/
def Outbox.name : Outbox → String
  | .domain => "domain"
  | .integration => "integration"

/-- The table that holds the rows of an outbox. -/
def Outbox.table (o : Outbox) : String := o.name ++ "_outbox"

/-- The names of the outboxes. -/
def Outbox.names : List String := ["domain", "integration"]

/-- The name of a claim: it stands for one iteration of one worker. -/
abbrev Claim := String

/-- The claim of an instance with a fresh id. -/
def Claim.ofInstance (name : String) (id : Uuid) : Claim := name ++ "/" ++ id.text

/-- One row of an outbox. -/
structure Row where
  id : Uuid
  name : String
  version : UInt16
  tenant : Uuid
  username : String
  occurred : Instant
  correlation : Option String
  causation : Option String
  /-- The trace id of the producer, in hexadecimal. -/
  traceId : Option String
  /-- The span id of the producer, in hexadecimal. -/
  parentSpan : Option String
  traceFlags : Option UInt8
  traceState : Option String
  /-- The event as JSON. -/
  payload : String
  created : Instant
  /-- When the row was relayed. -/
  processed : Option Instant
  /-- The failed attempts so far. -/
  attempts : UInt32
  /-- The end of the retry delay. -/
  notBefore : Option Instant
  claimedBy : Option Claim
  claimedUntil : Option Instant
  poisoned : Bool
  lastError : Option String
  deriving DecidableEq, Repr

/-- Which rows are due: the time, and the number of attempts after which a row rests. -/
structure Due where
  now : Instant
  maxAttempts : UInt32
  deriving DecidableEq, Repr

/-- Where a row stands. -/
inductive Status where
  /-- The row may be claimed. -/
  | pending
  /-- The row waits out a retry delay. -/
  | backingOff
  /-- A live claim holds the row. -/
  | claimed
  | processed
  | poisoned
  /-- The row has no attempts left. -/
  | stalled
  deriving DecidableEq, Repr

/-- The name of a status. -/
def Status.name : Status → String
  | .pending => "pending"
  | .backingOff => "backing_off"
  | .claimed => "claimed"
  | .processed => "processed"
  | .poisoned => "poisoned"
  | .stalled => "stalled"

/-- The names of the statuses. -/
def Status.names : List String :=
  ["pending", "backing_off", "claimed", "processed", "poisoned", "stalled"]

namespace Row

/-- Processed or poisoned. -/
def isTerminal (r : Row) : Bool := r.processed.isSome || r.poisoned

/-- Whether the retry delay is over. -/
def isReady (r : Row) (now : Instant) : Bool :=
  match r.notBefore with
  | none => true
  | some t => t ≤ now

/-- Whether a claim holds the row that has not run out. -/
def isLeased (r : Row) (now : Instant) : Bool :=
  match r.claimedUntil with
  | none => false
  | some t => now ≤ t

/-- Whether the row may be claimed. -/
def isDue (r : Row) (due : Due) : Bool :=
  !r.isTerminal && r.isReady due.now && !r.isLeased due.now && r.attempts < due.maxAttempts

/-- Whether a claim holds the row and has not run out. -/
def isClaimedBy (r : Row) (claim : Claim) (now : Instant) : Bool :=
  r.claimedBy = some claim && r.isLeased now

/-- Where the row stands. -/
def status (r : Row) (due : Due) : Status :=
  if r.processed.isSome then .processed
  else if r.poisoned then .poisoned
  else if due.maxAttempts ≤ r.attempts then .stalled
  else if r.isLeased due.now then .claimed
  else if !r.isReady due.now then .backingOff
  else .pending

/-- The trace context of the producer, if one was kept and is well formed. -/
def traceContext (r : Row) : Option TraceContext := do
  let traceId ← r.traceId
  let span ← r.parentSpan
  TraceContext.ofStored traceId span (r.traceFlags.getD 0) r.traceState

/-- Whether one row was created before another; of rows created at once, the smaller id. -/
def precedes (a b : Row) : Bool :=
  a.created < b.created || (a.created = b.created && a.id < b.id)

/-- A row is pending exactly when it is due. -/
theorem status_eq_pending_iff {r : Row} {due : Due} : r.status due = .pending ↔ r.isDue due := by
  have attempts : due.maxAttempts ≤ r.attempts ↔ ¬ r.attempts < due.maxAttempts := by
    rw [UInt32.le_iff_toNat_le, UInt32.lt_iff_toNat_lt, Nat.not_lt]
  unfold status isDue isTerminal
  by_cases hp : r.processed.isSome <;> by_cases hq : r.poisoned <;>
    by_cases ha : r.attempts < due.maxAttempts <;> by_cases hl : r.isLeased due.now <;>
    by_cases hr : r.isReady due.now <;> simp [hp, hq, ha, hl, hr, attempts]

end Row

end Relay
