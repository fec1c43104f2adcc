import Relay.Table.Call

/-!
# A table in memory

A `Table` holds rows under their ids and answers the calls of a store, each in one step. A caller
that breaks off in the middle of a change leaves the table poisoned: every later call fails. A
`Work` is a unit of work, whose rows appear in the table all at once when it is committed.
-/

namespace Relay

/-- Rows, each id at most once, in the order of their insertion. -/
structure Table where
  rows : List Row := []
  /-- Whether a caller broke off in the middle of a change. -/
  broken : Bool := false

namespace Table

/-- The failure of every call to a table that is poisoned. -/
def lockPoisoned : StoreError := .storage "outbox lock poisoned"

/-- The row of an id. -/
def find? (t : Table) (id : Uuid) : Option Row := t.rows.find? (·.id = id)

/-- Whether an id is there. -/
def contains (t : Table) (id : Uuid) : Bool := (t.find? id).isSome

/-- Changes the row of an id. -/
def modify (t : Table) (id : Uuid) (f : Row → Row) : Table :=
  { t with rows := t.rows.map fun r => if r.id = id then f r else r }

/-- Puts a row in, in place of one with its id. -/
def put (t : Table) (r : Row) : Table :=
  if t.contains r.id then t.modify r.id fun _ => r else { t with rows := t.rows ++ [r] }

/-- Rows, the oldest first. -/
def oldestFirst (rows : List Row) : List Row := rows.mergeSort fun a b => !b.precedes a

/-- Adds rows, none of which may be there; of rows with one id the last stays. Answers how many
were added. -/
def insertAll (t : Table) (rows : List Row) : Except StoreError (Table × Nat) :=
  if t.broken then .error lockPoisoned
  else
    match rows.find? fun r => t.contains r.id with
    | some r => .error (.alreadyExists r.id)
    | none => .ok (rows.foldl put t, rows.length)

/-- Changes a row that is not terminal, if `f` wants to, and says whether it did. -/
def updateLive (t : Table) (id : Uuid) (f : Row → Option Row) : Table × Bool :=
  match t.find? id with
  | none => (t, false)
  | some r =>
    if r.isTerminal then (t, false)
    else
      match f r with
      | none => (t, false)
      | some r' => (t.modify id fun _ => r', true)

/-- Claims a row if it is due, and counts it. -/
def claimOne (due : Due) (claim : Claim) (expiry : Instant) (acc : Table × Nat) (id : Uuid) :
    Table × Nat :=
  match acc.1.find? id with
  | none => acc
  | some r =>
    if r.isDue due then
      (acc.1.modify id fun r => { r with claimedBy := some claim, claimedUntil := some expiry },
        acc.2 + 1)
    else acc

/-- Counts the rows of every status. -/
def countRows (due : Due) (rows : List Row) : Stats :=
  rows.foldl (fun s r => s.add (r.status due)) {}

/-- The row after a failed attempt. -/
def failed (a : Attempt) (r : Row) : Row :=
  { r with
    attempts := a.previous + 1
    notBefore := a.retryAt
    lastError := some a.error
    poisoned := a.exhausted }

/-- The row with its attempts given back. -/
def renewed (r : Row) : Row :=
  { r with
    poisoned := false
    attempts := 0
    notBefore := none
    claimedBy := none
    claimedUntil := none
    lastError := none }

/-- Whether a row can be given its attempts back. -/
def isRenewable (r : Row) : Bool := r.processed.isNone && (r.poisoned || 0 < r.attempts)

/-- Whether recording an attempt would count beyond the last number there is. -/
def overflows (t : Table) (id : Uuid) (a : Attempt) : Bool :=
  match t.find? id with
  | some r => !r.isTerminal && r.attempts = a.previous && a.previous.toNat + 1 = 1 <<< 32
  | none => false

/-- The answer of a table that is not poisoned. -/
def answer (t : Table) : (c : Call) → Table × Except StoreError c.Result
  | .insert row =>
    match t.insertAll [row] with
    | .ok (t, _) => (t, .ok ())
    | .error e => (t, .error e)
  | .hasDue due => (t, .ok (t.rows.any (·.isDue due)))
  | .selectDue due limit =>
    (t, .ok (((oldestFirst (t.rows.filter (·.isDue due))).take limit).map Row.id))
  | .claim ids due claim expiry =>
    let (t, n) := ids.foldl (claimOne due claim expiry) (t, 0)
    (t, .ok n)
  | .fetchClaimed claim now => (t, .ok (oldestFirst (t.rows.filter (·.isClaimedBy claim now))))
  | .get id => (t, .ok (t.find? id))
  | .markProcessed id now =>
    let (t, b) := t.updateLive id fun r => some { r with processed := some now }
    (t, .ok b)
  | .markPoisoned id reason =>
    let (t, b) := t.updateLive id fun r =>
      some { r with poisoned := true, lastError := some reason }
    (t, .ok b)
  | .recordFailure id attempt =>
    let (t, b) := t.updateLive id fun r =>
      if r.attempts = attempt.previous then some (failed attempt r) else none
    (t, .ok b)
  | .stats due => (t, .ok (countRows due t.rows))
  | .requeue id =>
    match t.find? id with
    | none => (t, .error (.notFound id))
    | some r => if isRenewable r then (t.modify id renewed, .ok true) else (t, .ok false)

/-- Answers a call. There is no answer when the caller breaks off, which happens when an attempt
cannot be counted; the table is poisoned from then on. -/
def respond (t : Table) (c : Call) : Table × Option (Except StoreError c.Result) :=
  if t.broken then (t, some (.error lockPoisoned))
  else
    let breaksOff := match c with
      | .recordFailure id attempt => t.overflows id attempt
      | _ => false
    if breaksOff then ({ t with broken := true }, none)
    else
      let (t, r) := t.answer c
      (t, some r)

/-- All rows, the oldest first. -/
def snapshot (t : Table) : Except StoreError (List Row) :=
  if t.broken then .error lockPoisoned else .ok (oldestFirst t.rows)

/-- Changes the row of an id, whatever its state. -/
def update (t : Table) (id : Uuid) (f : Row → Row) : Except StoreError Table :=
  if t.broken then .error lockPoisoned
  else if t.contains id then .ok (t.modify id f)
  else .error (.notFound id)

/-- A caller breaks off while it changes the row of an id. -/
def breakOff (t : Table) (id : Uuid) : Except StoreError Table :=
  (t.update id fun r => r).map fun t => { t with broken := true }

end Table

/-- A unit of work: rows that are not in the table yet. -/
structure Work where
  staged : List Row := []

namespace Work

/-- Stages a row. -/
def write (w : Work) (r : Row) : Work := ⟨w.staged ++ [r]⟩

/-- Adds the staged rows to a table, all of them or none. -/
def commit (w : Work) (t : Table) : Except StoreError (Table × Nat) := t.insertAll w.staged

end Work

end Relay
