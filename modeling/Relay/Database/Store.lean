import Relay.Database.Codec
import Relay.Database.Dialogue
import Relay.Time.Text

/-!
# The store of an outbox in a database

Every call to a store is a dialogue with the database: one statement, whose condition makes sure
that two callers who race for a row never both change it, and for `requeue` of a row that is not
changed another one that looks whether the row is there. `createSchema` creates the table of an
outbox and its indexes, and `write` adds a row within the transaction of somebody else.
-/

namespace Relay.Database

open Journal

/-- The part of the program that speaks to the database. -/
def target : String := "brushwork_outbox::store::postgres"

/-- The indexes of a table. -/
def indexes : List Statement :=
  [.createIndex "due_idx" [.created, .id] .live,
    .createIndex "claimed_by_idx" [.claimedBy] (.isNotNull .claimedBy)]

/-- The row with the id of the first parameter, if it is live. -/
def liveChosen : Condition := .and .chosen .live

/-- The rows that a live claim holds. -/
def held : Condition :=
  .and (.compares .claimedBy .equal (.parameter 1))
    (.compares .claimedUntil .atLeast (.parameter 2))

/-- The row is not processed and has been poisoned or has failed attempts. -/
def renewable : Condition :=
  .and .chosen
    (.and (.isNull .processed)
      (.or (.holds .poisoned) (.compares .attempts .more (.integer 0))))

/-- The changes that give a row its attempts back. -/
def renewal : List (Column × Term) :=
  [(.poisoned, .boolean false), (.attempts, .integer 0), (.notBefore, .null), (.claimedBy, .null),
    (.claimedUntil, .null), (.lastError, .null)]

/-- The row is live and has attempts left, and something else holds of it. -/
def pendingAnd (c : Condition) : Condition := .and .live (.and .untired c)

/-- The counts of the rows of every status. -/
def tallies : List Tallied :=
  [⟨Status.processed.name, .isNotNull .processed, false⟩,
    ⟨Status.poisoned.name, .and (.isNull .processed) (.holds .poisoned), false⟩,
    ⟨Status.stalled.name, .and .live (.compares .attempts .atLeast (.parameter 2)), true⟩,
    ⟨Status.claimed.name, pendingAnd (.compares .claimedUntil .atLeast (.parameter 1)), false⟩,
    ⟨Status.backingOff.name,
      pendingAnd (.and .unclaimed (.compares .notBefore .more (.parameter 1))), true⟩,
    ⟨Status.pending.name, pendingAnd (.and .unclaimed .ready), true⟩]

/-- The parameters that say which rows are due. -/
def dueData (due : Due) : List Datum := [.ofInstant due.now, attemptsDatum due.maxAttempts]

/-- The most rows that a statement can be asked for. -/
def mostRows : Nat := 1 <<< 63 - 1

/-- The statement of a call, with its parameters. -/
def query (o : Outbox) : Call → Query
  | .insert row => ⟨o, .insert, row.data⟩
  | .hasDue due => ⟨o, .exists .due, dueData due⟩
  | .selectDue due limit =>
    ⟨o, .select [.id] .due (some 3), dueData due ++ [.integer (min limit mostRows)]⟩
  | .claim ids due claim expiry =>
    ⟨o,
      .update [(.claimedBy, .parameter 3), (.claimedUntil, .parameter 4)]
        (.and (.among .id 5) .due),
      dueData due ++ [.text claim, .ofInstant expiry, .uuids ids]⟩
  | .fetchClaimed claim now => ⟨o, .select Column.all held none, [.text claim, .ofInstant now]⟩
  | .get id => ⟨o, .selectOne Column.all .chosen, [.uuid id]⟩
  | .markProcessed id now =>
    ⟨o, .update [(.processed, .parameter 2)] liveChosen, [.uuid id, .ofInstant now]⟩
  | .markPoisoned id reason =>
    ⟨o, .update [(.poisoned, .boolean true), (.lastError, .parameter 2)] liveChosen,
      [.uuid id, .text reason]⟩
  | .recordFailure id attempt =>
    ⟨o,
      .update
        [(.attempts, .parameter 3), (.notBefore, .parameter 4), (.lastError, .parameter 5),
          (.poisoned, .parameter 6)]
        (.and .chosen (.and (.compares .attempts .equal (.parameter 2)) .live)),
      [.uuid id, attemptsDatum attempt.previous,
        .integer (min (attempt.previous.toNat + 1) mostStoredAttempts),
        .ofOption .ofInstant attempt.retryAt, .text attempt.error, .boolean attempt.exhausted]⟩
  | .stats due => ⟨o, .count tallies, dueData due⟩
  | .requeue id => ⟨o, .update renewal renewable, [.uuid id]⟩

/-- An instant among the fields of a span. -/
def instantField (name : String) (t : Instant) : String × Value := (name, .text t.text)

/-- Which rows are due, among the fields of a span. -/
def dueField (due : Due) : String × Value :=
  ("due", .text ("Due \x7b now: " ++ due.now.text ++ ", max_attempts: " ++
    toString due.maxAttempts.toNat ++ " \x7d"))

/-- The fields of the span around something done to a row: its arguments, the outbox and the row. -/
def rowFields (o : Outbox) (id : Uuid) (arguments : Fields) : Fields :=
  [("id", .text ("MessageId(" ++ id.text ++ ")"))] ++ arguments ++
    [("outbox", .text o.name), ("message_id", .text id.text)]

/-- The fields of the span around adding a row. -/
def insertFields (o : Outbox) (row : Row) : Fields :=
  [("outbox", .text o.name), ("message_id", .text row.id.text)]

/-- The fields of the span around a call; a look for due rows has none. -/
def spanFields (o : Outbox) : Call → Option Fields
  | .insert row => some (insertFields o row)
  | .hasDue _ => none
  | .selectDue due limit =>
    some [dueField due, ("limit", .number limit), ("outbox", .text o.name)]
  | .claim ids due claim expiry =>
    some
      [dueField due, instantField "until" expiry, ("outbox", .text o.name), ("claim", .text claim),
        ("candidates", .number ids.length)]
  | .fetchClaimed claim now =>
    some [instantField "now" now, ("outbox", .text o.name), ("claim", .text claim)]
  | .get id => some (rowFields o id [])
  | .markProcessed id now => some (rowFields o id [instantField "now" now])
  | .markPoisoned id reason => some (rowFields o id [("reason", .quoted reason)])
  | .recordFailure id attempt =>
    some (rowFields o id [] ++ [("attempts", .number (attempt.previous.toNat + 1))])
  | .stats due => some [dueField due, ("outbox", .text o.name)]
  | .requeue id => some (rowFields o id [])

/-- Encloses a dialogue in the span of a call. -/
def observed (o : Outbox) (c : Call) (d : Dialogue (Except StoreError c.Result)) :
    Dialogue (Except StoreError c.Result) :=
  match spanFields o c with
  | some fields => d.within { name := c.operation, target, fields }
  | none => d

/-- Performs the statement of a call. -/
def performed {α : Type} (o : Outbox) (c : Call) (read : Reply → Except DatabaseFault α) :
    Dialogue (Except StoreError α) :=
  .perform c.operation (query o c) read

/-- Whether a statement changed exactly one row. -/
def changedOne (r : Reply) : Except DatabaseFault Bool := do .ok ((← r.count) = 1)

/-- A count among those of the rows of every status. -/
def readCount (r : Record) (s : Status) : Except DatabaseFault Nat := do
  let n ← r.value s.name .bigint
  .ok n.toNat

/-- The counts of a record. -/
def readStats (r : Record) : Except DatabaseFault Stats := do
  .ok
    { pending := ← readCount r .pending
      backingOff := ← readCount r .backingOff
      claimed := ← readCount r .claimed
      processed := ← readCount r .processed
      poisoned := ← readCount r .poisoned
      stalled := ← readCount r .stalled }

/-- Reads rows out of the records of a reply. -/
def readRows (records : Except StoreError (List Record)) : Except StoreError (List Row) := do
  (← records).mapM Row.ofStored

/-- Looks a row up. -/
def lookUp (o : Outbox) (id : Uuid) : Dialogue (Except StoreError (Option Row)) :=
  observed o (.get id) <|
    (performed o (.get id) Reply.records).bind fun records =>
      .done (readRows (records.map (List.take 1)) |>.map List.head?)

/-- The dialogue of a call. -/
def respond (o : Outbox) : (c : Call) → Dialogue (Except StoreError c.Result)
  | .insert row =>
    observed o (.insert row) <| performed o (.insert row) fun r => r.count.map fun _ => ()
  | .hasDue due =>
    observed o (.hasDue due) <|
      performed o (.hasDue due) fun r => do (← r.first).valueAt 0 .boolean
  | .selectDue due limit =>
    observed o (.selectDue due limit) <|
      performed o (.selectDue due limit) fun r => do
        (← r.records).mapM fun record => record.value Column.id.text .uuid
  | .claim ids due claim expiry =>
    observed o (.claim ids due claim expiry) <|
      if ids.isEmpty then .done (.ok 0)
      else performed o (.claim ids due claim expiry) Reply.count
  | .fetchClaimed claim now =>
    observed o (.fetchClaimed claim now) <|
      (performed o (.fetchClaimed claim now) Reply.records).bind fun records =>
        .done (readRows records)
  | .get id => lookUp o id
  | .markProcessed id now =>
    observed o (.markProcessed id now) <| performed o (.markProcessed id now) changedOne
  | .markPoisoned id reason =>
    observed o (.markPoisoned id reason) <| performed o (.markPoisoned id reason) changedOne
  | .recordFailure id attempt =>
    observed o (.recordFailure id attempt) <| performed o (.recordFailure id attempt) changedOne
  | .stats due =>
    observed o (.stats due) <| performed o (.stats due) fun r => do readStats (← r.first)
  | .requeue id =>
    observed o (.requeue id) <|
      (performed o (.requeue id) changedOne).bind fun changed =>
        match changed with
        | .error e => .done (.error e)
        | .ok true => .done (.ok true)
        | .ok false =>
          (lookUp o id).bind fun found =>
            .done (found.bind fun
              | some _ => .ok false
              | none => .error (.notFound id))

/-- Performs statements in turn until one fails. -/
def performAll (operation : String) : List Query → Dialogue (Except StoreError Unit)
  | [] => .done (.ok ())
  | q :: qs =>
    (Dialogue.perform operation q fun r => r.count.map fun _ => ()).bind fun result =>
      match result with
      | .error e => .done (.error e)
      | .ok () => performAll operation qs

/-- Creates the table of an outbox and its indexes, where they are missing. -/
def createSchema (o : Outbox) : Dialogue (Except StoreError Unit) :=
  Dialogue.within { name := "init_schema", target, fields := [("outbox", .text o.name)] } <|
    performAll "init_schema" ((.createTable :: indexes).map fun s => ⟨o, s, []⟩)

/-- Adds a row within a transaction. -/
def write (o : Outbox) (row : Row) : Dialogue (Except StoreError Unit) :=
  Dialogue.within { name := "write", target, fields := insertFields o row } <|
    .perform "write" ⟨o, .insert, row.data⟩ fun r => r.count.map fun _ => ()

end Relay.Database
