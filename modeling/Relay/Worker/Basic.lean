import Relay.Event.Registry
import Relay.Metrics
import Relay.Table.Call
import Relay.Tuning
import Relay.Worker.Publish

/-!
# Workers

A `Worker` relays the rows of one outbox to the broker. An iteration looks whether any row is due,
selects the oldest due rows, claims those that are still due under a fresh claim, and reads back
what it holds. Then it goes through them: it reads each row again, checks that the row is alive and
still its own, that its type is known and its payload valid, publishes it and records the outcome.
What goes wrong with one row never ends the batch.

The worker is a machine: a `Phase` is an iteration that waits for the answer to one request, and
`Phase.resume` takes the answer to the next phase or to the end. Whatever the worker learns from its
surroundings, the time and whether it was cancelled among it, comes with the answer in a `Reading`.
-/

namespace Relay

open Journal

/-- A worker. -/
structure Worker where
  outbox : Outbox
  registry : Registry
  tuning : Tuning
  sink : Sink

/-- What a worker reads from its surroundings before it goes on. -/
structure Reading where
  now : Instant
  /-- Whether the worker was told to stop. -/
  cancelled : Bool
  /-- An id that no claim has had. -/
  claimId : Uuid
  /-- A random number between minus one and one. -/
  draw : Float
  /-- Ids that no span has had. -/
  spanIds : TraceContext.Draw

/-- What became of one row of a batch. -/
inductive RowOutcome where
  | processed
  | poisoned (reason : PoisonReason)
  | failed (attempts : UInt32) (retryAt : Instant)
  /-- The row is gone, terminal or no longer the worker's. -/
  | skipped
  /-- The worker was told to stop while it published. -/
  | abandoned
  /-- The row could not be read or written. -/
  | storeError
  deriving DecidableEq, Repr

/-- Counts of what became of the rows of a batch. -/
structure Report where
  claimed : Nat := 0
  processed : Nat := 0
  poisoned : Nat := 0
  failed : Nat := 0
  skipped : Nat := 0
  abandoned : Nat := 0
  storeErrors : Nat := 0
  deriving DecidableEq, Repr

/-- Counts what became of a row. -/
def Report.record (r : Report) : RowOutcome → Report
  | .processed => { r with processed := r.processed + 1 }
  | .poisoned _ => { r with poisoned := r.poisoned + 1 }
  | .failed _ _ => { r with failed := r.failed + 1 }
  | .skipped => { r with skipped := r.skipped + 1 }
  | .abandoned => { r with abandoned := r.abandoned + 1 }
  | .storeError => { r with storeErrors := r.storeErrors + 1 }

/-- The counts by their names. -/
def Report.counts (r : Report) : List (String × Nat) :=
  [("claimed", r.claimed), ("processed", r.processed), ("poisoned", r.poisoned),
    ("failed", r.failed), ("skipped", r.skipped), ("abandoned", r.abandoned),
    ("store_errors", r.storeErrors)]

/-- The parts of an iteration that end it when they fail. -/
inductive Stage where
  | dueCheck
  | selection
  | claim
  | batchRead
  deriving DecidableEq, Repr

/-- The name of a stage. -/
def Stage.name : Stage → String
  | .dueCheck => "due check"
  | .selection => "selection"
  | .claim => "claim"
  | .batchRead => "batch read"

/-- How an iteration ended. -/
inductive Outcome where
  /-- No row was due. -/
  | idle
  /-- Other workers claimed the due rows first. -/
  | lostRace
  | dispatched (report : Report)
  | failed (stage : Stage) (error : StoreError)
  deriving DecidableEq, Repr

/-- The message about an iteration that failed. -/
def Stage.failure (s : Stage) (e : StoreError) : String :=
  "outbox " ++ s.name ++ " failed: " ++ e.message

/-- The rows of a batch that are still to be processed. -/
structure Batch where
  claim : Claim
  report : Report
  waiting : List Uuid
  deriving DecidableEq, Repr

/-- An iteration that waits for an answer. -/
inductive Phase where
  | checking (due : Due)
  | selecting (due : Due)
  | claiming (ids : List Uuid) (due : Due) (claim : Claim) (expiry : Instant)
  | fetching (claim : Claim) (claimed : Nat) (now : Instant)
  /-- A row is read again. -/
  | reading (batch : Batch) (id : Uuid)
  | publishing (batch : Batch) (row : Row) (span : PublishSpan)
  | completing (batch : Batch) (row : Row) (span : PublishSpan) (now : Instant)
  | poisoning (batch : Batch) (row : Row) (span : PublishSpan) (reason : PoisonReason)
      (detail : String)
  | failing (batch : Batch) (row : Row) (span : PublishSpan) (attempt : Attempt)
      (retryAt : Instant) (reason : String)

/-- What a phase asks for. -/
inductive Request where
  | store (call : Call)
  | publish (message : Message)

/-- The answer to a request. -/
@[reducible] def Request.Answer : Request → Type
  | .store call => Except StoreError call.Result
  | .publish _ => Except Refusal Unit

/-- Where an iteration stands. -/
inductive Progress where
  | waiting (phase : Phase)
  | finished (outcome : Outcome)

/-- What a worker does beside its requests. -/
inductive Act where
  | note (n : Note)
  | measure (m : Measurement)

/-- A step of a worker: what it did, and where it stands. -/
structure Step where
  acts : List Act
  progress : Progress

namespace Worker

/-- The part of the program that workers speak for. -/
def target : String := "brushwork_outbox::dispatcher"

/-- An entry of a worker. -/
def entry (level : Level) (message : String) (fields : Fields) : Act :=
  .note (.entry ⟨level, target, some message, fields⟩)

/-- A retry never waits less. -/
def leastDelay : Duration := .ofMillis 1

/-- The outbox as a field. -/
def outboxField (w : Worker) : String × Value := ("outbox", .text w.outbox.name)

/-- A row's id as a field. -/
def idField (id : Uuid) : String × Value := ("message_id", .text id.text)

/-- A row's event as a field. -/
def eventField (row : Row) : String × Value := ("event", .text row.name)

/-- A failure as a field. -/
def errorField (text : String) : String × Value := ("error", .text text)

/-- Which rows are due for the worker. -/
def due (w : Worker) (now : Instant) : Due := ⟨now, w.tuning.maxAttempts⟩

/-- The acts of a publish span. -/
def notes (ns : List Note) : List Act := ns.map .note

/-- An iteration begins by looking whether any row is due. -/
def start (w : Worker) (r : Reading) : Phase := .checking (w.due r.now)

/-- An iteration that ends without a batch. -/
def stop (acts : List Act) (outcome : Outcome) : Step := ⟨acts, .finished outcome⟩

/-- The iteration ends with a report. -/
def finish (acts : List Act) (report : Report) : Step :=
  ⟨acts ++ [.measure (.iteration report.claimed)], .finished (.dispatched report)⟩

/-- Goes on to the next row of the batch. Once the worker is told to stop, the rest of the batch is
abandoned. -/
def nextRow (acts : List Act) (b : Batch) (r : Reading) : Step :=
  match b.waiting with
  | [] => finish acts b.report
  | id :: rest =>
    if r.cancelled then
      finish acts { b.report with abandoned := b.report.abandoned + (rest.length + 1) }
    else ⟨acts, .waiting (.reading { b with waiting := rest } id)⟩

/-- Counts what became of a row and goes on to the next. -/
def settle (acts : List Act) (b : Batch) (outcome : RowOutcome) (r : Reading) : Step :=
  nextRow acts { b with report := b.report.record outcome } r

/-- Counts what became of a row after its publish span, and goes on to the next. -/
def settleIn (span : PublishSpan) (acts : List Act) (b : Batch) (outcome : RowOutcome)
    (r : Reading) : Step :=
  settle (acts ++ notes span.finish) b outcome r

/-- Starts to poison a row. -/
def poison (acts : List Act) (b : Batch) (row : Row) (span : PublishSpan) (reason : PoisonReason)
    (detail : String) : Step :=
  ⟨acts ++
    [entry .warn "poisoning outbox message"
      [idField row.id, eventField row, ("version", .number row.version.toNat),
        ("reason", .text reason.name), errorField detail]],
    .waiting (.poisoning b row span reason detail)⟩

/-- The detail kept of a row whose type nobody knows. -/
def unknownType (row : Row) : String :=
  "unknown event type " ++ row.name ++ ".v" ++ toString row.version.toNat

/-- Checks a row and starts to publish it. -/
def dispatch (w : Worker) (b : Batch) (row : Row) (span : PublishSpan) : Step :=
  let acts := notes span.begin
  match w.registry.resolve row.name row.version with
  | none => poison acts b row span .unknownType (unknownType row)
  | some schema =>
    match schema.validate row.payload with
    | .error fault => poison acts b row span .invalidPayload (schema.invalidPayload fault)
    | .ok () => ⟨acts, .waiting (.publishing b row span)⟩

/-- The detail kept of a row that has no attempts left. -/
def exhaustedDetail (attempts : UInt32) (reason : String) : String :=
  "attempts exhausted after " ++ toString attempts.toNat ++ ": " ++ reason

/-- The number of a row's attempts after one more has failed. -/
def nextAttempt (row : Row) : UInt32 :=
  if row.attempts.toNat + 1 < 1 <<< 32 then row.attempts + 1 else row.attempts

/-- When a row may be tried again. -/
def retryAt (w : Worker) (row : Row) (r : Reading) : Instant :=
  r.now.after (max (w.tuning.retry.delay (nextAttempt row) r.draw) leastDelay)

/-- Starts to record a failed attempt. -/
def fail (w : Worker) (b : Batch) (row : Row) (span : PublishSpan) (reason : String)
    (r : Reading) : Step :=
  let attempts := nextAttempt row
  let exhausted : Bool := w.tuning.maxAttempts ≤ attempts
  let retryAt := w.retryAt row r
  let attempt : Attempt :=
    { previous := row.attempts
      retryAt := if exhausted then none else some retryAt
      error := if exhausted then exhaustedDetail attempts reason else reason
      exhausted }
  ⟨[], .waiting (.failing b row span attempt retryAt reason)⟩

end Worker

/-- What a phase asks for. -/
@[reducible] def Phase.request (w : Worker) : Phase → Request
  | .checking due => .store (.hasDue due)
  | .selecting due => .store (.selectDue due w.tuning.batchSize)
  | .claiming ids due claim expiry => .store (.claim ids due claim expiry)
  | .fetching claim _ now => .store (.fetchClaimed claim now)
  | .reading _ id => .store (.get id)
  | .publishing _ row span => .publish (row.message span)
  | .completing _ row _ now => .store (.markProcessed row.id now)
  | .poisoning _ row _ _ detail => .store (.markPoisoned row.id detail)
  | .failing _ row _ attempt _ _ => .store (.recordFailure row.id attempt)

namespace Worker

/-- After the look for due rows. -/
def checked (w : Worker) (r : Reading) : Except StoreError Bool → Step
  | .error e => stop [] (.failed .dueCheck e)
  | .ok false => stop [] .idle
  | .ok true => ⟨[], .waiting (.selecting (w.due r.now))⟩

/-- After the selection. -/
def selected (w : Worker) (r : Reading) : Except StoreError (List Uuid) → Step
  | .error e => stop [] (.failed .selection e)
  | .ok [] => stop [] .lostRace
  | .ok (id :: ids) =>
    let claim := Claim.ofInstance w.tuning.instanceName r.claimId
    let expiry := r.now.after w.tuning.claimDuration
    ⟨[], .waiting (.claiming (id :: ids) (w.due r.now) claim expiry)⟩

/-- After the claim. -/
def claimed (w : Worker) (ids : List Uuid) (claim : Claim) (r : Reading) :
    Except StoreError Nat → Step
  | .error e => stop [] (.failed .claim e)
  | .ok 0 =>
    stop
      [entry .debug "lost claim race"
        [w.outboxField, ("claim", .text claim), ("candidates", .number ids.length)]]
      .lostRace
  | .ok (n + 1) => ⟨[], .waiting (.fetching claim (n + 1) r.now)⟩

/-- After the claimed rows are read. -/
def fetched (w : Worker) (claim : Claim) (count : Nat) (r : Reading) :
    Except StoreError (List Row) → Step
  | .error e => stop [] (.failed .batchRead e)
  | .ok rows =>
    nextRow
      [entry .debug "claimed outbox batch"
        [w.outboxField, ("claim", .text claim), ("claimed", .number count),
          ("owned", .number rows.length)]]
      ⟨claim, { claimed := rows.length }, rows.map Row.id⟩ r

/-- After a row of the batch is read again. -/
def reread (w : Worker) (b : Batch) (id : Uuid) (r : Reading) :
    Except StoreError (Option Row) → Step
  | .error e =>
    settle
      [entry .warn "failed to re-read outbox message"
        [w.outboxField, idField id, errorField e.message]]
      b .storeError r
  | .ok none =>
    settle [entry .debug "outbox message vanished" [w.outboxField, idField id]] b .skipped r
  | .ok (some row) =>
    if row.isTerminal || row.claimedBy ≠ some b.claim then
      settle [entry .debug "outbox message no longer ours" [w.outboxField, idField id]] b .skipped r
    else w.dispatch b row (w.sink.start row r.spanIds)

/-- After a row is offered to the broker. -/
def published (w : Worker) (b : Batch) (row : Row) (span : PublishSpan) (r : Reading) :
    Except Refusal Unit → Step
  | .ok () => ⟨[], .waiting (.completing b row span r.now)⟩
  | .error (.permanent reason) => poison [] b row span .rejected reason
  | .error (.transient reason) =>
    if r.cancelled then
      settleIn span [entry .debug "publish interrupted by shutdown" [idField row.id]] b .abandoned r
    else w.fail b row span reason r

/-- After a row is marked processed. -/
def completed (b : Batch) (row : Row) (span : PublishSpan) (r : Reading) :
    Except StoreError Bool → Step
  | .ok applied =>
    let warning :=
      if applied then []
      else [entry .warn "published outbox message was already terminal" [idField row.id]]
    settleIn span
      (warning ++
        [.measure (.processed row.name),
          entry .debug "outbox message published" [idField row.id, eventField row]])
      b .processed r
  | .error e =>
    settleIn span
      [entry .error
        "published but could not mark processed; it will be republished after the claim expires"
        [idField row.id, errorField e.message]]
      b .storeError r

/-- After a row is poisoned. -/
def poisoned (b : Batch) (row : Row) (span : PublishSpan) (reason : PoisonReason) (r : Reading) :
    Except StoreError Bool → Step
  | .ok true => settleIn span [.measure (.poisoned row.name reason)] b (.poisoned reason) r
  | .ok false => settleIn span [] b .skipped r
  | .error e =>
    settleIn span
      [entry .warn "failed to poison outbox message" [idField row.id, errorField e.message]]
      b .storeError r

/-- After a failed attempt is recorded. -/
def failed (b : Batch) (row : Row) (span : PublishSpan) (attempt : Attempt) (retryAt : Instant)
    (reason : String) (r : Reading) : Except StoreError Bool → Step
  | .ok true =>
    let attempts := nextAttempt row
    if attempt.exhausted then
      settleIn span
        [entry .warn "outbox message exhausted its attempts"
          [idField row.id, eventField row, ("attempts", .number attempts.toNat),
            errorField reason],
          .measure (.poisoned row.name .attemptsExhausted)]
        b (.poisoned .attemptsExhausted) r
    else
      settleIn span
        [entry .warn "outbox publish failed, will retry"
          [idField row.id, eventField row, ("attempts", .number attempts.toNat),
            ("retry_at", .text retryAt.shown), errorField reason],
          .measure (.failed row.name)]
        b (.failed attempts retryAt) r
  | .ok false => settleIn span [] b .skipped r
  | .error e =>
    settleIn span
      [entry .warn "failed to record outbox failure" [idField row.id, errorField e.message]]
      b .storeError r

/-- Takes the answer to a phase's request to the next phase or to the end. -/
def resume (w : Worker) (r : Reading) : (p : Phase) → (p.request w).Answer → Step
  | .checking _, a => w.checked r a
  | .selecting _, a => w.selected r a
  | .claiming ids _ claim _, a => w.claimed ids claim r a
  | .fetching claim count _, a => w.fetched claim count r a
  | .reading b id, a => w.reread b id r a
  | .publishing b row span, a => w.published b row span r a
  | .completing b row span _, a => completed b row span r a
  | .poisoning b row span reason _, a => poisoned b row span reason r a
  | .failing b row span attempt retryAt reason, a => failed b row span attempt retryAt reason r a

end Worker

end Relay
