import Relay.Proofs.Fleet.Attempts
import Relay.Proofs.Iteration.Stop
import Relay.Proofs.Stream.Verdict

/-!
# Only a rejection poisons

A row of a batch that is offered to a stream server is poisoned as rejected just if the server's
answer is final, the payload is too large to be sent, or the client gave up with a final fault. When
the server falters, the row has one more failed attempt, unless the worker is told to stop; then it
stays as it is. So it is for every connection and whatever is received over it
(`Worker.only_rejections_poison`).

Not every final answer is a rejection: a client that cannot choose a database gives up with a fault
of the same kind as an error about a command, and a row that no server has seen is poisoned. And a
list that holds an error falters or is final as the error is, although it is no text
(`Office.unsent_poisons_and_list_falters`).

`Surroundings.share_offered` says what becomes of a row that is offered, whatever the broker; the
rest is about the stream server's answers, by `Stream.Outcome.verdict_cases`.
-/

namespace Relay

theorem Ruling.outcome_ne_storeError (g : Ruling) (row : Row) : g.outcome row ≠ .storeError := by
  cases g with
  | processed | poisoned => simp [outcome]
  | failed attempt retryAt reason =>
    simp only [outcome]
    split <;> simp

namespace Worker

variable {w : Worker} {row : Row}

/-- A row that is not offered was not rejected by the broker. -/
theorem refusal_ne_rejected {reason : PoisonReason} {detail : String}
    (refused : w.refusal row = some (reason, detail)) : reason ≠ .rejected := by
  unfold refusal at refused
  split at refused
  · cases refused
    exact nofun
  · split at refused
    · cases refused
      exact nofun
    · cases refused

/-- A failed attempt that leaves others counts once, and does not poison. -/
theorem failed_attempt (left : row.attempts.toNat + 1 < w.tuning.maxAttempts.toNat) (r : Reading)
    (reason : String) :
    (Table.failed (w.attempt row r reason) row).attempts.toNat = row.attempts.toNat + 1 ∧
      (Table.failed (w.attempt row r reason) row).poisoned = false ∧
      (w.attempt row r reason).exhausted = false := by
  have most := w.tuning.maxAttempts.toNat_lt
  have more : (w.attempt row r reason).exhausted = false := by
    simp only [attempt, decide_eq_false_iff_not, le_nextAttempt]
    omega
  refine ⟨?_, more, more⟩
  show (row.attempts + 1).toNat = row.attempts.toNat + 1
  rw [UInt32.toNat_add, UInt32.toNat_one, Nat.mod_eq_of_lt (by omega)]

end Worker

namespace Surroundings

variable {c : Surroundings} {w : Worker} {row : Row} {batch : List Row}

/-- The same, but the broker is a stream server behind a publisher. Whether the worker is told to
stop in the meantime, which connection there is and what is received over it may be different for
every message. -/
def through (c : Surroundings) (p : Stream.Publisher) (stops : Message → Bool)
    (link : Message → Except Stream.Fault Stream.Connection)
    (received : Message → Stream.Exchange) : Surroundings :=
  { c with reply := fun m => (p.publish (stops m) m (link m) (received m)).2 }

theorem share_cases (c : Surroundings) (w : Worker) (row : Row) (batch : List Row) :
    c.share w row batch = c.lot w row ∨ c.share w row batch = ⟨row, .abandoned, [], []⟩ := by
  unfold share
  split
  · exact .inl rfl
  · exact .inr rfl

theorem refusal_of_offered (offered : c.offered w row ≠ []) : w.refusal row = none := by
  unfold Surroundings.offered at offered
  split at offered
  · exact absurd rfl offered
  · assumption

/-- **What becomes of a row that is offered**: it is left at that, or what is to be recorded of it
is recorded, or that fails. -/
theorem share_offered (offered : (c.share w row batch).offers ≠ []) :
    w.refusal row = none ∧
      (((c.published row.id).cutsShort (c.reply (c.message w row)) = true ∧
          (c.share w row batch).row = row ∧ (c.share w row batch).outcome = .abandoned) ∨
        ((c.share w row batch).row = row ∧ (c.share w row batch).outcome = .storeError) ∨
        ((c.published row.id).cutsShort (c.reply (c.message w row)) = false ∧
          (c.share w row batch).row = (c.ruling w row).result row ∧
          (c.share w row batch).outcome = (c.ruling w row).outcome row)) := by
  rcases c.share_cases w row batch with e | e
  · rw [e] at offered ⊢
    cases cut : c.interrupts w row with
    | true =>
      obtain ⟨-, accepted, told⟩ := (interrupts_iff w row).1 cut
      rw [lot, if_pos cut]
      exact ⟨accepted, .inl ⟨told, rfl, rfl⟩⟩
    | false =>
      rw [c.lot_of_not_interrupts w row cut] at offered ⊢
      rcases c.fate_cases w row with ⟨e, -, fate⟩ | ⟨-, e, -, fate⟩ | ⟨unfailing, -, fate⟩
      · rw [fate] at offered
        exact absurd rfl offered
      · rw [fate] at offered ⊢
        exact ⟨refusal_of_offered offered, .inr (.inl ⟨rfl, rfl⟩)⟩
      · rw [fate] at offered ⊢
        have accepted := refusal_of_offered offered
        refine ⟨accepted, .inr (.inr ⟨?_, rfl, rfl⟩)⟩
        simpa [interrupts, unfailing, accepted] using cut
  · rw [e] at offered
    exact absurd rfl offered

/-- **A row that is poisoned as rejected** is one that the broker refused for good. -/
theorem reply_of_rejected (rejected : (c.share w row batch).outcome = .poisoned .rejected) :
    ∃ detail, c.reply (c.message w row) = .error (.permanent detail) := by
  have ruled : (c.ruling w row).outcome row = .poisoned .rejected := by
    rcases c.share_cases w row batch with e | e
    · rw [e] at rejected
      unfold lot at rejected
      split at rejected
      · cases rejected
      · rcases c.fate_cases w row with ⟨e, -, fate⟩ | ⟨-, e, -, fate⟩ | ⟨-, -, fate⟩ <;>
          rw [fate] at rejected
        · cases rejected
        · cases rejected
        · exact rejected
    · rw [e] at rejected
      cases rejected
  unfold ruling Worker.verdict at ruled
  split at ruled
  · rename_i reason detail refused
    obtain rfl := RowOutcome.poisoned.inj ruled
    exact absurd rfl (Worker.refusal_ne_rejected refused)
  · split at ruled
    · cases ruled
    · rename_i detail reply
      exact ⟨detail, reply⟩
    · simp only [Ruling.outcome] at ruled
      split at ruled <;> cases ruled

/-- A row of which nothing could be recorded stays as it is. -/
theorem row_of_storeError (failed : (c.share w row batch).outcome = .storeError) :
    (c.share w row batch).row = row := by
  rcases c.share_cases w row batch with e | e
  · rw [e] at failed ⊢
    unfold lot at failed ⊢
    split
    · rfl
    · rename_i goes
      rw [if_neg goes] at failed
      rcases c.fate_cases w row with ⟨e, -, fate⟩ | ⟨-, e, -, fate⟩ | ⟨-, -, fate⟩ <;>
        rw [fate] at failed ⊢
      · exact absurd failed ((c.ruling w row).outcome_ne_storeError row)
  · rw [e]

/-- **What the broker's reply makes of a row** that was offered, if it can be recorded. -/
theorem share_of_reply (offered : (c.share w row batch).offers ≠ [])
    (recorded : (c.share w row batch).outcome ≠ .storeError) :
    (c.reply (c.message w row) = .ok () →
      (c.share w row batch).outcome = .processed ∧
        (c.share w row batch).row = { row with processed := some (c.published row.id).now }) ∧
    (∀ detail, c.reply (c.message w row) = .error (.permanent detail) →
      (c.share w row batch).outcome = .poisoned .rejected ∧
        (c.share w row batch).row = { row with poisoned := true, lastError := some detail }) ∧
    (∀ reason, c.reply (c.message w row) = .error (.transient reason) →
      ((c.published row.id).cancelled = true →
        (c.share w row batch).outcome = .abandoned ∧ (c.share w row batch).row = row) ∧
      ((c.published row.id).cancelled = false →
        row.attempts.toNat + 1 < w.tuning.maxAttempts.toNat →
          (∃ retryAt, (c.share w row batch).outcome =
            .failed (Worker.nextAttempt row) retryAt) ∧
          (c.share w row batch).row =
            Table.failed (w.attempt row (c.published row.id) reason) row)) := by
  obtain ⟨accepted, ⟨told, stays, outcome⟩ | ⟨-, failed⟩ | ⟨settled, becomes, outcome⟩⟩ :=
    share_offered offered
  · rcases reply : c.reply (c.message w row) with (detail | reason) | ⟨⟩
    · rw [reply] at told
      cases told
    · rw [reply] at told
      have told : (c.published row.id).cancelled = true := told
      refine ⟨by rintro ⟨⟩, by rintro _ ⟨⟩, fun _ _ => ⟨fun _ => ⟨outcome, stays⟩, fun goes => ?_⟩⟩
      rw [told] at goes
      cases goes
    · rw [reply] at told
      cases told
  · exact absurd failed recorded
  · unfold ruling Worker.verdict at becomes outcome
    rw [accepted] at becomes outcome
    rcases reply : c.reply (c.message w row) with (detail | reason) | ⟨⟩ <;>
      simp only [reply] at becomes outcome settled
    · refine ⟨by rintro ⟨⟩, fun _ e => ?_, by rintro _ ⟨⟩⟩
      cases e
      exact ⟨outcome, becomes⟩
    · refine ⟨by rintro ⟨⟩, by rintro _ ⟨⟩, fun _ e => ⟨fun told => ?_, fun goes left => ?_⟩⟩
      · have goes : (c.published row.id).cancelled = false := settled
        rw [goes] at told
        cases told
      · cases e
        have more := (Worker.failed_attempt left (c.published row.id) reason).2.2
        refine ⟨⟨w.retryAt row (c.published row.id), ?_⟩, becomes⟩
        rw [outcome, Ruling.outcome, if_neg (by simp [more])]
    · exact ⟨fun _ => ⟨outcome, becomes⟩, by rintro _ ⟨⟩, by rintro _ ⟨⟩⟩

end Surroundings

namespace Worker

variable {w : Worker} {c : Surroundings} {t : Table}

/-- **Only a rejection poisons.** A list with errors in it is received as the first of them. A
publisher sends a message once or not at all. While its caller does not tell it to stop, its answer
is good for a text, final for an error of a lasting code or a reply that is no text, and passing for
everything else: a connection that is not there or breaks, bytes that are no reply, and errors of
all other codes. It refuses a message for good without sending anything just if the payload is too
large, or if the client gave up because it could not choose a database, which happens at locations
with a database other than the first.

Now let a worker go through a batch with the publisher in front, while others do to the table what
they like but leave these rows alone. A row is poisoned as rejected only if the answer was final. A
row that was offered while it had attempts left, and of which the outcome could be recorded, is
poisoned as rejected whenever the answer was final. When the answer was passing, it stays as it is
if the worker is told to stop, and otherwise has one more attempt and is neither poisoned nor
processed. -/
theorem only_rejections_poison (p : Stream.Publisher) (l : Stream.Location)
    (stops : Message → Bool) (link : Message → Except Stream.Fault Stream.Connection)
    (received : Message → Stream.Exchange)
    (works : t.broken = false) {taken : List Row} (distinct : (taken.map Row.id).Nodup)
    {now : Instant} (isDue : ∀ r ∈ taken, r.isDue (w.due now) = true) {claim : Claim}
    {expiry : Instant} (held : ∀ r ∈ taken, t.find? r.id = some (r.heldBy claim expiry))
    (count : Nat) (read : Instant) :
    let served := c.through p stops link received
    let batch := taken.map (·.heldBy claim expiry)
    (∀ one i r rest, Stream.Reply.readList one i = .ok (r, rest) → r = .ok .nil ∨
      ∃ start results, Stream.Reply.Reads one start results rest ∧
        r = (results.mapM id).map .list) ∧
    (∀ cancelled m link e, l.Leads link →
      let publish := p.publish cancelled m link e
      let outcome := (Stream.reach link e).outcome
      let long := p.mostBytes < m.payload.utf8ByteSize
      let unchosen := link = .error Stream.Location.refusedDatabase
      (unchosen → l.database ≠ 0) ∧
      ((publish.1 = [] ∧ ∃ detail, publish.2 = .error (.permanent detail)) ↔
        long ∨ cancelled = false ∧ unchosen) ∧
      (publish.1 = [] ∨ publish.1 = [p.command m]) ∧
      (publish.2 = .ok () ↔ ¬ long ∧ cancelled = false ∧ outcome.Takes) ∧
      ((∃ detail, publish.2 = .error (.permanent detail)) ↔
        long ∨ cancelled = false ∧ outcome.Rejects) ∧
      ((∃ reason, publish.2 = .error (.transient reason)) ↔
        ¬ long ∧ (cancelled = true ∨ outcome.Falters))) ∧
    Solo.Surely w served (taken.map Row.id)
      (Solo.Closed batch fun row => served.share w row batch)
      (Solo.opened w served t claim count read batch) ∧
    ∀ row ∈ batch,
      let m := c.message w row
      let answer := (p.publish (stops m) m (link m) (received m)).2
      let fate := served.share w row batch
      (fate.outcome = .poisoned .rejected → ∃ detail, answer = .error (.permanent detail)) ∧
      (fate.outcome = .storeError → fate.row = row) ∧
      (fate.offers ≠ [] → fate.outcome ≠ .storeError →
        row.attempts.toNat + 1 < w.tuning.maxAttempts.toNat →
          (∀ detail, answer = .error (.permanent detail) →
            fate.outcome = .poisoned .rejected ∧ fate.row.poisoned = true ∧
              fate.row.lastError = some detail) ∧
          (∀ reason, answer = .error (.transient reason) →
            ((c.published row.id).cancelled = true →
              fate.outcome = .abandoned ∧ fate.row = row) ∧
            ((c.published row.id).cancelled = false →
              (∃ retryAt, fate.outcome = .failed (nextAttempt row) retryAt) ∧
                fate.row.attempts.toNat = row.attempts.toNat + 1 ∧
                fate.row.poisoned = false ∧ fate.row.processed = none))) := by
  intro served batch
  have ids : batch.map Row.id = taken.map Row.id := List.map_map
  have distinct' : (batch.map Row.id).Nodup := ids ▸ distinct
  have there : ∀ row ∈ batch, t.find? row.id = some row := by
    intro row mem
    obtain ⟨r, inTaken, rfl⟩ := List.mem_map.mp mem
    exact held r inTaken
  have inHand : ∀ row ∈ batch, Solo.InHand claim { rows := batch } row := by
    intro row mem
    obtain ⟨r, inTaken, rfl⟩ := List.mem_map.mp mem
    exact .of_isDue (isDue r inTaken) mem
  refine ⟨fun _ _ _ _ => Stream.Reply.readList_result,
    fun cancelled m link e leads => ⟨fun unchosen => (leads _ unchosen).database_ne_zero,
    Stream.Publisher.withheld_for_good_iff_of_leads leads, p.publish_sends cancelled m link e,
    p.publish_answers cancelled m link e⟩, ?_,
    fun row mem => ⟨?_, ?_, fun offered recorded left => ?_⟩⟩
  · exact ids ▸ Solo.surely_shares works claim count read distinct' there inHand
  · exact Surroundings.reply_of_rejected
  · exact Surroundings.row_of_storeError
  · obtain ⟨-, final, passing⟩ := Surroundings.share_of_reply offered recorded
    refine ⟨fun detail answer => ?_, fun reason answer => ⟨(passing reason answer).1, ?_⟩⟩
    · obtain ⟨outcome, becomes⟩ := final detail answer
      exact ⟨outcome, by rw [becomes], by rw [becomes]⟩
    · intro goes
      obtain ⟨outcome, becomes⟩ := (passing reason answer).2 goes left
      obtain ⟨counts, unpoisoned, -⟩ := failed_attempt left (served.published row.id) reason
      have alive := (inHand row mem).alive
      simp only [Row.isTerminal, Bool.or_eq_false_iff, Option.isSome_eq_false_iff,
        Option.isNone_iff_eq_none] at alive
      refine ⟨outcome, ?_, ?_, ?_⟩
      · rw [becomes]
        exact counts
      · rw [becomes]
        exact unpoisoned
      · rw [becomes]
        exact alive.1

end Worker

/-! ## A courier with a stream server -/

namespace Office

/-- A second row that the courier offers. -/
def further : Row := .sample 2

/-- A server behind a URL that names a database. -/
def harbour : Stream.Location := { place := .machine "streams" 6379, database := 1 }

/-- The message that the first row becomes. -/
def letter : Message := (held known).message ⟨none, [], none⟩

/-- The server refuses connections when the first row is offered, and not later. -/
def links (m : Message) : Except Stream.Fault Stream.Connection :=
  if m = letter then .error (.broken "connection refused") else .ok {}

theorem harbour_leads : harbour.Leads (links letter) := by
  intro f given
  rw [links, if_pos rfl] at given
  cases given
  exact .unreachable _

/-- The server finds something else in the place of the stream. -/
def noStream : Stream.Exchange := .answered "-WRONGTYPE not a stream\r\n".toUTF8.toList

def streams : Stream.Publisher := { keyPrefix := "events" }

/-- Nothing else goes wrong. -/
def streaming : Surroundings := calm.through streams (fun _ => false) links fun _ => noStream

theorem refusal_held_further : courier.refusal (held further) = none := by
  -- the two rows differ in their ids only
  obtain ⟨schema, registered, valid⟩ := accepts_known
  exact Worker.refusal_eq_none_iff.mpr ⟨schema, registered, valid⟩

/-- Every row that the courier does not refuse is offered, and the outcome is recorded. -/
theorem share_streaming {row : Row} {batch : List Row} (mem : row ∈ batch)
    (accepted : courier.refusal row = none) :
    (streaming.share courier row batch).offers ≠ [] ∧
      (streaming.share courier row batch).outcome ≠ .storeError := by
  have going : streaming.Uncancelled := fun p => by cases p <;> rfl
  have faultless : streaming.Faultless := fun _ => rfl
  rw [going.share mem, faultless.fate_eq, Solo.offered_of_accepted accepted]
  exact ⟨nofun, Ruling.outcome_ne_storeError _ _⟩

/-- The first row has a failed attempt although nothing was sent, and the second is poisoned. -/
theorem only_rejections_poison_courier :
    (∃ reason, (streams.publish false letter (links letter) noStream).2 =
      .error (.transient reason)) ∧
    Solo.Surely courier streaming [known.id, further.id]
      (fun s => (∃ r, s.table.find? known.id = some r ∧ r.attempts.toNat = 1 ∧
          r.poisoned = false ∧ r.processed = none) ∧
        ∃ r, s.table.find? further.id = some r ∧ r.poisoned = true ∧
          r.lastError = some "WRONGTYPE: not a stream")
      (Solo.opened courier streaming { rows := [held known, held further] } claim 2 .epoch
        [held known, held further]) := by
  have isDue : ∀ r ∈ [known, further], r.isDue (courier.due .epoch) = true := by decide +kernel
  have there : ∀ r ∈ [known, further],
      ({ rows := [held known, held further] } : Table).find? r.id = some (held r) := by
    decide +kernel
  obtain ⟨-, published, surely, rows⟩ := Worker.only_rejections_poison
    (t := { rows := [held known, held further] }) (c := calm) streams harbour (fun _ => false)
    links (fun _ => noStream) rfl (by decide) isDue there 2 .epoch
  have first : held known ∈ [held known, held further] := .head _
  have second : held further ∈ [held known, held further] := .tail _ (.head _)
  obtain ⟨offered, recorded⟩ := share_streaming first refusal_held_known
  obtain ⟨offered', recorded'⟩ := share_streaming second refusal_held_further
  obtain ⟨-, counts, unpoisoned, unprocessed⟩ :=
    (((rows (held known) first).2.2 offered recorded (by decide)).2 "connection refused"
      (by decide +kernel)).2 rfl
  obtain ⟨-, poisoned, detail⟩ :=
    ((rows (held further) second).2.2 offered' recorded' (by decide)).1 "WRONGTYPE: not a stream"
      (by decide +kernel)
  have unlinked : (Stream.reach (links letter) noStream).outcome.Falters := by
    rw [links, if_pos rfl]
    exact .unlinked _ (Stream.Fault.not_isFinal_broken _)
  obtain ⟨-, -, -, -, -, passing⟩ := published false letter (links letter) noStream harbour_leads
  refine ⟨passing.mpr ⟨by decide +kernel, .inr unlinked⟩, surely.imp fun s closed => ?_⟩
  exact ⟨⟨_, closed.stored (held known) first, counts, unpoisoned, unprocessed⟩,
    _, closed.stored (held further) second, poisoned, detail⟩

/-- **Not only rejections poison.** The URL of the server names a database that the client cannot
choose. Nothing is sent of a small message, and its row, with all its attempts left, is poisoned as
rejected. And when a list with an error in it is received, which is no text, the message may be
published later. -/
theorem unsent_poisons_and_list_falters :
    (Stream.Location.ofUrl "redis://streams/1" = .ok harbour ∧
      harbour.GivesUp Stream.Location.refusedDatabase ∧
      letter.payload.utf8ByteSize ≤ streams.mostBytes ∧
      streams.publish false letter (.error Stream.Location.refusedDatabase) noStream =
        ([], .error (.permanent "Redis server refused to switch database- ResponseError")) ∧
      (held known).attempts.toNat + 1 < courier.tuning.maxAttempts.toNat ∧
      ((calm.through streams (fun _ => false) (fun _ => .error Stream.Location.refusedDatabase)
        fun _ => noStream).share courier (held known) [held known]).outcome =
          .poisoned .rejected) ∧
    (streams.publish false letter (.ok {}) (.answered "*1\r\n-OOM x\r\n".toUTF8.toList)).2 =
      .error (.transient "OOM: x") := by
  refine ⟨⟨by decide +kernel, .noDatabase (by decide), ?small, ?unsent, ?left, ?poisons⟩, ?falters⟩
  case small | poisons | falters => decide +kernel
  case unsent => rfl
  case left => decide

end Office

end Relay
