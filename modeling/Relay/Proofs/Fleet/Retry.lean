import Relay.Proofs.Fleet.Attempts
import Relay.Proofs.Time.Instant

/-!
# Retries lie ahead

A row whose attempt failed comes up again after a delay. However workers, callers and the clock take
turns, and whatever delay the policy asks for: what a worker records as the end of that delay
follows the moment at which it learned of the failure, by the delay but never by less than a
millisecond, and at the end of time it is the last instant. Until then the row is not due, and from
then on only its lease can keep it from being due (`Fleet.retries_lie_ahead`). The lease itself does
not end before it begins.

`Fleet.Acts.failing` says how a worker comes to record a failure, and `Fleet.Acts.claiming` how it
comes to claim rows. The arithmetic of instants is that of `Instant.Saturates`, and what becomes of
the row is `Row.Postponed`.
-/

namespace Relay

/-! ## The delay -/

namespace Worker

/-- A row is tried again after the delay of the policy, and not within a millisecond. -/
theorem saturates_retryAt (w : Worker) (row : Row) (r : Reading) :
    r.now.Saturates (max (w.tuning.retry.delay (nextAttempt row) r.draw).toNanos 1_000_000)
      (w.retryAt row r) := by
  have least : leastDelay.toNanos = 1_000_000 := rfl
  rw [← least, ← Duration.toNanos_max]
  exact r.now.saturates_after _

/-- What a worker records of a failed attempt that is not the last. -/
theorem of_fail {w : Worker} {r : Reading} {b : Batch} {row : Row} {span : PublishSpan}
    {attempt : Attempt} {retryAt : Instant} {reason : String}
    (next : (w.fail b row span reason r).progress =
      .waiting (.failing b row span attempt retryAt reason)) (more : attempt.exhausted = false) :
    attempt.previous = row.attempts ∧ attempt.retryAt = some retryAt ∧
      row.attempts.toNat + 1 < w.tuning.maxAttempts.toNat ∧ retryAt = w.retryAt row r := by
  simp only [fail, Progress.waiting.injEq, Phase.failing.injEq, true_and, and_true] at next
  obtain ⟨rfl, rfl⟩ := next
  simp only [decide_eq_false_iff_not, le_nextAttempt, Nat.not_le] at more
  have notLast : ¬ w.tuning.maxAttempts ≤ nextAttempt row := by
    rw [le_nextAttempt]
    omega
  exact ⟨rfl, by simp [notLast], more, rfl⟩

end Worker

/-! ## The row afterwards -/

/-- What a failed attempt that is not the last makes of a row: it has one more, is neither processed
nor poisoned, and is due once the retry delay and the lease that it has already are over. -/
structure Row.Postponed (r r' : Row) (retryAt : Instant) : Prop where
  attempts : r'.attempts.toNat = r.attempts.toNat + 1
  unprocessed : r'.processed = none
  unpoisoned : r'.poisoned = false
  lease : r'.claimedUntil = r.claimedUntil
  isDue : ∀ due : Due, r'.attempts < due.maxAttempts →
    (r'.isDue due ↔ retryAt ≤ due.now ∧ ∀ u, r'.claimedUntil = some u → u < due.now)

namespace Table

variable {t : Table} {id : Uuid} {a : Attempt} {retryAt : Instant}

/-- A recorded failure that is not the last postpones the stored row. -/
theorem postponed_recorded (granted : t.grants (.recordFailure id a)) (more : a.exhausted = false)
    (delayed : a.retryAt = some retryAt) : ∃ r, t.find? id = some r ∧
      (t.after (.call (.recordFailure id a))).find? id = some (failed a r) ∧
      r.attempts = a.previous ∧ r.Postponed (failed a r) retryAt := by
  obtain ⟨r, there, rfl, alive, -⟩ := accepts_of_granted granted
  obtain ⟨recorded, same, count⟩ := find?_recorded granted there
  simp only [Row.isTerminal, Bool.or_eq_false_iff, Option.isSome_eq_false_iff,
    Option.isNone_iff_eq_none] at alive
  refine ⟨r, there, recorded, same, count, alive.1, more, rfl, fun due left => ?_⟩
  have stillAlive : (failed a r).isTerminal = false := by
    simp [Row.isTerminal, failed, alive.1, more]
  have ready : (failed a r).notBefore = some retryAt := delayed
  simp [Row.isDue_iff, stillAlive, ready, left]

end Table

namespace Fleet

variable {ι : Type} [DecidableEq ι] {workers : ι → Worker} {f g : Fleet workers} {i : ι}
  {u : Turn ι} {b : Batch} {row : Row} {span : PublishSpan} {attempt : Attempt} {retryAt : Instant}
  {reason : String}

/-! ## How a worker comes to ask -/

/-- A worker comes to record a failure when it goes on from a publish that the broker could not
take, unless it was told to stop. -/
theorem Acts.failing (h : f.Acts i u g)
    (asks : g.post i = .asking (.failing b row span attempt retryAt reason)) :
    ∃ reading, u = .resume i reading ∧ reading.cancelled = false ∧
      f.post i = .told (.publishing b row span) (.error (.transient reason)) ∧
      ((workers i).fail b row span reason (f.read reading)).progress =
        .waiting (.failing b row span attempt retryAt reason) := by
  obtain ⟨reading, told, answer, rfl, heard, -, next⟩ := h.asking asks (by simp)
  have goes := (workers i).goes (f.read reading) told answer
  rw [next] at goes
  cases goes with
  | fails b row span attempt retryAt reason runs =>
    simp only [Worker.resume, Worker.published, runs, Bool.false_eq_true, if_false] at next
    exact ⟨reading, rfl, runs, heard, next⟩

/-- A call that a worker asks for is carried out when it is served. -/
theorem table_run_serve {phase : Phase} {c : Call} (asking : f.post i = .asking phase)
    (asks : phase.request (workers i) = .store c) (reply : Except Refusal Unit) :
    (f.turn (.serve i reply)).table = f.table.after (.call c) := by
  rw [table_turn, operation_eq_some.2 (.calls i reply phase c asking asks)]
  rfl

/-! ## The run -/

/-- What a worker asks for, it came to ask for in a turn of its own. -/
theorem exists_asking (rests : f.post i = .resting) {turns : List (Turn ι)} {phase : Phase}
    (asks : (f.run turns).post i = .asking phase) : ∃ earlier u later,
      turns = earlier ++ u :: later ∧ (f.run earlier).Acts i u ((f.run earlier).turn u) ∧
      ((f.run earlier).turn u).post i = .asking phase := by
  have moved : (f.run turns).post i ≠ f.post i := by
    rw [asks, rests]
    exact nofun
  obtain ⟨earlier, u, later, e, acts, stands⟩ := exists_acts f turns moved
  exact ⟨earlier, u, later, e, acts, stands.trans asks⟩

/-- **Retries lie ahead.** A worker that rests begins to take turns with whatever others there are,
over any table, under any clock and with any retry policy. Whenever it asks to record a failure that
is not the last, it learned before that the broker could not take the row, and the end of the retry
delay follows that moment by the policy's delay, but not by less than a millisecond; where that is
out of range it is the last instant. So it lies ahead of every moment before the last instant. When
the failure is recorded the stored row has one more attempt and is neither processed nor poisoned,
and as long as it has attempts left it is due exactly when the delay and the lease are over. And
whenever the worker asks to claim rows, the lease does not end before it begins. -/
theorem retries_lie_ahead (rests : f.post i = .resting) (turns : List (Turn ι)) :
    (∀ b row span attempt retryAt reason,
      (f.run turns).post i = .asking (.failing b row span attempt retryAt reason) →
      attempt.exhausted = false →
        (∃ earlier reading later, turns = earlier ++ .resume i reading :: later ∧
          (f.run earlier).post i =
            .told (.publishing b row span) (.error (.transient reason)) ∧
          attempt.retryAt = some retryAt ∧
          let now := (f.run earlier).clock
          let delay := (workers i).tuning.retry.delay (Worker.nextAttempt row) reading.draw
          now.Saturates (max delay.toNanos 1_000_000) retryAt ∧
          (Duration.signedLimit * 1_000_000 < delay.toNanos → retryAt = .last) ∧
          (now < .last → now < retryAt)) ∧
        ((f.run turns).table.grants (.recordFailure row.id attempt) → ∀ reply, ∃ r r',
          (f.run turns).table.find? row.id = some r ∧
          (f.run (turns ++ [.serve i reply])).table.find? row.id = some r' ∧
          r.attempts = row.attempts ∧ r'.attempts < (workers i).tuning.maxAttempts ∧
          r.Postponed r' retryAt)) ∧
    ∀ ids due claim expiry,
      (f.run turns).post i = .asking (.claiming ids due claim expiry) →
        due.now.Saturates (workers i).tuning.claimDuration.toNanos expiry ∧
        (due.now ≤ .last → due.now ≤ expiry) := by
  refine ⟨fun b row span attempt retryAt reason asks more => ?_,
    fun ids due claim expiry asks => ?_⟩
  · obtain ⟨earlier, u, later, e, acts, stands⟩ := exists_asking rests asks
    obtain ⟨reading, rfl, -, told, next⟩ := acts.failing stands
    obtain ⟨previous, delayed, left, ends⟩ := Worker.of_fail next more
    have follows : (f.run earlier).clock.Saturates
        (max ((workers i).tuning.retry.delay (Worker.nextAttempt row) reading.draw).toNanos
          1_000_000) retryAt := by
      rw [ends]
      exact (workers i).saturates_retryAt row ((f.run earlier).read reading)
    refine ⟨⟨earlier, reading, later, e, told, delayed, follows, fun long => ?_, fun early => ?_⟩,
      fun granted reply => ?_⟩
    · exact follows.eq_last (by omega)
    · exact follows.lt early (by omega)
    · obtain ⟨r, there, recorded, same, postponed⟩ := Table.postponed_recorded granted more delayed
      refine ⟨r, _, there, ?_, same.trans previous, ?_, postponed⟩
      · rw [run_append, run_cons, run_nil, table_run_serve asks rfl]
        exact recorded
      · rw [UInt32.lt_iff_toNat_lt, postponed.attempts, same, previous]
        exact left
  · obtain ⟨earlier, u, later, -, acts, stands⟩ := exists_asking rests asks
    obtain ⟨reading, -, -, -, same, rfl, -⟩ := acts.claiming stands
    rw [same]
    exact ⟨Instant.saturates_after _ _, fun early => Instant.le_after early _⟩

open Office in
/-- The courier claims the row for five minutes and offers it to a broker that is down. The row is
due again after a second, once the lease has run out. -/
theorem retries_lie_ahead_staff :
    let f := staff Unit
    let claims := (pickup () 1).take 5
    let turns := pickup () 1 ++ (setback ()).take 3
    let lease := Instant.epoch.after (.ofSeconds 300)
    let retryAt := Instant.epoch.after (.ofSeconds 1)
    (f.run claims).Does (.serve () (.ok ()))
        (.call (.claim [known.id] due (.ofInstance "courier" (.ofNat 1)) lease)) ∧
      due.now ≤ lease ∧
      (f.run turns).Does (.serve () (.ok ()))
        (.call (.recordFailure known.id ⟨0, some retryAt, "down", false⟩)) ∧
      .epoch < retryAt ∧
      ∃ r, (f.run (turns ++ [.serve () (.ok ())])).table.find? known.id = some r ∧
        r.attempts.toNat = 1 ∧ r.isTerminal = false ∧
        ∀ now, r.isDue ⟨now, 10⟩ ↔ retryAt ≤ now ∧ ∀ u, r.claimedUntil = some u → u < now := by
  intro f claims turns lease retryAt
  have ⟨claiming, recording, granted, still⟩ :
      (f.run claims).operation (.serve () (.ok ())) =
        some (.call (.claim [known.id] due (.ofInstance "courier" (.ofNat 1)) lease)) ∧
      (f.run turns).operation (.serve () (.ok ())) =
        some (.call (.recordFailure known.id ⟨0, some retryAt, "down", false⟩)) ∧
      (f.run turns).table.grants (.recordFailure known.id ⟨0, some retryAt, "down", false⟩) ∧
      ∀ n ≤ turns.length, (f.run (turns.take n)).clock = .epoch := by decide +kernel
  have unread : (f.run turns).table.attempts known.id = 0 := by decide +kernel
  have claimed := operation_eq_some.1 claiming
  have records := operation_eq_some.1 recording
  refine ⟨claimed, ?_, records, ?_⟩
  · cases claimed with
    | calls i reply phase c asking asks =>
      cases phase <;> cases asks
      exact ((retries_lie_ahead rfl claims).2 _ _ _ _ asking).2 (by decide)
  · cases records with
    | calls i reply phase c asking asks =>
      cases phase with
      | failing b row span attempt until_ reason =>
        simp only [Request.store.injEq, Call.recordFailure.injEq] at asks
        obtain ⟨same, rfl⟩ := asks
        obtain ⟨⟨earlier, reading, later, split, -, delayed, -, -, ahead⟩, after⟩ :=
          (retries_lie_ahead rfl turns).1 b row span _ until_ reason asking rfl
        obtain rfl := Option.some.inj delayed
        have now : (f.run earlier).clock = .epoch := by
          rw [← still earlier.length (by simp [split]), split, List.take_left]
        obtain ⟨r, r', there, recorded, -, left, postponed⟩ := after (same ▸ granted) (.ok ())
        rw [same] at there recorded
        refine ⟨now ▸ ahead (now ▸ by decide), r', recorded, ?_, ?_,
          fun now => postponed.isDue ⟨now, 10⟩ left⟩
        · have count : r.attempts.toNat = 0 := by
            rw [← unread, Table.attempts, there]
            rfl
          rw [postponed.attempts, count]
        · simp [Row.isTerminal, postponed.unprocessed, postponed.unpoisoned]
      | checking | selecting | claiming | fetching | reading | completing | poisoning =>
        cases asks
      | publishing => cases asks

end Fleet

end Relay
