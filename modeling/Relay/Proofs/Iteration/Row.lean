import Relay.Proofs.Iteration.Basic
import Relay.Proofs.Table.Rows

/-!
# One row of a batch

What a worker records of a row that it holds is its `Worker.verdict`: a function of the row, of the
worker itself with its registry and tuning, of its own reading with its own draw, and of the
broker's reply to its own message. `Surroundings.fate` is what becomes of the row then, which is not
the verdict only if reading the row again or recording the verdict fails. None of this depends on
whether the worker is told to stop; but a worker that is told to while it offers the row, and hears
that the broker did not settle the matter, leaves the row alone (`Surroundings.lot`).
`Solo.leads_row` leads an iteration over one row: the row is replaced by what becomes of it, no
other row is touched, and the report, the offers, the calls and the outcomes grow accordingly.
-/

namespace Relay

/-! ## What is recorded -/

/-- What a worker records of a row. -/
inductive Ruling where
  | processed (now : Instant)
  | poisoned (reason : PoisonReason) (detail : String)
  | failed (attempt : Attempt) (retryAt : Instant) (reason : String)

namespace Ruling

/-- The call that records a ruling. -/
def call (row : Row) : Ruling → Call
  | processed now => .markProcessed row.id now
  | poisoned _ detail => .markPoisoned row.id detail
  | failed attempt _ _ => .recordFailure row.id attempt

/-- The row once a ruling is recorded. -/
def result (row : Row) : Ruling → Row
  | processed now => { row with processed := some now }
  | poisoned _ detail => { row with poisoned := true, lastError := some detail }
  | failed attempt _ _ => Table.failed attempt row

/-- What is counted once a ruling is recorded. -/
def outcome (row : Row) : Ruling → RowOutcome
  | processed _ => .processed
  | poisoned reason _ => .poisoned reason
  | failed attempt retryAt _ =>
    if attempt.exhausted then .poisoned .attemptsExhausted
    else .failed (Worker.nextAttempt row) retryAt

/-- The phase in which a ruling is recorded. -/
def phase (b : Batch) (row : Row) (span : PublishSpan) : Ruling → Phase
  | processed now => .completing b row span now
  | poisoned reason detail => .poisoning b row span reason detail
  | failed attempt retryAt reason => .failing b row span attempt retryAt reason

/-- A failed attempt is counted from the attempts of the row. -/
def Fits (row : Row) : Ruling → Prop
  | failed attempt _ _ => attempt.previous = row.attempts
  | processed _ | poisoned _ _ => True

variable {row : Row} {g : Ruling}

@[simp] theorem id_result (g : Ruling) (row : Row) : (g.result row).id = row.id := by
  cases g <;> rfl

/-- Recording a ruling of a row that is alive changes the row so. -/
theorem effect_call (alive : row.isTerminal = false) (fits : g.Fits row) :
    (g.call row).effect row = g.result row := by
  cases g with
  | processed now => exact if_pos ⟨rfl, alive⟩
  | poisoned reason detail => exact if_pos ⟨rfl, alive⟩
  | failed attempt retryAt reason => exact if_pos ⟨rfl, alive, fits.symm⟩

/-- Recording a ruling changes no other row. -/
theorem effect_call_of_ne {r : Row} (ne : r.id ≠ row.id) : (g.call row).effect r = r := by
  cases g <;> exact if_neg fun h => ne h.1

/-- The answer when a ruling is recorded. -/
def yes (row : Row) : (g : Ruling) → Except StoreError (g.call row).Result
  | processed _ | poisoned _ _ | failed _ _ _ => .ok true

theorem eq_yes_of_isYes {a : Option (Except StoreError (g.call row).Result)}
    (h : (g.call row).isYes a) : a = some (g.yes row) := by
  cases g <;> rcases a with _ | (_ | (_ | _)) <;> first | rfl | cases h

theorem accepts_call (alive : row.isTerminal = false) (fits : g.Fits row) :
    (g.call row).Accepts row := by
  cases g with
  | processed now => exact ⟨rfl, alive⟩
  | poisoned reason detail => exact ⟨rfl, alive⟩
  | failed attempt retryAt reason => exact ⟨rfl, alive, fits.symm⟩

end Ruling

/-! ## Rows in a table -/

namespace Table

variable {t : Table} {row : Row}

/-- Puts a row in the place of the one with its id. -/
def replace (t : Table) (row : Row) : Table := t.modify row.id fun _ => row

theorem ids_replace (t : Table) (row : Row) :
    (t.replace row).rows.map Row.id = t.rows.map Row.id :=
  ids_modify t fun _ _ => rfl

theorem Keyed.replaced (keyed : t.Keyed) (row : Row) : (t.replace row).Keyed := by
  rw [Keyed, ids_replace]
  exact keyed

/-- A row that is replaced by itself. -/
theorem Keyed.replace_self (keyed : t.Keyed) (there : row ∈ t.rows) : t.replace row = t := by
  have same : t.rows.map (fun r => if r.id = row.id then row else r) = t.rows := by
    refine (List.map_congr_left fun r mem => ?_).trans (List.map_id _)
    split
    · rename_i e
      exact (List.inj_on_of_nodup_map keyed mem there e).symm
    · rfl
  show { t with rows := t.rows.map fun r => if r.id = row.id then row else r } = t
  rw [same]

theorem mem_replace_of_ne {r : Row} (mem : r ∈ t.rows) (ne : r.id ≠ row.id) :
    r ∈ (t.replace row).rows :=
  List.mem_map.mpr ⟨r, mem, if_neg ne⟩

/-- **A ruling that is recorded** replaces the row, and the answer is yes. -/
theorem Keyed.respond_ruling (keyed : t.Keyed) (works : t.broken = false) (there : row ∈ t.rows)
    (alive : row.isTerminal = false) (low : row.attempts.toNat + 1 < 1 <<< 32) {g : Ruling}
    (fits : g.Fits row) :
    t.respond (g.call row) = (t.replace (g.result row), some (g.yes row)) := by
  have counts : ¬ t.BreaksOff (g.call row) := by
    rintro ⟨id, a, e, overflow⟩
    cases g with
    | processed | poisoned => cases e
    | failed attempt retryAt reason =>
      obtain ⟨rfl, rfl⟩ := Call.recordFailure.inj e
      have fits : attempt.previous = row.attempts := fits
      simp only [overflows, keyed.find?_eq there, fits, Bool.and_eq_true, decide_eq_true_eq]
        at overflow
      omega
  have adds_none : ∀ r, g.call row ≠ .insert r := by cases g <;> simp [Ruling.call]
  have answer : (t.respond (g.call row)).2 = some (g.yes row) :=
    Ruling.eq_yes_of_isYes (grants_iff.mpr ⟨works, counts, row, keyed.find?_eq there,
      Ruling.accepts_call alive fits⟩)
  refine Prod.ext ?_ answer
  have effects : t.rows.map (g.call row).effect =
      t.rows.map fun r => if r.id = row.id then g.result row else r := by
    refine List.map_congr_left fun r mem => ?_
    split
    · rename_i e
      obtain rfl := List.inj_on_of_nodup_map keyed mem there e
      exact Ruling.effect_call alive fits
    · rename_i ne
      exact Ruling.effect_call_of_ne ne
  rw [respond_unbroken works counts]
  show (t.answer (g.call row)).1 = t.modify (g.result row).id fun _ => g.result row
  rw [keyed.answer_eq adds_none, effects, Ruling.id_result]
  rfl

end Table

/-! ## What a worker records -/

namespace Worker

variable {w : Worker} {row : Row}

/-- Why a worker does not offer a row to the broker, if it does not. -/
def refusal (w : Worker) (row : Row) : Option (PoisonReason × String) :=
  match w.registry.resolve row.name row.version with
  | none => some (.unknownType, unknownType row)
  | some schema =>
    match schema.validate row.payload with
    | .error fault => some (.invalidPayload, schema.invalidPayload fault)
    | .ok () => none

theorem refusal_eq_none_iff : w.refusal row = none ↔ w.registry.Accepts row := by
  unfold refusal Registry.Accepts
  cases w.registry.resolve row.name row.version with
  | none => simp
  | some schema => cases h : schema.validate row.payload <;> simp [h]

/-- Whether a row is offered or poisoned. -/
theorem dispatch_eq (w : Worker) (b : Batch) (row : Row) (span : PublishSpan) :
    (w.dispatch b row span).progress =
      match w.refusal row with
      | none => .waiting (.publishing b row span)
      | some (reason, detail) => .waiting (.poisoning b row span reason detail) := by
  unfold dispatch refusal
  cases w.registry.resolve row.name row.version with
  | none => rfl
  | some schema =>
    cases h : schema.validate row.payload with
    | error fault => simp only [h]; rfl
    | ok _ => simp only [h]

/-- The attempt that is recorded of a row whose message was not taken. -/
def attempt (w : Worker) (row : Row) (r : Reading) (reason : String) : Attempt :=
  let exhausted : Bool := w.tuning.maxAttempts ≤ nextAttempt row
  { previous := row.attempts
    retryAt := if exhausted then none else some (w.retryAt row r)
    error := if exhausted then exhaustedDetail (nextAttempt row) reason else reason
    exhausted }

/-- What a worker records of a row, when the broker replies so to its message and the worker reads
`r` then. -/
def verdict (w : Worker) (row : Row) (r : Reading) (reply : Except Refusal Unit) : Ruling :=
  match w.refusal row with
  | some (reason, detail) => .poisoned reason detail
  | none =>
    match reply with
    | .ok () => .processed r.now
    | .error (.permanent reason) => .poisoned .rejected reason
    | .error (.transient reason) => .failed (w.attempt row r reason) (w.retryAt row r) reason

theorem fits_verdict (w : Worker) (row : Row) (r : Reading) (reply : Except Refusal Unit) :
    (w.verdict row r reply).Fits row := by
  unfold verdict
  split
  · trivial
  · split
    · trivial
    · trivial
    · rfl

end Worker

/-! ## What becomes of a row -/

/-- What becomes of a row of a batch, and what is done about it. -/
structure Fate where
  row : Row
  outcome : RowOutcome
  offers : List Offer
  calls : List Call

namespace Surroundings

variable (c : Surroundings) (w : Worker) (row : Row)

/-- The message of a row. -/
def message : Message := row.message (w.sink.start row (c.reread row.id).spanIds)

/-- What is recorded of a row. -/
def ruling : Ruling := w.verdict row (c.published row.id) (c.reply (c.message w row))

/-- What the broker is offered of a row. -/
def offered : List Offer :=
  match w.refusal row with
  | some _ => []
  | none => [⟨row.id, c.message w row, c.reply (c.message w row)⟩]

/-- What becomes of a row that the worker holds. -/
def fate : Fate :=
  if (c.failure (.get row.id)).isSome then ⟨row, .storeError, [], [.get row.id]⟩
  else
    let g := c.ruling w row
    let calls := [.get row.id, g.call row]
    if (c.failure (g.call row)).isSome then ⟨row, .storeError, c.offered w row, calls⟩
    else ⟨g.result row, g.outcome row, c.offered w row, calls⟩

/-- **What becomes of a row, by the first of its calls that fails**: it is read again, and a ruling
about it is recorded. -/
theorem fate_cases :
    (∃ e, c.failure (.get row.id) = some e ∧
      c.fate w row = ⟨row, .storeError, [], [.get row.id]⟩) ∨
    (c.failure (.get row.id) = none ∧ ∃ e, c.failure ((c.ruling w row).call row) = some e ∧
      c.fate w row = ⟨row, .storeError, c.offered w row,
        [.get row.id, (c.ruling w row).call row]⟩) ∨
    (c.failure (.get row.id) = none ∧ c.failure ((c.ruling w row).call row) = none ∧
      c.fate w row = ⟨(c.ruling w row).result row, (c.ruling w row).outcome row, c.offered w row,
        [.get row.id, (c.ruling w row).call row]⟩) := by
  cases reading : c.failure (.get row.id) with
  | some e => exact .inl ⟨e, rfl, by simp [fate, reading]⟩
  | none =>
    cases recording : c.failure ((c.ruling w row).call row) with
    | some e => exact .inr (.inl ⟨rfl, e, rfl, by simp [fate, reading, recording]⟩)
    | none => exact .inr (.inr ⟨rfl, rfl, by simp [fate, reading, recording]⟩)

@[simp] theorem id_fate : (c.fate w row).row.id = row.id := by
  rcases c.fate_cases w row with ⟨e, -, fate⟩ | ⟨-, e, -, fate⟩ | ⟨-, -, fate⟩
  · rw [fate]
  · rw [fate]
  · rw [fate]
    exact Ruling.id_result _ row

end Surroundings

/-! ## Told to stop -/

/-- The worker reads that it was told to stop, and the broker's reply has not settled the matter. -/
def Reading.cutsShort (r : Reading) : Except Refusal Unit → Bool
  | .error (.transient _) => r.cancelled
  | .error (.permanent _) | .ok () => false

theorem Reading.cutsShort_of_goes {r : Reading} (goes : r.cancelled = false)
    (reply : Except Refusal Unit) : r.cutsShort reply = false := by
  rcases reply with (reason | reason) | ⟨⟩
  · rfl
  · exact goes
  · rfl

namespace Surroundings

variable (c : Surroundings) (w : Worker) (row : Row)

/-- Whether the worker is told to stop while it offers a row, and the row is left at that. -/
def interrupts : Bool :=
  (c.failure (.get row.id)).isNone && (w.refusal row).isNone &&
    (c.published row.id).cutsShort (c.reply (c.message w row))

/-- What becomes of a row that the worker comes to. -/
def lot : Fate :=
  if c.interrupts w row then ⟨row, .abandoned, c.offered w row, [.get row.id]⟩ else c.fate w row

/-- What the worker reads when it is done with a row. -/
def last : Reading :=
  if (c.failure (.get row.id)).isSome then c.reread row.id
  else if c.interrupts w row then c.published row.id
  else c.recorded row.id

@[simp] theorem id_lot : (c.lot w row).row.id = row.id := by
  unfold lot
  split
  · rfl
  · exact c.id_fate w row

theorem lot_of_not_interrupts (goes : c.interrupts w row = false) : c.lot w row = c.fate w row := by
  rw [lot, goes, if_neg Bool.false_ne_true]

variable {c}

/-- A row is left at that just if it was read again, offered, and not settled. -/
theorem interrupts_iff : c.interrupts w row = true ↔ c.failure (.get row.id) = none ∧
    w.refusal row = none ∧ (c.published row.id).cutsShort (c.reply (c.message w row)) = true := by
  simp [interrupts, and_assoc]

theorem Uncancelled.interrupts (going : c.Uncancelled) : c.interrupts w row = false := by
  have goes : (c.published row.id).cancelled = false :=
    going (.publishing ⟨"", {}, []⟩ row (w.sink.start row (c.reread row.id).spanIds))
  rw [Surroundings.interrupts, Reading.cutsShort_of_goes goes, Bool.and_false]

theorem Uncancelled.last (going : c.Uncancelled) : (c.last w row).cancelled = false := by
  have span := w.sink.start row (c.reread row.id).spanIds
  rw [Surroundings.last, going.interrupts, if_neg Bool.false_ne_true]
  split
  · exact going (.reading ⟨"", {}, []⟩ row.id)
  · exact going (.completing ⟨"", {}, []⟩ row span .epoch)

end Surroundings

/-! ## A row on its way -/

namespace Solo

variable {w : Worker} {c : Surroundings} {t : Table} {b : Batch} {row : Row} {os : List Offer}
  {cs : List Call} {us : List (Uuid × RowOutcome)}

/-- Recording a ruling fails. -/
theorem leads_unrecorded {g : Ruling} {e : StoreError} (failing : c.failure (g.call row) = some e)
    (span : PublishSpan) :
    Leads w c ⟨t, some (.waiting (g.phase b row span)), os, cs, us⟩
      ⟨t, some (({ b with report := b.report.record .storeError } : Batch).onward
          (c.recorded row.id).cancelled), os,
        cs ++ [g.call row], us ++ [(row.id, .storeError)]⟩ := by
  have served := Surroundings.serve_failed failing t
  cases g with
  | processed now =>
    exact leads_answered (p := .completing b row span now) served
      (Worker.settleIn_onward _ _ _ _ _) (List.append_nil os) rfl rfl
  | poisoned reason detail =>
    exact leads_answered (p := .poisoning b row span reason detail) served
      (Worker.settleIn_onward _ _ _ _ _) (List.append_nil os) rfl rfl
  | failed attempt retryAt reason =>
    exact leads_answered (p := .failing b row span attempt retryAt reason) served
      (Worker.settleIn_onward _ _ _ _ _) (List.append_nil os) rfl rfl

/-- A ruling is recorded. -/
theorem leads_recorded (keyed : t.Keyed) (works : t.broken = false) (there : row ∈ t.rows)
    (alive : row.isTerminal = false) (low : row.attempts.toNat + 1 < 1 <<< 32) {g : Ruling}
    (fits : g.Fits row) (unfailing : c.failure (g.call row) = none) (span : PublishSpan) :
    Leads w c ⟨t, some (.waiting (g.phase b row span)), os, cs, us⟩
      ⟨t.replace (g.result row),
        some (({ b with report := b.report.record (g.outcome row) } : Batch).onward
          (c.recorded row.id).cancelled), os,
        cs ++ [g.call row], us ++ [(row.id, g.outcome row)]⟩ := by
  have served := Surroundings.serve_responds unfailing t
  rw [keyed.respond_ruling works there alive low fits] at served
  cases g with
  | processed now =>
    exact leads_answered (p := .completing b row span now) served
      (Worker.settleIn_onward _ _ _ _ _) (List.append_nil os) rfl rfl
  | poisoned reason detail =>
    exact leads_answered (p := .poisoning b row span reason detail) served
      (Worker.settleIn_onward _ _ _ _ _) (List.append_nil os) rfl rfl
  | failed attempt retryAt reason =>
    refine leads_answered (p := .failing b row span attempt retryAt reason) served ?_
      (List.append_nil os) rfl rfl
    simp only [Worker.resume, Ruling.yes, Worker.failed, Ruling.outcome]
    split
    · exact Worker.settleIn_onward _ _ _ _ _
    · exact Worker.settleIn_onward _ _ _ _ _

/-- A row that is alive and the worker's own is read again. -/
theorem serve_reading (keyed : t.Keyed) (works : t.broken = false) (there : row ∈ t.rows)
    (unfailing : c.failure (.get row.id) = none) :
    c.serve t (.store (.get row.id)) = (t, some (.ok (some row))) := by
  rw [Surroundings.serve_responds unfailing, Table.respond_get, works, keyed.find?_eq there]
  rfl

theorem reread_own (alive : row.isTerminal = false) (own : row.claimedBy = some b.claim)
    (r : Reading) :
    w.reread b row.id r (.ok (some row)) = w.dispatch b row (w.sink.start row r.spanIds) := by
  simp [Worker.reread, alive, own]

/-- The broker's reply decides what is recorded of a row that is offered. -/
theorem published_progress (accepted : w.refusal row = none) (span : PublishSpan) {r : Reading}
    {reply : Except Refusal Unit} (settled : r.cutsShort reply = false) :
    (w.published b row span r reply).progress =
      .waiting ((w.verdict row r reply).phase b row span) := by
  rcases reply with (reason | reason) | ⟨⟩
  · simp only [Worker.published, Worker.verdict, accepted]
    rfl
  · have goes : r.cancelled = false := settled
    simp only [Worker.published, Worker.verdict, accepted, goes]
    rfl
  · simp only [Worker.published, Worker.verdict, accepted]
    rfl

/-- A row that was offered is not done with until that is recorded, unless the worker is told to
stop. -/
theorem settles_publishing (span : PublishSpan) {r : Reading} {reply : Except Refusal Unit}
    (settled : r.cutsShort reply = false) :
    w.settles r (.publishing b row span) reply = none := by
  rcases reply with (reason | reason) | ⟨⟩
  · rfl
  · have goes : r.cancelled = false := settled
    exact if_neg (by simp [goes])
  · rfl

/-- A row is offered, and left at that. -/
theorem published_cutsShort (w : Worker) (b : Batch) (row : Row) (span : PublishSpan) {r : Reading}
    {reply : Except Refusal Unit} (cut : r.cutsShort reply = true) :
    (w.published b row span r reply).progress =
        ({ b with report := b.report.record .abandoned } : Batch).onward r.cancelled ∧
      w.settles r (.publishing b row span) reply = some (row.id, .abandoned) := by
  rcases reply with (reason | reason) | ⟨⟩
  · cases cut
  · have stops : r.cancelled = true := cut
    refine ⟨?_, if_pos stops⟩
    rw [Worker.published, if_pos stops]
    exact Worker.settleIn_onward _ _ _ _ _
  · cases cut

/-- A row that is read again is dispatched. -/
theorem leads_dispatched (keyed : t.Keyed) (works : t.broken = false) (there : row ∈ t.rows)
    (alive : row.isTerminal = false) (own : row.claimedBy = some b.claim)
    (unfailing : c.failure (.get row.id) = none) :
    Leads w c ⟨t, some (.waiting (.reading b row.id)), os, cs, us⟩
      ⟨t, some (w.dispatch b row (w.sink.start row (c.reread row.id).spanIds)).progress, os,
        cs ++ [.get row.id], us⟩ := by
  have mine : w.settles (c.reread row.id) (.reading b row.id) (.ok (some row)) = none := by
    simp [Worker.settles, alive, own]
  refine leads_answered (serve_reading keyed works there unfailing)
    (congrArg Step.progress (reread_own alive own _)) (List.append_nil os) rfl ?_
  rw [show c.reading (.reading b row.id) = c.reread row.id from rfl, mine, Option.toList_none,
    List.append_nil]

theorem offered_of_accepted (accepted : w.refusal row = none) :
    c.offered w row = [⟨row.id, c.message w row, c.reply (c.message w row)⟩] := by
  simp [Surroundings.offered, accepted]

/-- From reading a row again to recording what is to be recorded of it. -/
theorem leads_ruled (settled : c.interrupts w row = false) (keyed : t.Keyed)
    (works : t.broken = false) (there : row ∈ t.rows) (alive : row.isTerminal = false)
    (own : row.claimedBy = some b.claim) (unfailing : c.failure (.get row.id) = none) :
    Leads w c ⟨t, some (.waiting (.reading b row.id)), os, cs, us⟩
      ⟨t, some (.waiting ((c.ruling w row).phase b row
          (w.sink.start row (c.reread row.id).spanIds))),
        os ++ c.offered w row, cs ++ [.get row.id], us⟩ := by
  have dispatched : Leads w c ⟨t, some (.waiting (.reading b row.id)), os, cs, us⟩ _ :=
    leads_dispatched keyed works there alive own unfailing
  rw [w.dispatch_eq] at dispatched
  cases refused : w.refusal row with
  | some refusal =>
    obtain ⟨reason, detail⟩ := refusal
    have offered : os ++ c.offered w row = os := by simp [Surroundings.offered, refused]
    have ruling : c.ruling w row = .poisoned reason detail := by
      simp [Surroundings.ruling, Worker.verdict, refused]
    rw [refused] at dispatched
    rw [offered, ruling]
    exact dispatched
  | none =>
    rw [refused] at dispatched
    have goes : (c.published row.id).cutsShort (c.reply (c.message w row)) = false := by
      simpa [Surroundings.interrupts, unfailing, refused] using settled
    refine dispatched.trans (leads_answered rfl (published_progress refused _ goes) ?_
      (List.append_nil _) ?_)
    · rw [offered_of_accepted refused]
      rfl
    · refine (congrArg (us ++ Option.toList ·) (settles_publishing _ goes)).trans ?_
      rw [Option.toList_none, List.append_nil]

/-- From reading a row again to leaving it at an offer. -/
theorem leads_interrupted (cut : c.interrupts w row = true) (keyed : t.Keyed)
    (works : t.broken = false) (there : row ∈ t.rows) (alive : row.isTerminal = false)
    (own : row.claimedBy = some b.claim) :
    Leads w c ⟨t, some (.waiting (.reading b row.id)), os, cs, us⟩
      ⟨t, some (({ b with report := b.report.record .abandoned } : Batch).onward
          (c.published row.id).cancelled),
        os ++ c.offered w row, cs ++ [.get row.id], us ++ [(row.id, .abandoned)]⟩ := by
  obtain ⟨unfailing, accepted, cut⟩ := (Surroundings.interrupts_iff w row).mp cut
  have dispatched : Leads w c ⟨t, some (.waiting (.reading b row.id)), os, cs, us⟩ _ :=
    leads_dispatched keyed works there alive own unfailing
  rw [w.dispatch_eq, accepted] at dispatched
  obtain ⟨goes, settled⟩ := published_cutsShort w b row
    (w.sink.start row (c.reread row.id).spanIds) cut
  refine dispatched.trans (leads_answered rfl goes ?_ (List.append_nil _) ?_)
  · rw [offered_of_accepted accepted]
    rfl
  · exact congrArg (us ++ Option.toList ·) settled

/-- **One row of a batch.** The worker reads the row again, does with it what becomes of it, and
goes on. -/
theorem leads_row (keyed : t.Keyed) (works : t.broken = false) (there : row ∈ t.rows)
    (alive : row.isTerminal = false) (own : row.claimedBy = some b.claim)
    (low : row.attempts.toNat + 1 < 1 <<< 32) :
    Leads w c ⟨t, some (.waiting (.reading b row.id)), os, cs, us⟩
      ⟨t.replace (c.lot w row).row,
        some (({ b with report := b.report.record (c.lot w row).outcome } : Batch).onward
          (c.last w row).cancelled),
        os ++ (c.lot w row).offers, cs ++ (c.lot w row).calls,
        us ++ [(row.id, (c.lot w row).outcome)]⟩ := by
  have calls : cs ++ [.get row.id, (c.ruling w row).call row] =
      cs ++ [.get row.id] ++ [(c.ruling w row).call row] := List.append_cons ..
  cases cut : c.interrupts w row with
  | true =>
    have unfailing := ((Surroundings.interrupts_iff w row).mp cut).1
    simp only [Surroundings.lot, Surroundings.last, cut, unfailing, if_true,
      keyed.replace_self there]
    exact leads_interrupted cut keyed works there alive own
  | false =>
    rw [c.lot_of_not_interrupts w row cut]
    rcases c.fate_cases w row with ⟨e, failing, fate⟩ | ⟨unfailing, e, failing, fate⟩ |
      ⟨unfailing, unfailing', fate⟩
    · rw [fate, keyed.replace_self there, Surroundings.last, failing]
      exact leads_answered (p := .reading b row.id) (Surroundings.serve_failed failing t)
        (Worker.settle_onward _ _ _ _) rfl rfl rfl
    · rw [fate, keyed.replace_self there, calls, Surroundings.last, unfailing, cut]
      exact (leads_ruled cut keyed works there alive own unfailing).trans
        (leads_unrecorded failing _)
    · rw [fate, calls, Surroundings.last, unfailing, cut]
      exact (leads_ruled cut keyed works there alive own unfailing).trans
        (leads_recorded keyed works there alive low (w.fits_verdict row _ _) unfailing' _)

end Solo

end Relay
