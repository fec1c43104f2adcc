import Relay.Worker.Basic

/-!
# Where a step of a worker leads

`Worker.Goes` lists the ways in which a worker can go on with the answer to its request, and
`Worker.goes` says that there are no others. Between two rows the iteration is over, or the next row
of the batch is read again. Past a row's second reading the worker has a copy that was alive and its
own, and it offers the copy to the broker only if the registry accepts it. What comes after a row is
`Batch.onward`, or `Batch.next` while nobody tells the worker to stop.
-/

namespace Relay

/-- The registry knows the type of a row, and its payload is of that type. -/
def Registry.Accepts (registry : Registry) (row : Row) : Prop :=
  ∃ schema, registry.resolve row.name row.version = some schema ∧
    schema.validate row.payload = .ok ()

/-- The batch that a phase goes through. -/
def Phase.batch : Phase → Option Batch
  | .checking _ | .selecting _ | .claiming _ _ _ _ | .fetching _ _ _ => none
  | .reading b _ | .publishing b _ _ | .completing b _ _ _ | .poisoning b _ _ _ _
  | .failing b _ _ _ _ _ => some b

/-- A batch is done with a row: the iteration is over or goes on with the next row. -/
inductive Batch.Next (b : Batch) : Progress → Prop
  | ends (outcome : Outcome) : b.Next (.finished outcome)
  | row (report : Report) (id : Uuid) (rest : List Uuid) (h : b.waiting = id :: rest) :
    b.Next (.waiting (.reading ⟨b.claim, report, rest⟩ id))

namespace Worker

/-- The ways in which a worker can go on with an answer. -/
inductive Goes (w : Worker) (r : Reading) : (p : Phase) → (p.request w).Answer → Progress → Prop
  | ends (p : Phase) (a : (p.request w).Answer) (outcome : Outcome) :
    w.Goes r p a (.finished outcome)
  | selects (due : Due) :
    w.Goes r (.checking due) (.ok true) (.waiting (.selecting (w.due r.now)))
  | claims (due : Due) (ids : List Uuid) :
    w.Goes r (.selecting due) (.ok ids)
      (.waiting (.claiming ids (w.due r.now) (Claim.ofInstance w.tuning.instanceName r.claimId)
        (r.now.after w.tuning.claimDuration)))
  | fetches (ids : List Uuid) (due : Due) (claim : Claim) (expiry : Instant) (n : Nat) :
    w.Goes r (.claiming ids due claim expiry) (.ok n) (.waiting (.fetching claim n r.now))
  | opens (claim : Claim) (count : Nat) (now : Instant) (rows : List Row) (id : Uuid)
    (rest : List Uuid) (h : rows.map Row.id = id :: rest) :
    w.Goes r (.fetching claim count now) (.ok rows)
      (.waiting (.reading ⟨claim, { claimed := rows.length }, rest⟩ id))
  | proceeds (p : Phase) (a : (p.request w).Answer) (b : Batch) (hp : p.batch = some b)
    (report : Report) (id : Uuid) (rest : List Uuid) (h : b.waiting = id :: rest) :
    w.Goes r p a (.waiting (.reading ⟨b.claim, report, rest⟩ id))
  | offers (b : Batch) (id : Uuid) (row : Row) (span : PublishSpan)
    (alive : row.isTerminal = false) (own : row.claimedBy = some b.claim)
    (accepted : w.registry.Accepts row) :
    w.Goes r (.reading b id) (.ok (some row)) (.waiting (.publishing b row span))
  | refuses (b : Batch) (id : Uuid) (row : Row) (span : PublishSpan) (reason : PoisonReason)
    (detail : String) (alive : row.isTerminal = false) (own : row.claimedBy = some b.claim)
    (refused : ¬ w.registry.Accepts row) :
    w.Goes r (.reading b id) (.ok (some row)) (.waiting (.poisoning b row span reason detail))
  | completes (b : Batch) (row : Row) (span : PublishSpan) :
    w.Goes r (.publishing b row span) (.ok ()) (.waiting (.completing b row span r.now))
  | poisons (b : Batch) (row : Row) (span : PublishSpan) (detail : String) :
    w.Goes r (.publishing b row span) (.error (.permanent detail))
      (.waiting (.poisoning b row span .rejected detail))
  | fails (b : Batch) (row : Row) (span : PublishSpan) (attempt : Attempt) (retryAt : Instant)
    (reason : String) (h : r.cancelled = false) :
    w.Goes r (.publishing b row span) (.error (.transient reason))
      (.waiting (.failing b row span attempt retryAt reason))

variable {w : Worker} {r : Reading} {b : Batch}

/-! ## Between two rows -/

theorem Goes.of_next {p : Phase} (hp : p.batch = some b) (a : (p.request w).Answer)
    {progress : Progress} (h : b.Next progress) : w.Goes r p a progress := by
  cases h with
  | ends outcome => exact .ends p a outcome
  | row report id rest h => exact .proceeds p a b hp report id rest h

theorem nextRow_next (acts : List Act) (b : Batch) (r : Reading) :
    b.Next (nextRow acts b r).progress := by
  unfold nextRow
  split
  · exact .ends _
  · rename_i id rest h
    split
    · exact .ends _
    · exact .row b.report id rest h

theorem settle_next (acts : List Act) (b : Batch) (outcome : RowOutcome) (r : Reading) :
    b.Next (settle acts b outcome r).progress := by
  have next := nextRow_next acts { b with report := b.report.record outcome } r
  show b.Next (nextRow acts { b with report := b.report.record outcome } r).progress
  generalize (nextRow acts { b with report := b.report.record outcome } r).progress = progress
    at next ⊢
  cases next with
  | ends outcome => exact .ends outcome
  | row report id rest h => exact .row report id rest h

theorem settleIn_next (span : PublishSpan) (acts : List Act) (b : Batch) (outcome : RowOutcome)
    (r : Reading) : b.Next (settleIn span acts b outcome r).progress :=
  settle_next _ b outcome r

/-! ## Before the batch -/

theorem checked_goes (due : Due) (a : Except StoreError Bool) :
    w.Goes r (.checking due) a (w.checked r a).progress := by
  rcases a with e | (_ | _)
  · exact .ends _ _ _
  · exact .ends _ _ _
  · exact .selects due

theorem selected_goes (due : Due) (a : Except StoreError (List Uuid)) :
    w.Goes r (.selecting due) a (w.selected r a).progress := by
  rcases a with e | (_ | ⟨id, ids⟩)
  · exact .ends _ _ _
  · exact .ends _ _ _
  · exact .claims due (id :: ids)

theorem claimed_goes (ids : List Uuid) (due : Due) (claim : Claim) (expiry : Instant)
    (a : Except StoreError Nat) :
    w.Goes r (.claiming ids due claim expiry) a (w.claimed ids claim r a).progress := by
  rcases a with e | (_ | n)
  · exact .ends _ _ _
  · exact .ends _ _ _
  · exact .fetches ids due claim expiry (n + 1)

theorem fetched_goes (claim : Claim) (count : Nat) (now : Instant)
    (a : Except StoreError (List Row)) :
    w.Goes r (.fetching claim count now) a (w.fetched claim count r a).progress := by
  rcases a with e | rows
  · exact .ends _ _ _
  · unfold fetched nextRow
    dsimp only
    split
    · exact .ends _ _ _
    · rename_i id rest h
      split
      · exact .ends _ _ _
      · exact .opens claim count now rows id rest h

/-! ## One row -/

/-- A row that is checked is offered to the broker if the registry accepts it, and else poisoned. -/
theorem dispatch_progress (w : Worker) (b : Batch) (row : Row) (span : PublishSpan) :
    (w.registry.Accepts row ∧
      (w.dispatch b row span).progress = .waiting (.publishing b row span)) ∨
      (¬ w.registry.Accepts row ∧ ∃ reason detail,
        (w.dispatch b row span).progress = .waiting (.poisoning b row span reason detail)) := by
  unfold dispatch
  cases known : w.registry.resolve row.name row.version with
  | none =>
    refine Or.inr ⟨?_, _, _, rfl⟩
    rintro ⟨schema, h, -⟩
    rw [known] at h
    cases h
  | some schema =>
    cases valid : schema.validate row.payload with
    | error fault =>
      refine Or.inr ⟨?_, _, _, by simp only [valid]; rfl⟩
      rintro ⟨schema', h, h'⟩
      rw [known] at h
      cases h
      rw [valid] at h'
      cases h'
    | ok u => exact Or.inl ⟨⟨schema, known, valid⟩, by simp only [valid]⟩

/-- **The second reading.** Only a copy that is alive and the worker's own goes on, and to the
broker only if the registry accepts it. -/
theorem reread_goes (b : Batch) (id : Uuid) (a : Except StoreError (Option Row)) :
    w.Goes r (.reading b id) a (w.reread b id r a).progress := by
  rcases a with e | (_ | row)
  · exact .of_next rfl _ (settle_next _ b _ r)
  · exact .of_next rfl _ (settle_next _ b _ r)
  · unfold reread
    dsimp only
    split
    · exact .of_next rfl _ (settle_next _ b _ r)
    · rename_i h
      simp only [Bool.or_eq_true, decide_eq_true_eq, not_or, ne_eq, Decidable.not_not,
        Bool.not_eq_true] at h
      obtain ⟨alive, own⟩ := h
      rcases w.dispatch_progress b row (w.sink.start row r.spanIds) with
        ⟨accepted, h⟩ | ⟨refused, reason, detail, h⟩
      · rw [h]
        exact .offers b id row _ alive own accepted
      · rw [h]
        exact .refuses b id row _ reason detail alive own refused

theorem published_goes (b : Batch) (row : Row) (span : PublishSpan) (a : Except Refusal Unit) :
    w.Goes r (.publishing b row span) a (w.published b row span r a).progress := by
  rcases a with (reason | reason) | u
  · exact .poisons b row span reason
  · unfold published
    dsimp only
    split
    · exact .of_next rfl _ (settleIn_next span _ b _ r)
    · rename_i h
      exact .fails b row span _ _ reason (by simpa using h)
  · exact .completes b row span

theorem completed_next (b : Batch) (row : Row) (span : PublishSpan) (a : Except StoreError Bool) :
    b.Next (completed b row span r a).progress := by
  rcases a with e | applied
  · exact settleIn_next span _ b _ r
  · exact settleIn_next span _ b _ r

theorem poisoned_next (b : Batch) (row : Row) (span : PublishSpan) (reason : PoisonReason)
    (a : Except StoreError Bool) : b.Next (poisoned b row span reason r a).progress := by
  rcases a with e | (_ | _)
  · exact settleIn_next span _ b _ r
  · exact settleIn_next span _ b _ r
  · exact settleIn_next span _ b _ r

theorem failed_next (b : Batch) (row : Row) (span : PublishSpan) (attempt : Attempt)
    (retryAt : Instant) (reason : String) (a : Except StoreError Bool) :
    b.Next (failed b row span attempt retryAt reason r a).progress := by
  rcases a with e | (_ | _)
  · exact settleIn_next span _ b _ r
  · exact settleIn_next span _ b _ r
  · unfold failed
    dsimp only
    split
    · exact settleIn_next span _ b _ r
    · exact settleIn_next span _ b _ r

/-- **Every step of a worker** goes in one of these ways. -/
theorem goes (w : Worker) (r : Reading) (p : Phase) (a : (p.request w).Answer) :
    w.Goes r p a (w.resume r p a).progress := by
  cases p with
  | checking due => exact checked_goes due a
  | selecting due => exact selected_goes due a
  | claiming ids due claim expiry => exact claimed_goes ids due claim expiry a
  | fetching claim count now => exact fetched_goes claim count now a
  | reading b id => exact reread_goes b id a
  | publishing b row span => exact published_goes b row span a
  | completing b row span now => exact .of_next rfl a (completed_next b row span a)
  | poisoning b row span reason detail => exact .of_next rfl a (poisoned_next b row span reason a)
  | failing b row span attempt retryAt reason =>
    exact .of_next rfl a (failed_next b row span attempt retryAt reason a)

end Worker

/-! ## What comes after a row -/

/-- What comes after a row: the next row, or the end, and that early once the worker is told to
stop. -/
def Batch.onward (b : Batch) (stop : Bool) : Progress :=
  match b.waiting with
  | [] => .finished (.dispatched b.report)
  | id :: rest =>
    if stop then
      .finished
        (.dispatched { b.report with abandoned := b.report.abandoned + (rest.length + 1) })
    else .waiting (.reading { b with waiting := rest } id)

/-- What comes after a row, if nobody tells the worker to stop. -/
def Batch.next (b : Batch) : Progress :=
  match b.waiting with
  | [] => .finished (.dispatched b.report)
  | id :: rest => .waiting (.reading { b with waiting := rest } id)

theorem Batch.onward_false (b : Batch) : b.onward false = b.next := rfl

namespace Worker

variable {r : Reading}

theorem nextRow_onward (acts : List Act) (b : Batch) (r : Reading) :
    (nextRow acts b r).progress = b.onward r.cancelled := by
  unfold nextRow Batch.onward
  cases b.waiting with
  | nil => rfl
  | cons id rest => cases r.cancelled <;> rfl

theorem settle_onward (acts : List Act) (b : Batch) (outcome : RowOutcome) (r : Reading) :
    (settle acts b outcome r).progress =
      { b with report := b.report.record outcome }.onward r.cancelled :=
  nextRow_onward _ _ _

theorem settleIn_onward (span : PublishSpan) (acts : List Act) (b : Batch) (outcome : RowOutcome)
    (r : Reading) :
    (settleIn span acts b outcome r).progress =
      { b with report := b.report.record outcome }.onward r.cancelled :=
  settle_onward _ _ _ _

theorem nextRow_progress (acts : List Act) (b : Batch) (runs : r.cancelled = false) :
    (nextRow acts b r).progress = b.next := by
  rw [nextRow_onward, runs, Batch.onward_false]

theorem settleIn_progress (span : PublishSpan) (acts : List Act) (b : Batch) (outcome : RowOutcome)
    (runs : r.cancelled = false) :
    (settleIn span acts b outcome r).progress =
      { b with report := b.report.record outcome }.next :=
  nextRow_progress _ _ runs

end Worker

end Relay
