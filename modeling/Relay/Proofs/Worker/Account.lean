import Relay.Proofs.Worker.Progress

/-!
# What a worker counts

A worker counts what becomes of the rows of a batch in the batch's report, and measures some of it.
`Worker.counts` says once what a step counts and measures: in all steps but those that settle a row
or begin or end a batch nothing is; a row that is settled is counted under its outcome and measured
as that outcome, and the answer that settles it decides both (`Phase.verdict`). From this follows
that a step measures what it counts (`Worker.count_resume`, `Worker.verdict_measured`), that it
measures an iteration exactly when it ends one with a report (`Worker.claimed_measured`), and that
the counts of a report add up to the rows that were claimed (`Worker.balanced_resume`).
-/

namespace Relay

/-! ## Measurements -/

/-- What an act measures, if it does. -/
def Act.measurement : Act → Option Measurement
  | .note _ => none
  | .measure m => some m

/-- What a worker measures in a step. -/
def Step.measured (s : Step) : List Measurement := s.acts.filterMap Act.measurement

namespace Worker

@[simp] theorem filterMap_measurement_notes (ns : List Journal.Note) :
    (notes ns).filterMap Act.measurement = [] := by
  induction ns with
  | nil => rfl
  | cons n ns ih => exact ih

/-- A worker that begins to poison a row measures nothing. -/
theorem measured_poison (acts : List Act) (b : Batch) (row : Row) (span : PublishSpan)
    (reason : PoisonReason) (detail : String) :
    (poison acts b row span reason detail).measured = acts.filterMap Act.measurement := by
  simp [poison, Step.measured, entry, Act.measurement]

/-- A worker that checks a row measures nothing. -/
theorem measured_dispatch (w : Worker) (b : Batch) (row : Row) (span : PublishSpan) :
    (w.dispatch b row span).measured = [] := by
  unfold dispatch
  dsimp only
  split
  · rw [measured_poison, filterMap_measurement_notes]
  · split
    · rw [measured_poison, filterMap_measurement_notes]
    · exact filterMap_measurement_notes _

end Worker

/-! ## What is counted both in reports and by measurements -/

/-- What can become of a row that is both reported and measured. -/
inductive Verdict where
  | processed
  | poisoned
  | failed
  deriving DecidableEq, Repr

/-- What is measured about the rows of a type that had an outcome. -/
def RowOutcome.measurement (event : String) : RowOutcome → Option Measurement
  | .processed => some (.processed event)
  | .poisoned reason => some (.poisoned event reason)
  | .failed _ _ => some (.failed event)
  | .skipped | .abandoned | .storeError => none

def RowOutcome.verdict : RowOutcome → Option Verdict
  | .processed => some .processed
  | .poisoned _ => some .poisoned
  | .failed _ _ => some .failed
  | .skipped | .abandoned | .storeError => none

def Measurement.verdict : Measurement → Option Verdict
  | .processed _ => some .processed
  | .poisoned _ _ => some .poisoned
  | .failed _ => some .failed
  | .iteration _ => none

/-- The rows that an iteration claimed, if it is the iteration that is measured. -/
def Measurement.claimed : Measurement → Option Nat
  | .iteration claimed => some claimed
  | .processed _ | .poisoned _ _ | .failed _ => none

/-- What becomes of the row that a phase is about, by the answer to its request. A row that was
published is processed even if it was already terminal; any other change must have been made. -/
def Phase.verdict (w : Worker) : (p : Phase) → (p.request w).Answer → Option Verdict
  | .completing _ _ _ _, .ok _ => some .processed
  | .poisoning _ _ _ _ _, .ok true => some .poisoned
  | .failing _ _ _ attempt _ _, .ok true => some (if attempt.exhausted then .poisoned else .failed)
  | _, _ => none

namespace Report

/-- The number of rows that one thing became of. -/
def count (r : Report) : Verdict → Nat
  | .processed => r.processed
  | .poisoned => r.poisoned
  | .failed => r.failed

/-- The number of rows that something became of. -/
def total (r : Report) : Nat :=
  r.processed + r.poisoned + r.failed + r.skipped + r.abandoned + r.storeErrors

theorem count_record (r : Report) (outcome : RowOutcome) (v : Verdict) :
    (r.record outcome).count v = r.count v + if outcome.verdict = some v then 1 else 0 := by
  cases outcome <;> cases v <;> rfl

theorem total_record (r : Report) (outcome : RowOutcome) :
    (r.record outcome).total = r.total + 1 := by
  cases outcome <;> simp only [record, total] <;> omega

theorem claimed_record (r : Report) (outcome : RowOutcome) :
    (r.record outcome).claimed = r.claimed := by
  cases outcome <;> rfl

end Report

/-! ## What a step counts -/

namespace Worker

/-- What a worker counts and measures in a step. -/
inductive Counts (w : Worker) (r : Reading) (p : Phase) (a : (p.request w).Answer) : Step → Prop
  /-- The worker goes on with what it was at. -/
  | goesOn (acts : List Act) (phase : Phase) (quiet : acts.filterMap Act.measurement = [])
    (same : phase.batch = p.batch) (unsettled : p.verdict w a = none) :
    w.Counts r p a ⟨acts, .waiting phase⟩
  /-- The iteration ends before there is a batch. -/
  | stops (acts : List Act) (outcome : Outcome) (quiet : acts.filterMap Act.measurement = [])
    (before : p.batch = none) (batchless : ∀ report, outcome ≠ .dispatched report)
    (unsettled : p.verdict w a = none) :
    w.Counts r p a (stop acts outcome)
  | opens (acts : List Act) (b : Batch) (quiet : acts.filterMap Act.measurement = [])
    (before : p.batch = none) (fresh : b.report = { claimed := b.waiting.length })
    (unsettled : p.verdict w a = none) :
    w.Counts r p a (nextRow acts b r)
  | settles (acts : List Act) (b : Batch) (outcome : RowOutcome) (event : String)
    (batch : p.batch = some b)
    (measures : acts.filterMap Act.measurement = (outcome.measurement event).toList)
    (settled : p.verdict w a = outcome.verdict) :
    w.Counts r p a (settle acts b outcome r)

variable {w : Worker} {r : Reading}

/-- A row is settled after its publish span. -/
theorem Counts.settlesIn {p : Phase} {a : (p.request w).Answer} (span : PublishSpan)
    (acts : List Act) (b : Batch) (outcome : RowOutcome) (event : String)
    (batch : p.batch = some b)
    (measures : acts.filterMap Act.measurement = (outcome.measurement event).toList)
    (settled : p.verdict w a = outcome.verdict) :
    w.Counts r p a (settleIn span acts b outcome r) := by
  refine .settles _ b outcome event batch ?_ settled
  rw [List.filterMap_append, filterMap_measurement_notes, List.append_nil, measures]

theorem counts_dispatch {b : Batch} {id : Uuid} (row : Row) (span : PublishSpan) :
    w.Counts r (.reading b id) (.ok (some row)) (w.dispatch b row span) := by
  have quiet := w.measured_dispatch b row span
  unfold dispatch at quiet ⊢
  dsimp only at quiet ⊢
  split at quiet
  · exact .goesOn _ _ quiet rfl rfl
  · split at quiet
    · exact .goesOn _ _ quiet rfl rfl
    · exact .goesOn _ _ quiet rfl rfl

/-- **What a step counts and measures.** -/
theorem counts (w : Worker) (r : Reading) (p : Phase) (a : (p.request w).Answer) :
    w.Counts r p a (w.resume r p a) := by
  cases p with
  | checking due =>
    rcases a with e | (_ | _)
    · exact .stops _ _ rfl rfl nofun rfl
    · exact .stops _ _ rfl rfl nofun rfl
    · exact .goesOn _ _ rfl rfl rfl
  | selecting due =>
    rcases a with e | (_ | ⟨id, ids⟩)
    · exact .stops _ _ rfl rfl nofun rfl
    · exact .stops _ _ rfl rfl nofun rfl
    · exact .goesOn _ _ rfl rfl rfl
  | claiming ids due claim expiry =>
    rcases a with e | (_ | n)
    · exact .stops _ _ rfl rfl nofun rfl
    · exact .stops _ _ rfl rfl nofun rfl
    · exact .goesOn _ _ rfl rfl rfl
  | fetching claim count now =>
    rcases a with e | rows
    · exact .stops _ _ rfl rfl nofun rfl
    · refine .opens _ _ rfl rfl ?_ rfl
      simp
  | reading b id =>
    rcases a with e | (_ | row)
    · exact .settles _ b _ "" rfl rfl rfl
    · exact .settles _ b _ "" rfl rfl rfl
    · show w.Counts r _ _ (w.reread b id r (.ok (some row)))
      unfold reread
      dsimp only
      split
      · exact .settles _ b _ "" rfl rfl rfl
      · exact counts_dispatch row _
  | publishing b row span =>
    rcases a with (reason | reason) | u
    · exact .goesOn _ _ (measured_poison [] b row span .rejected reason) rfl rfl
    · show w.Counts r _ _ (w.published b row span r (.error (.transient reason)))
      unfold published
      dsimp only
      split
      · exact .settlesIn span _ b .abandoned row.name rfl rfl rfl
      · exact .goesOn _ _ rfl rfl rfl
    · exact .goesOn _ _ rfl rfl rfl
  | completing b row span now =>
    rcases a with e | (_ | _)
    · exact .settlesIn span _ b .storeError row.name rfl rfl rfl
    · exact .settlesIn span _ b .processed row.name rfl rfl rfl
    · exact .settlesIn span _ b .processed row.name rfl rfl rfl
  | poisoning b row span reason detail =>
    rcases a with e | (_ | _)
    · exact .settlesIn span _ b .storeError row.name rfl rfl rfl
    · exact .settlesIn span _ b .skipped row.name rfl rfl rfl
    · exact .settlesIn span _ b (.poisoned reason) row.name rfl rfl rfl
  | failing b row span attempt retryAt reason =>
    rcases a with e | (_ | _)
    · exact .settlesIn span _ b .storeError row.name rfl rfl rfl
    · exact .settlesIn span _ b .skipped row.name rfl rfl rfl
    · show w.Counts r _ _ (failed b row span attempt retryAt reason r (.ok true))
      unfold failed
      dsimp only
      split
      · rename_i exhausted
        exact .settlesIn span _ b (.poisoned .attemptsExhausted) row.name rfl rfl
          (congrArg some (if_pos exhausted))
      · rename_i exhausted
        exact .settlesIn span _ b (.failed _ retryAt) row.name rfl rfl
          (congrArg some (if_neg exhausted))

end Worker

/-! ## Reports -/

/-- The report of an iteration that ended with one. -/
def Outcome.report : Outcome → Option Report
  | .dispatched report => some report
  | .idle | .lostRace | .failed _ _ => none

namespace Progress

/-- The report of an iteration that is over. -/
def report : Progress → Option Report
  | .finished outcome => outcome.report
  | .waiting _ => none

/-- The report so far, if the iteration goes on. -/
def draft : Progress → Option Report
  | .waiting phase => phase.batch.map Batch.report
  | .finished _ => none

end Progress

/-- The number of rows that a report says one thing became of, if there is one. -/
def Report.countIn (report : Option Report) (v : Verdict) : Nat :=
  (report.map (Report.count · v)).getD 0

namespace Worker

variable {w : Worker} {r : Reading}

/-- What is measured between two rows: the iteration, if it is over. -/
theorem measured_nextRow (acts : List Act) (b : Batch) (r : Reading) :
    (nextRow acts b r).measured = acts.filterMap Act.measurement ++
      ((nextRow acts b r).progress.report.map fun report => .iteration report.claimed).toList := by
  have finish : ∀ report, (finish acts report).measured = acts.filterMap Act.measurement ++
      ((Worker.finish acts report).progress.report.map fun report =>
        .iteration report.claimed).toList := by
    intro report
    exact List.filterMap_append
  unfold nextRow
  split
  · exact finish _
  · split
    · exact finish _
    · exact (List.append_nil _).symm

/-- Between two rows no count changes but that of the abandoned ones. -/
theorem count_nextRow (acts : List Act) (b : Batch) (r : Reading) (v : Verdict) :
    Report.countIn (nextRow acts b r).progress.report v +
      Report.countIn (nextRow acts b r).progress.draft v = b.report.count v := by
  unfold nextRow
  split
  · rfl
  · split
    · cases v <;> rfl
    · exact Nat.zero_add _

/-- **A worker counts every verdict**, in the report that it gives or in that which it goes on
with. -/
theorem count_resume (w : Worker) (r : Reading) (p : Phase) (a : (p.request w).Answer)
    (v : Verdict) :
    Report.countIn (w.resume r p a).progress.report v +
        Report.countIn (w.resume r p a).progress.draft v =
      Report.countIn (p.batch.map Batch.report) v + if p.verdict w a = some v then 1 else 0 := by
  have counts := w.counts r p a
  generalize w.resume r p a = s at counts
  cases counts with
  | goesOn acts phase quiet same unsettled =>
    rw [unsettled, ← same]
    exact Nat.zero_add _
  | stops acts outcome quiet before batchless unsettled =>
    rw [unsettled, before]
    cases outcome with
    | dispatched report => exact absurd rfl (batchless report)
    | idle | lostRace | failed => rfl
  | opens acts b quiet before fresh unsettled =>
    rw [count_nextRow, unsettled, before, fresh]
    cases v <;> rfl
  | settles acts b outcome event batch measures settled =>
    rw [settle, count_nextRow, Report.count_record, settled, batch]
    rfl

/-- **A worker measures every verdict.** -/
theorem verdict_measured (w : Worker) (r : Reading) (p : Phase) (a : (p.request w).Answer) :
    (w.resume r p a).measured.filterMap Measurement.verdict = (p.verdict w a).toList := by
  have iteration : ∀ report : Option Report,
      (report.map fun report => Measurement.iteration report.claimed).toList.filterMap
        Measurement.verdict = [] := by
    intro report
    cases report <;> rfl
  have counts := w.counts r p a
  generalize w.resume r p a = s at counts
  cases counts with
  | goesOn acts phase quiet same unsettled | stops acts outcome quiet before batchless unsettled =>
    rw [unsettled]
    exact congrArg (List.filterMap Measurement.verdict) quiet
  | opens acts b quiet before fresh unsettled =>
    rw [measured_nextRow, quiet, unsettled, List.nil_append, iteration]
    rfl
  | settles acts b outcome event batch measures settled =>
    rw [settle, measured_nextRow, measures, settled, List.filterMap_append, iteration,
      List.append_nil]
    cases outcome <;> rfl

theorem countP_measured (w : Worker) (r : Reading) (p : Phase) (a : (p.request w).Answer)
    (v : Verdict) :
    ((w.resume r p a).measured.countP fun m => m.verdict = some v) =
      if p.verdict w a = some v then 1 else 0 := by
  have found : ((w.resume r p a).measured.countP fun m => m.verdict = some v) =
      ((w.resume r p a).measured.filterMap Measurement.verdict).countP (· = v) := by
    rw [List.countP_filterMap]
    exact List.countP_congr fun m _ => by cases m.verdict <;> simp
  rw [found, verdict_measured]
  cases p.verdict w a <;> simp [List.countP_cons]

/-- **A worker measures an iteration** when it ends one with a report, with the rows that the report
says were claimed. -/
theorem claimed_measured (w : Worker) (r : Reading) (p : Phase) (a : (p.request w).Answer) :
    (w.resume r p a).measured.filterMap Measurement.claimed =
      ((w.resume r p a).progress.report.map Report.claimed).toList := by
  have iteration : ∀ report : Option Report,
      (report.map fun report => Measurement.iteration report.claimed).toList.filterMap
        Measurement.claimed = (report.map Report.claimed).toList := by
    intro report
    cases report <;> rfl
  have counts := w.counts r p a
  generalize w.resume r p a = s at counts
  cases counts with
  | goesOn acts phase quiet => exact congrArg (List.filterMap Measurement.claimed) quiet
  | stops acts outcome quiet before batchless =>
    cases outcome with
    | dispatched report => exact absurd rfl (batchless report)
    | idle | lostRace | failed => exact congrArg (List.filterMap Measurement.claimed) quiet
  | opens acts b quiet =>
    rw [measured_nextRow, quiet, List.nil_append, iteration]
  | settles acts b outcome event batch measures =>
    rw [settle, measured_nextRow, measures, List.filterMap_append, iteration]
    cases outcome <;> rfl

end Worker

/-! ## Reports add up -/

/-- Of a batch all claimed rows are counted but those that wait and the one in hand. -/
def Phase.Balanced (p : Phase) : Prop :=
  ∀ b, p.batch = some b → b.report.claimed = b.report.total + (b.waiting.length + 1)

/-- The report adds up, if the iteration is over, and otherwise does so far. -/
def Progress.Balanced : Progress → Prop
  | .waiting phase => phase.Balanced
  | .finished outcome => ∀ report, outcome = .dispatched report → report.claimed = report.total

namespace Worker

theorem balanced_nextRow (acts : List Act) (b : Batch) (r : Reading)
    (balanced : b.report.claimed = b.report.total + b.waiting.length) :
    (nextRow acts b r).progress.Balanced := by
  unfold nextRow
  split
  · rename_i none_waits
    rintro report ⟨⟩
    rw [balanced, none_waits]
    rfl
  · rename_i id rest h
    rw [h, List.length_cons] at balanced
    split
    · rintro report ⟨⟩
      show b.report.claimed = { b.report with abandoned := _ }.total
      rw [balanced]
      simp only [Report.total]
      omega
    · rintro b' ⟨⟩
      exact balanced

/-- **Reports add up** if they do so far. -/
theorem balanced_resume (w : Worker) (r : Reading) (p : Phase) (a : (p.request w).Answer)
    (balanced : p.Balanced) : (w.resume r p a).progress.Balanced := by
  have counts := w.counts r p a
  generalize w.resume r p a = s at counts
  cases counts with
  | goesOn acts phase quiet same =>
    intro b batch
    exact balanced b (same ▸ batch)
  | stops acts outcome quiet before batchless =>
    intro report dispatched
    exact absurd dispatched (batchless report)
  | opens acts b quiet before fresh =>
    refine balanced_nextRow acts b r ?_
    rw [fresh]
    simp [Report.total]
  | settles acts b outcome event batch =>
    refine balanced_nextRow acts _ r ?_
    show (b.report.record outcome).claimed = (b.report.record outcome).total + b.waiting.length
    rw [Report.claimed_record, Report.total_record, balanced b batch]
    omega

end Worker

end Relay
