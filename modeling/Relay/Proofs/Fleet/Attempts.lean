import Relay.Proofs.Fleet.Operations
import Relay.Proofs.Table.Attempts

/-!
# Failed attempts are counted

Workers that share a limit record failures from copies of rows that may be long out of date, while
leases run out, others take over and rows are requeued. Still the attempts of a row are the failures
recorded since it came in or was last requeued, they never exceed the limit, and a row is either
poisoned when they reach it or comes up again (`Fleet.failed_attempts_are_counted`).

A worker counts on from its copy and takes an attempt for the last by that count
(`Fleet.Drafts`), and the table records it only while the row has the very count of the copy. That
is all there is to say about workers; the rest is about tables.
-/

namespace Relay

/-- An attempt that counts on from a copy, and is the last one by a limit. -/
structure Attempt.CountsOn (row : Row) (limit : UInt32) (a : Attempt) : Prop where
  previous : a.previous = row.attempts
  fits : a.Fits limit

theorem Worker.le_nextAttempt (limit : UInt32) (row : Row) :
    limit ≤ nextAttempt row ↔ limit.toNat ≤ row.attempts.toNat + 1 := by
  have bound := limit.toNat_lt
  rw [UInt32.le_iff_toNat_le, nextAttempt, Nat.one_shiftLeft]
  split
  · rename_i counts
    rw [UInt32.toNat_add, UInt32.toNat_one, Nat.mod_eq_of_lt counts]
  · -- at the last number there is, the count stands still
    omega

/-- A worker that goes on to record a failure counts on from its copy. -/
theorem Worker.countsOn_of_resume {w : Worker} {r : Reading} {p : Phase} {a : (p.request w).Answer}
    {b : Batch} {row : Row} {span : PublishSpan} {attempt : Attempt} {retryAt : Instant}
    {reason : String}
    (h : (w.resume r p a).progress = .waiting (.failing b row span attempt retryAt reason)) :
    attempt.CountsOn row w.tuning.maxAttempts := by
  have goes := w.goes r p a
  rw [h] at goes
  cases goes with
  | fails b row span attempt retryAt reason runs =>
    simp only [resume, published, runs, fail, Bool.false_eq_true, if_false, Progress.waiting.injEq,
      Phase.failing.injEq] at h
    obtain ⟨-, -, -, rfl, -⟩ := h
    exact ⟨rfl, decide_eq_decide.2 (le_nextAttempt _ row)⟩

namespace Fleet

variable {ι : Type} {workers : ι → Worker} {limit : UInt32}

/-- Whatever workers are about to record counts on from their copies. -/
def Drafts (f : Fleet workers) : Prop :=
  ∀ i b row span attempt retryAt reason,
    f.post i = .asking (.failing b row span attempt retryAt reason) →
      attempt.CountsOn row (workers i).tuning.maxAttempts

/-- From outside anything may be done that tallies. -/
def Turn.Tallies (limit : UInt32) : Turn ι → Prop
  | .outside op => op.Tallies limit
  | .start _ _ | .serve _ _ | .fail _ _ | .resume _ _ | .tick _ => True

variable {f g : Fleet workers} {u : Turn ι}

theorem Fresh.drafts (fresh : f.Fresh) : f.Drafts := by
  intro i b row span attempt retryAt reason asking
  rw [fresh.resting i] at asking
  cases asking

/-- What a turn does tallies. -/
theorem Drafts.tallies (h : f.Drafts) (shared : ∀ i, (workers i).tuning.maxAttempts = limit)
    (ordinary : u.Tallies limit) {op : Operation} (does : f.Does u op) : op.Tallies limit := by
  cases does with
  | outside => exact ordinary
  | calls i reply phase c asking hc =>
    cases phase with
    | failing b row span attempt retryAt reason =>
      cases hc
      have fits := (h i b row span attempt retryAt reason asking).fits
      rw [shared i] at fits
      simpa [Operation.Tallies, Operation.inserted] using fits
    | checking | selecting | claiming | fetching | reading | completing | poisoning =>
      cases hc
      simp [Operation.Tallies, Operation.inserted]
    | publishing => cases hc

variable [DecidableEq ι]

theorem Drafts.step (h : f.Drafts) (m : f.Moves u g) : g.Drafts := by
  intro j b row span attempt retryAt reason asks
  rcases m.post j with ⟨e, -⟩ | acts
  · exact h j b row span attempt retryAt reason (e ▸ asks)
  · obtain ⟨reading, told, answer, -, -, -, next⟩ := acts.asking asks (by simp)
    exact Worker.countsOn_of_resume next

theorem Fresh.drafts_run (fresh : f.Fresh) (turns : List (Turn ι)) : (f.run turns).Drafts :=
  run_keeps (P := fun _ _ _ => True) (fun _ _ _ h _ m => h.step m) fresh.drafts
    (along_of_forall (fun _ _ => trivial) f)

theorem tallies_operations (fresh : f.Fresh)
    (shared : ∀ i, (workers i).tuning.maxAttempts = limit) {turns : List (Turn ι)}
    (ordinary : ∀ u ∈ turns, u.Tallies limit) : ∀ op ∈ f.operations turns, op.Tallies limit :=
  forall_operations (P := fun _ u _ => u.Tallies limit) (fun _ _ _ h _ m => h.step m)
    (fun _ _ _ _ h ordinary does => h.tallies shared ordinary does) fresh.drafts
    (along_of_forall ordinary f)

/-- **Failed attempts are counted.** Workers share a limit, and rows come in without attempts.
However the turns of the workers and the calls of others are ordered, with whatever failures, and
however the clock is set: the attempts of a row are the failures recorded since it came in or was
last requeued, they do not exceed the limit, and a row with as many is poisoned. A row that is alive
has attempts left; it is not stalled, and it is due as soon as its lease has run out and its retry
delay is over. -/
theorem failed_attempts_are_counted (pos : 0 < limit)
    (shared : ∀ i, (workers i).tuning.maxAttempts = limit) (fresh : f.Fresh)
    (untried : ∀ id r, f.table.find? id = some r → r.attempts = 0) (turns : List (Turn ι))
    (ordinary : ∀ u ∈ turns, u.Tallies limit) :
    ∀ id r, (f.run turns).table.find? id = some r →
      r.attempts.toNat = f.table.failures id (f.operations turns) ∧
      r.attempts ≤ limit ∧ (r.attempts = limit → r.poisoned) ∧
      (r.isTerminal = false → r.attempts < limit ∧ ∀ now, r.status ⟨now, limit⟩ ≠ .stalled ∧
        (r.isDue ⟨now, limit⟩ ↔ (∀ u, r.claimedUntil = some u → u < now) ∧
          ∀ b, r.notBefore = some b → b ≤ now)) := by
  intro id r there
  rw [table_run] at there
  have tallies := tallies_operations fresh shared ordinary
  have start : f.table.attempts id = 0 := by
    cases found : f.table.find? id with
    | none => simp [Table.attempts, found]
    | some s => simp [Table.attempts, found, untried id s found]
  have count := f.table.attempts_run id start fun op mem => (tallies op mem).1
  have within := Table.within_run pos untried tallies there
  refine ⟨?_, within.le, within.spent, fun alive => ⟨within.lt alive, fun now => ?_⟩⟩
  · rw [← count, Table.attempts, there]
    rfl
  · exact ⟨within.status_ne_stalled alive now, within.isDue_iff alive now⟩

/-- The only row of the office is claimed, the broker is down, and the failure is recorded. -/
theorem failed_attempts_are_counted_office :
    let turns := Office.pickup () 7 ++ Office.setback ()
    let f := Office.staff Unit
    (f.run turns).table.attempts Office.known.id = 1 ∧
      f.table.failures Office.known.id (f.operations turns) = 1 := by
  intro turns f
  have untried : ∀ id r, f.table.find? id = some r → r.attempts = 0 := by
    intro id r there
    have mem : r ∈ [Office.known] := Table.mem_of_find? there
    rw [List.mem_singleton.1 mem]
    rfl
  have ordinary : ∀ u ∈ turns, u.Tallies 10 := by
    simp [turns, Office.pickup, Office.approach, Office.setback, Turn.Tallies]
  have one : (f.run turns).table.attempts Office.known.id = 1 := by decide +kernel
  obtain ⟨r, there⟩ : ∃ r, (f.run turns).table.find? Office.known.id = some r := by
    rw [← Option.isSome_iff_exists]
    decide +kernel
  obtain ⟨counted, -⟩ := failed_attempts_are_counted (by decide : (0 : UInt32) < 10) (fun _ => rfl)
    Office.fresh_staff untried turns ordinary Office.known.id r there
  refine ⟨one, ?_⟩
  rw [← counted, ← one, Table.attempts, there]
  rfl

end Fleet

end Relay
