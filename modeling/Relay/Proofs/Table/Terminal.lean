import Relay.Proofs.Table.Effect

/-!
# Terminal rows

A row that is processed never changes again, and one that is poisoned changes only when it is
requeued (`Table.terminal_rows_rest`). Every operation has a guard of its own: a claim asks whether
the row is due, the three outcomes whether it is alive, a requeue whether it is processed, and an
insertion whether its id is taken. `Call.effect_of_processed` and `Call.effect_of_poisoned` go
through them once.
-/

namespace Relay

namespace Row

/-- Processed and poisoned at once. -/
def IsDoublyTerminal (r : Row) : Prop := r.processed.isSome ∧ r.poisoned

theorem isTerminal_of_processed {r : Row} (h : r.processed.isSome) : r.isTerminal := by
  simp [isTerminal, h]

theorem isTerminal_of_poisoned {r : Row} (h : r.poisoned) : r.isTerminal := by
  simp [isTerminal, h]

theorem not_isDue_of_isTerminal {r : Row} (h : r.isTerminal) (due : Due) : r.isDue due = false := by
  simp [isDue, h]

end Row

namespace Call

/-- A terminal row can only be requeued. -/
theorem effect_of_isTerminal {r : Row} (h : r.isTerminal) (c : Call)
    (hc : c = .requeue r.id → Table.isRenewable r = false) : c.effect r = r := by
  cases c with
  | claim ids due c expiry => simp [effect, r.not_isDue_of_isTerminal h]
  | markProcessed id now => simp [effect, h]
  | markPoisoned id reason => simp [effect, h]
  | recordFailure id a => simp [effect, h]
  | requeue id =>
    by_cases e : r.id = id
    · simp [effect, hc (by rw [e])]
    · simp [effect, e]
  | insert | hasDue | selectDue | fetchClaimed | get | stats => rfl

theorem effect_of_processed {r : Row} (h : r.processed.isSome) (c : Call) : c.effect r = r :=
  effect_of_isTerminal (Row.isTerminal_of_processed h) c fun _ => by
    simp only [Table.isRenewable, Bool.and_eq_false_iff]
    exact Or.inl (by simpa [Option.isSome_iff_ne_none] using h)

theorem effect_of_poisoned {r : Row} (h : r.poisoned) {c : Call} (hc : c ≠ .requeue r.id) :
    c.effect r = r :=
  effect_of_isTerminal (Row.isTerminal_of_poisoned h) c fun e => absurd e hc

/-- The guards keep a row from being both processed and poisoned. -/
theorem not_isDoublyTerminal_effect {r : Row} (h : ¬ r.IsDoublyTerminal) (c : Call) :
    ¬ (c.effect r).IsDoublyTerminal := by
  by_cases terminal : r.isTerminal
  · by_cases renewed : ∃ id, c = .requeue id ∧ r.id = id ∧ Table.isRenewable r
    · obtain ⟨id, rfl, e, renewable⟩ := renewed
      simp [effect, e, renewable, Table.renewed, Row.IsDoublyTerminal]
    · rwa [effect_of_isTerminal terminal c]
      intro e
      by_contra renewable
      exact renewed ⟨r.id, e, rfl, by simpa using renewable⟩
  · -- a row that is alive is neither, and no call makes it both
    simp only [Row.isTerminal, Bool.or_eq_true, not_or, Option.not_isSome_iff_eq_none] at terminal
    obtain ⟨unprocessed, sound⟩ := terminal
    cases c with
    | claim ids due c expiry =>
      simp only [effect]
      split <;> exact h
    | markProcessed id now =>
      simp only [effect]
      split
      · exact fun both => sound both.2
      · exact h
    | markPoisoned id reason =>
      simp only [effect]
      split
      · simp [Row.IsDoublyTerminal, unprocessed]
      · exact h
    | recordFailure id a =>
      simp only [effect]
      split
      · simp [Row.IsDoublyTerminal, Table.failed, unprocessed]
      · exact h
    | requeue id =>
      simp only [effect]
      split
      · simp [Row.IsDoublyTerminal, Table.renewed]
      · exact h
    | insert | hasDue | selectDue | fetchClaimed | get | stats => exact h

end Call

namespace Operation

theorem effect_of_processed {r : Row} (h : r.processed.isSome) (op : Operation) :
    op.effect r = r := by
  cases op with
  | call c => exact Call.effect_of_processed h c
  | commit w => rfl

theorem effect_of_poisoned {r : Row} (h : r.poisoned) {op : Operation}
    (hop : op ≠ .call (.requeue r.id)) : op.effect r = r := by
  cases op with
  | call c => exact Call.effect_of_poisoned h fun e => hop (e ▸ rfl)
  | commit w => rfl

theorem not_isDoublyTerminal_effect {r : Row} (h : ¬ r.IsDoublyTerminal) (op : Operation) :
    ¬ (op.effect r).IsDoublyTerminal := by
  cases op with
  | call c => exact Call.not_isDoublyTerminal_effect h c
  | commit w => exact h

end Operation

namespace Table

/-- A row that no operation changes is the same after all of them. -/
theorem find?_run_of_effect {t : Table} {id : Uuid} {r : Row} {ops : List Operation}
    (there : t.find? id = some r) (h : ∀ op ∈ ops, op.effect r = r) :
    (t.run ops).find? id = some r := by
  have keeps : ∀ op ∈ ops, ∀ s : Row, s.id = id → s = r → op.effect s = r := by
    rintro op hop s - rfl
    exact h op hop
  obtain ⟨r', there', rfl⟩ := run_keeps keeps there rfl
  exact there'

/-- **Terminal rows rest.** In a table that was filled and used in any way, a processed row is the
same after any further operations, a poisoned row is so unless it is requeued, and no row is ever
both, if none comes in that is. -/
theorem terminal_rows_rest (earlier later : List Operation) (id : Uuid) (r : Row)
    (there : (run {} earlier).find? id = some r) :
    (r.processed.isSome → (run {} (earlier ++ later)).find? id = some r) ∧
    (r.poisoned → .call (.requeue id) ∉ later → (run {} (earlier ++ later)).find? id = some r) ∧
    ((∀ op ∈ earlier, ∀ row ∈ op.inserted, ¬ row.IsDoublyTerminal) → ¬ r.IsDoublyTerminal) := by
  rw [run_append]
  refine ⟨fun processed => ?_, fun poisoned kept => ?_, fun sound => ?_⟩
  · exact find?_run_of_effect there fun op _ => Operation.effect_of_processed processed op
  · refine find?_run_of_effect there fun op hop => Operation.effect_of_poisoned poisoned ?_
    rintro rfl
    exact kept (id_of_find? there ▸ hop)
  · refine run_induction (t := {}) (P := fun row => ¬ row.IsDoublyTerminal)
      (fun op _ row => op.not_isDoublyTerminal_effect) sound (fun x row h => ?_) there
    cases h

/-- Two rows come in; one is processed and one poisoned. -/
def settling : List Operation :=
  [.call (.insert (.sample 1)), .call (.insert (.sample 2)),
    .call (.markProcessed (.ofNat 1) .epoch), .call (.markPoisoned (.ofNat 2) "bad")]

/-- Late outcomes and claims, and a requeue of the processed row. -/
def meddling : List Operation :=
  [.call (.requeue (.ofNat 1)), .call (.markPoisoned (.ofNat 1) "late"),
    .call (.claim [.ofNat 1, .ofNat 2] ⟨.last, 5⟩ "b/1" .last),
    .call (.recordFailure (.ofNat 2) ⟨0, none, "late", false⟩),
    .call (.markProcessed (.ofNat 2) .last)]

theorem terminal_rows_rest_settled :
    (run {} (settling ++ meddling)).find? (.ofNat 1) =
        some { Row.sample 1 with processed := some .epoch } ∧
      (run {} (settling ++ meddling)).find? (.ofNat 2) =
        some { Row.sample 2 with poisoned := true, lastError := some "bad" } ∧
      ¬ { Row.sample 2 with poisoned := true, lastError := some "bad" : Row }.IsDoublyTerminal := by
  have processed : (run {} settling).find? (.ofNat 1) =
      some { Row.sample 1 with processed := some .epoch } := by decide
  have poisoned : (run {} settling).find? (.ofNat 2) =
      some { Row.sample 2 with poisoned := true, lastError := some "bad" } := by decide
  have sound : ∀ op ∈ settling, ∀ row ∈ op.inserted, ¬ row.IsDoublyTerminal := by
    simp [settling, Operation.inserted, Row.IsDoublyTerminal, Row.sample]
  have kept : .call (.requeue (.ofNat 2)) ∉ meddling := by
    simp [meddling, show ¬ Uuid.ofNat 2 = Uuid.ofNat 1 by decide]
  have rest := terminal_rows_rest settling meddling
  exact ⟨(rest _ _ processed).1 rfl, (rest _ _ poisoned).2.1 rfl kept,
    (rest _ _ poisoned).2.2 sound⟩

end Table

end Relay
