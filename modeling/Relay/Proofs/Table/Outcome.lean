import Relay.Proofs.Table.Attempts
import Relay.Proofs.Table.Terminal

/-!
# Outcomes

An outcome of a row is recorded by one of three calls, whose guards differ: all three ask that the
row is alive, and only a failed attempt asks that the row is as it was when it was read. Until a row
is requeued its attempts never go down and a terminal row never changes (`Table.find?_run_of_kept`),
and an outcome that is recorded makes the row terminal or its attempts more (`Table.find?_outcome`).

So a copy that was read before somebody recorded an outcome is out of date (`Row.Outdates`), and an
outcome from it leaves the row as it is just if the row is terminal by then or the outcome is
another failed attempt (`Table.find?_late_outcome`).
-/

namespace Relay

namespace Call

/-- The call records an outcome of the row of an id. -/
def isOutcome (id : Uuid) : Call → Bool
  | .markProcessed x _ | .markPoisoned x _ | .recordFailure x _ => x = id
  | .insert _ | .hasDue _ | .selectDue _ _ | .claim _ _ _ _ | .fetchClaimed _ _ | .get _ | .stats _
  | .requeue _ => false

/-- The call records an outcome after which nothing is left to do. -/
def settles : Call → Bool
  | .markProcessed _ _ | .markPoisoned _ _ => true
  | .recordFailure _ a => a.exhausted
  | .insert _ | .hasDue _ | .selectDue _ _ | .claim _ _ _ _ | .fetchClaimed _ _ | .get _ | .stats _
  | .requeue _ => false

end Call

/-- The row has had an outcome since a copy of it was read. -/
def Row.Outdates (r row : Row) : Prop := r.isTerminal ∨ row.attempts < r.attempts

namespace Table

variable {t : Table} {id : Uuid} {r row : Row} {op : Operation} {c : Call}

/-! ## Rows that are not requeued -/

/-- Unless it is requeued, a row keeps its attempts or has more, and is the same if terminal. -/
theorem find?_after_of_kept (there : t.find? id = some r) (kept : op ≠ .call (.requeue id)) :
    ∃ r', (t.after op).find? id = some r' ∧ r.attempts ≤ r'.attempts ∧
      (r.isTerminal → r' = r) := by
  have rests : r.isTerminal → op.effect r = r := by
    intro terminal
    cases op with
    | commit w => rfl
    | call c =>
      refine Call.effect_of_isTerminal terminal c fun e => absurd ?_ kept
      rw [e, id_of_find? there]
  obtain ⟨r', there', same⟩ : ∃ r', (t.after op).find? id = some r' ∧
      (r.isTerminal → r' = r) := by
    rcases find?_after there op with h | h
    · exact ⟨r, h, fun _ => rfl⟩
    · exact ⟨_, h, rests⟩
  refine ⟨r', there', ?_, same⟩
  have count := attempts_after_of_there there op
  rw [if_neg fun renewed => kept (renews_eq_true.1 renewed).1] at count
  simp only [attempts, there', Option.map_some, Option.getD_some] at count
  rw [UInt32.le_iff_toNat_le, count]
  exact Nat.le_add_right _ _

theorem find?_run_of_kept (there : t.find? id = some r) {ops : List Operation}
    (kept : .call (.requeue id) ∉ ops) :
    ∃ r', (t.run ops).find? id = some r' ∧ r.attempts ≤ r'.attempts ∧
      (r.isTerminal → r' = r) := by
  induction ops generalizing t r with
  | nil => exact ⟨r, there, UInt32.le_refl _, fun _ => rfl⟩
  | cons op ops ih =>
    have first : op ≠ .call (.requeue id) := fun e => kept (e ▸ List.mem_cons_self)
    obtain ⟨r₁, there₁, le₁, rests₁⟩ := find?_after_of_kept there first
    obtain ⟨r₂, there₂, le₂, rests₂⟩ := ih there₁ fun mem => kept (List.mem_cons_of_mem _ mem)
    refine ⟨r₂, there₂, UInt32.le_trans le₁ le₂, fun terminal => ?_⟩
    obtain rfl := rests₁ terminal
    exact rests₂ terminal

/-! ## Outcomes -/

theorem accepts_outcome (outcome : c.isOutcome id) : c.Accepts r ↔ r.id = id ∧
    r.isTerminal = false ∧ ∀ a, c = .recordFailure id a → r.attempts = a.previous := by
  cases c with
  | markProcessed x now | markPoisoned x reason =>
    obtain rfl : x = id := by simpa [Call.isOutcome] using outcome
    simp [Call.Accepts]
  | recordFailure x a =>
    obtain rfl : x = id := by simpa [Call.isOutcome] using outcome
    simp [Call.Accepts]
  | insert | hasDue | selectDue | claim | fetchClaimed | get | stats | requeue => cases outcome

/-- The row after an outcome that is recorded. -/
theorem find?_outcome (granted : t.grants c) (outcome : c.isOutcome id)
    (there : t.find? id = some r) :
    ∃ r', (t.after (.call c)).find? id = some r' ∧ r'.Outdates r ∧
      (c.settles → r'.isTerminal) := by
  obtain ⟨s, there', accepts⟩ := accepts_of_granted granted
  obtain rfl := eq_of_find? there' there ((accepts_outcome outcome).1 accepts).1
  have changed := find?_granted granted there
  cases c with
  | markProcessed x now =>
    have terminal : ({ s with processed := some now } : Row).isTerminal := by
      simp [Row.isTerminal]
    exact ⟨_, changed.trans (congrArg some (if_pos accepts)), Or.inl terminal, fun _ => terminal⟩
  | markPoisoned x reason =>
    have terminal : ({ s with poisoned := true, lastError := some reason } : Row).isTerminal := by
      simp [Row.isTerminal]
    exact ⟨_, changed.trans (congrArg some (if_pos accepts)), Or.inl terminal, fun _ => terminal⟩
  | recordFailure x a =>
    obtain rfl : x = id := by simpa [Call.isOutcome] using outcome
    obtain ⟨recorded, -, count⟩ := find?_recorded granted there
    have more : s.attempts < (failed a s).attempts := by
      rw [UInt32.lt_iff_toNat_lt, count]
      exact Nat.lt_succ_self _
    exact ⟨_, recorded, Or.inr more, fun exhausted => Row.isTerminal_of_poisoned exhausted⟩
  | insert | hasDue | selectDue | claim | fetchClaimed | get | stats | requeue => cases outcome

/-- An outcome that is recorded changes the row. -/
theorem find?_outcome_iff (outcome : c.isOutcome id) (there : t.find? id = some r) :
    (t.after (.call c)).find? id = some r ↔ t.grants c = false := by
  constructor
  · intro same
    rw [Bool.eq_false_iff]
    intro granted
    obtain ⟨s, there', accepts⟩ := accepts_of_granted granted
    obtain ⟨e, alive, -⟩ := (accepts_outcome outcome).1 accepts
    obtain rfl := eq_of_find? there' there e
    obtain ⟨r', changed, terminal | more, -⟩ := find?_outcome granted outcome there
    · obtain rfl := Option.some.inj (same.symm.trans changed)
      rw [alive] at terminal
      cases terminal
    · obtain rfl := Option.some.inj (same.symm.trans changed)
      exact UInt32.lt_irrefl _ more
  · intro refused
    refine find?_refused refused ?_ there
    rintro ids due claim expiry rfl
    cases outcome

/-- **A late outcome**, from a copy that is out of date, leaves the row as it is just if the table
is poisoned, the row is terminal or the outcome is a failed attempt. -/
theorem find?_late_outcome (there : t.find? row.id = some r) (late : r.Outdates row)
    (outcome : c.isOutcome row.id) (copied : ∀ a, c = .recordFailure row.id a →
      a.previous = row.attempts) :
    (t.after (.call c)).find? row.id = some r ↔
      t.broken ∨ r.isTerminal ∨ ∃ a, c = .recordFailure row.id a := by
  rw [find?_outcome_iff outcome there]
  constructor
  · intro refused
    by_contra h
    push Not at h
    obtain ⟨works, alive, other⟩ := h
    have accepts : c.Accepts r := (accepts_outcome outcome).2
      ⟨id_of_find? there, by simpa using alive, fun a e => absurd e (other a)⟩
    have counts : ¬ t.BreaksOff c := by
      rintro ⟨x, a, rfl, -⟩
      obtain rfl : x = row.id := by simpa [Call.isOutcome] using outcome
      exact other a rfl
    have granted : t.grants c :=
      grants_iff.2 ⟨by simpa using works, counts, r, (id_of_find? there).symm ▸ there, accepts⟩
    rw [refused] at granted
    cases granted
  · intro h
    rw [Bool.eq_false_iff]
    intro granted
    obtain ⟨works, -, s, there', accepts⟩ := grants_iff.1 granted
    obtain ⟨e, alive, same⟩ := (accepts_outcome outcome).1 accepts
    obtain rfl := eq_of_find? there' there e
    rcases h with broken | terminal | ⟨a, failure⟩
    · rw [works] at broken
      cases broken
    · rw [alive] at terminal
      cases terminal
    · -- the attempts of the copy are those of the row no more
      rcases late with terminal | more
      · rw [alive] at terminal
        cases terminal
      · rw [same a failure, copied a failure] at more
        exact UInt32.lt_irrefl _ more

end Table

end Relay
