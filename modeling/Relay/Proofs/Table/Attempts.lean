import Mathlib.Data.List.Induction
import Relay.Proofs.Table.Granted

/-!
# Counting failed attempts

The attempts of a row are the failed ones recorded since the row came in or was last requeued
(`Table.attempts_run`). The count on the other side is read off the history of the table:
`Table.trail` lists every operation with the table it met, and `Table.failures` counts what was
recorded after the last requeue that was granted.

A row keeps within a limit when its attempts do not exceed it and the row is poisoned once they
reach it (`Row.Within`). So it is with every row as long as what is recorded fits the limit
(`Table.within_run`), and of such a row the retry delay and the lease are all that can keep it from
being due (`Row.Within.isDue_iff`).
-/

namespace Relay

namespace Table

/-- Whether an operation records a failed attempt of the row of an id. -/
def records (t : Table) (id : Uuid) : Operation → Bool
  | .call (.recordFailure x a) => x = id && t.grants (.recordFailure x a)
  | _ => false

/-- Whether an operation gives the row of an id its attempts back. -/
def renews (t : Table) (id : Uuid) : Operation → Bool
  | .call (.requeue x) => x = id && t.grants (.requeue x)
  | _ => false

/-- Every operation with the table that it met, in order. -/
def trail : Table → List Operation → List (Table × Operation)
  | _, [] => []
  | t, op :: ops => (t, op) :: trail (t.after op) ops

/-- The failed attempts of the row of an id that were recorded since it was last requeued. None can
be recorded before it comes in. -/
def failures (t : Table) (id : Uuid) (ops : List Operation) : Nat :=
  ((t.trail ops).reverse.takeWhile fun (t, op) => !t.renews id op).countP
    fun (t, op) => t.records id op

/-- The attempts of the row of an id, none if there is no row. -/
def attempts (t : Table) (id : Uuid) : Nat := ((t.find? id).map (·.attempts.toNat)).getD 0

variable {t : Table} {id x : Uuid} {r : Row} {op : Operation}

/-! ## The history -/

theorem trail_append (t : Table) (ops ops' : List Operation) :
    t.trail (ops ++ ops') = t.trail ops ++ (t.run ops).trail ops' := by
  induction ops generalizing t with
  | nil => rfl
  | cons op ops ih => simp [trail, ih]

theorem failures_concat (t : Table) (id : Uuid) (ops : List Operation) (op : Operation) :
    t.failures id (ops ++ [op]) =
      if (t.run ops).renews id op then 0
      else t.failures id ops + if (t.run ops).records id op then 1 else 0 := by
  simp only [failures, trail_append, trail, List.reverse_append, List.reverse_singleton,
    List.singleton_append, List.takeWhile_cons]
  cases (t.run ops).renews id op <;> simp [List.countP_cons]

/-! ## One operation -/

/-- Only a recorded failure and a requeue touch the attempts of a row. -/
theorem attempts_effect (hf : ∀ x a, op ≠ .call (.recordFailure x a))
    (hq : ∀ x, op ≠ .call (.requeue x)) (r : Row) : (op.effect r).attempts = r.attempts := by
  cases op with
  | commit w => rfl
  | call c =>
    cases c with
    | recordFailure x a => exact absurd rfl (hf x a)
    | requeue x => exact absurd rfl (hq x)
    | claim | markProcessed | markPoisoned =>
      simp only [Operation.effect, Call.effect]
      split <;> rfl
    | insert | hasDue | selectDue | fetchClaimed | get | stats => rfl

/-- A recorded failure is a failed attempt of the stored row, and counts one more. -/
theorem find?_recorded {a : Attempt} (granted : t.grants (.recordFailure id a))
    (there : t.find? id = some r) :
    (t.after (.call (.recordFailure id a))).find? id = some (failed a r) ∧
      r.attempts = a.previous ∧ (failed a r).attempts.toNat = r.attempts.toNat + 1 := by
  obtain ⟨-, counts, r', there', guard⟩ := grants_iff.1 granted
  obtain rfl := eq_of_find? there' there guard.1
  have alive := guard.2.1
  have same := guard.2.2
  have fits : r'.attempts.toNat + 1 < 2 ^ 32 := by
    have bound := r'.attempts.toNat_lt
    by_contra beyond
    refine counts ⟨id, a, rfl, ?_⟩
    have last : a.previous.toNat + 1 = 1 <<< 32 := by
      rw [← same, Nat.one_shiftLeft]
      omega
    simp [overflows, there, alive, same, last]
  refine ⟨(find?_granted granted there).trans (congrArg some (if_pos guard)), same, ?_⟩
  simp only [failed, ← same, UInt32.toNat_add, UInt32.toNat_one]
  exact Nat.mod_eq_of_lt fits

/-- A requeue that is granted renews the stored row. -/
theorem find?_renewed (granted : t.grants (.requeue id)) (there : t.find? id = some r) :
    (t.after (.call (.requeue id))).find? id = some (renewed r) := by
  obtain ⟨r', there', guard⟩ := accepts_of_granted granted
  obtain rfl := eq_of_find? there' there guard.1
  exact (find?_granted granted there).trans (congrArg some (if_pos guard))

theorem records_eq_true : t.records id op ↔ ∃ a, op = .call (.recordFailure id a) ∧
    t.grants (.recordFailure id a) := by
  unfold records
  split
  · rename_i x a
    constructor
    · intro h
      simp only [Bool.and_eq_true, decide_eq_true_eq] at h
      obtain ⟨rfl, granted⟩ := h
      exact ⟨a, rfl, granted⟩
    · rintro ⟨a', e, granted⟩
      cases e
      simp [granted]
  · rename_i other
    refine ⟨nofun, ?_⟩
    rintro ⟨a, rfl, -⟩
    exact absurd rfl (other id a)

theorem renews_eq_true : t.renews id op ↔ op = .call (.requeue id) ∧ t.grants (.requeue id) := by
  unfold renews
  split
  · rename_i x
    constructor
    · intro h
      simp only [Bool.and_eq_true, decide_eq_true_eq] at h
      obtain ⟨rfl, granted⟩ := h
      exact ⟨rfl, granted⟩
    · rintro ⟨e, granted⟩
      cases e
      simp [granted]
  · rename_i other
    refine ⟨nofun, ?_⟩
    rintro ⟨rfl, -⟩
    exact absurd rfl (other id)

/-- Nothing is recorded of a row that is not there. -/
theorem not_records_of_none (absent : t.find? id = none) (op : Operation) : ¬ t.records id op := by
  rw [records_eq_true]
  rintro ⟨a, -, granted⟩
  obtain ⟨r, there, e, -⟩ := accepts_of_granted granted
  rw [e, absent] at there
  cases there

/-- What is neither recorded of a row nor renews it leaves its attempts alone. -/
theorem attempts_of_not_counted (there : t.find? id = some r) (recorded : ¬ t.records id op)
    (renewed : ¬ t.renews id op) : (t.after op).attempts id = r.attempts.toNat := by
  have name := id_of_find? there
  have same : ∀ {r'}, (t.after op).find? id = some r' → r'.attempts = r.attempts →
      (t.after op).attempts id = r.attempts.toNat := fun h e => by simp [attempts, h, e]
  by_cases hf : ∃ x a, op = .call (.recordFailure x a)
  · obtain ⟨x, a, rfl⟩ := hf
    refine same (find?_of_not_granted ?_ (by simp) there) rfl
    rintro ⟨granted, rfl, -⟩
    exact recorded (records_eq_true.2 ⟨a, by rw [name], by rwa [name] at granted⟩)
  · by_cases hq : ∃ x, op = .call (.requeue x)
    · obtain ⟨x, rfl⟩ := hq
      refine same (find?_of_not_granted ?_ (by simp) there) rfl
      rintro ⟨granted, rfl, -⟩
      exact renewed (renews_eq_true.2 ⟨by rw [name], by rwa [name] at granted⟩)
    · have untouched : (op.effect r).attempts = r.attempts :=
        attempts_effect (fun x a e => hf ⟨x, a, e⟩) (fun x e => hq ⟨x, e⟩) r
      rcases find?_after there op with h | h
      · exact same h rfl
      · exact same h untouched

/-- One operation on the attempts of a row that is there. -/
theorem attempts_after_of_there (there : t.find? id = some r) (op : Operation) :
    (t.after op).attempts id =
      if t.renews id op then 0 else r.attempts.toNat + if t.records id op then 1 else 0 := by
  by_cases isRenewed : t.renews id op
  · obtain ⟨rfl, granted⟩ := renews_eq_true.1 isRenewed
    rw [if_pos isRenewed]
    simp [attempts, find?_renewed granted there, renewed]
  · rw [if_neg isRenewed]
    by_cases recorded : t.records id op
    · obtain ⟨a, rfl, granted⟩ := records_eq_true.1 recorded
      obtain ⟨h, -, count⟩ := find?_recorded granted there
      rw [if_pos recorded, ← count]
      simp [attempts, h]
    · rw [if_neg recorded, attempts_of_not_counted there recorded isRenewed, Nat.add_zero]

/-- **One operation** on the attempts of a row. -/
theorem attempts_after (op : Operation) (new : ∀ row ∈ op.inserted, row.attempts = 0)
    (t : Table) (id : Uuid) :
    (t.after op).attempts id =
      if t.renews id op then 0 else t.attempts id + if t.records id op then 1 else 0 := by
  cases found : t.find? id with
  | none =>
    have zero : (t.after op).attempts id = 0 := by
      rcases find?_after_none found op with none_still | ⟨row, mem, -, h⟩
      · simp [attempts, none_still]
      · simp [attempts, h, new row mem]
    rw [zero, if_neg (not_records_of_none found op)]
    simp [attempts, found]
  | some r =>
    rw [attempts_after_of_there found op]
    simp [attempts, found]

/-- **Attempts are recorded failures**, counted from the last requeue. -/
theorem attempts_run (t : Table) (id : Uuid) (start : t.attempts id = 0) {ops : List Operation}
    (new : ∀ op ∈ ops, ∀ row ∈ op.inserted, row.attempts = 0) :
    (t.run ops).attempts id = t.failures id ops := by
  induction ops using List.reverseRecOn with
  | nil => exact start
  | append_singleton ops op ih =>
    have before := ih fun op' mem => new op' (List.mem_append_left _ mem)
    rw [run_concat, attempts_after op (new op (by simp)), failures_concat, before]

end Table

/-! ## Limits -/

/-- An attempt is taken for the last one exactly when it uses up the limit. -/
def Attempt.Fits (limit : UInt32) (a : Attempt) : Prop :=
  a.exhausted = decide (limit.toNat ≤ a.previous.toNat + 1)

/-- Rows come in without attempts, and what is recorded of them fits the limit. -/
def Operation.Tallies (limit : UInt32) (op : Operation) : Prop :=
  (∀ row ∈ op.inserted, row.attempts = 0) ∧
    ∀ id a, op = .call (.recordFailure id a) → a.Fits limit

/-- A row is due when it is alive, its retry delay and its lease are over, and it has attempts
left. -/
theorem Row.isDue_iff {r : Row} {due : Due} : r.isDue due ↔ r.isTerminal = false ∧
    (∀ b, r.notBefore = some b → b ≤ due.now) ∧ (∀ u, r.claimedUntil = some u → u < due.now) ∧
      r.attempts < due.maxAttempts := by
  unfold isDue isReady isLeased
  cases r.claimedUntil <;> cases r.notBefore <;> simp [← Instant.not_le, and_assoc]

/-- A row that never had more attempts than a limit, and is poisoned once it had as many. -/
structure Row.Within (limit : UInt32) (r : Row) : Prop where
  le : r.attempts ≤ limit
  spent : r.attempts = limit → r.poisoned

namespace Row.Within

variable {limit : UInt32} {r : Row}

theorem of_attempts_eq_zero (pos : 0 < limit) (h : r.attempts = 0) : r.Within limit where
  le := by
    rw [h]
    exact UInt32.zero_le
  spent e := by
    rw [h] at e
    rw [← e] at pos
    cases pos

/-- A row that is alive has attempts left. -/
theorem lt (h : r.Within limit) (alive : r.isTerminal = false) : r.attempts < limit := by
  refine UInt32.lt_of_le_of_ne h.le fun e => ?_
  rw [Row.isTerminal, h.spent e, Bool.or_true] at alive
  cases alive

/-- The row after a failed attempt. -/
theorem failed (h : r.Within limit) (alive : r.isTerminal = false) {a : Attempt}
    (same : r.attempts = a.previous) (fits : a.Fits limit) : (Table.failed a r).Within limit := by
  have left := UInt32.lt_iff_toNat_lt.1 (h.lt alive)
  have bound := limit.toNat_lt
  have count : (Table.failed a r).attempts.toNat = r.attempts.toNat + 1 := by
    simp only [Table.failed, ← same, UInt32.toNat_add, UInt32.toNat_one]
    exact Nat.mod_eq_of_lt (by omega)
  refine ⟨UInt32.le_iff_toNat_le.2 (by omega), fun e => ?_⟩
  have used : limit.toNat ≤ a.previous.toNat + 1 := Nat.le_of_eq (by rw [← e, count, same])
  show a.exhausted = true
  rw [fits, decide_eq_true used]

/-- Every operation keeps a row within the limit, if what it records fits. -/
theorem effect (h : r.Within limit) (pos : 0 < limit) {op : Operation}
    (tallies : op.Tallies limit) : (op.effect r).Within limit := by
  cases op with
  | commit w => exact h
  | call c =>
    cases c with
    | recordFailure id a =>
      simp only [Operation.effect, Call.effect]
      split
      · rename_i guard
        exact h.failed guard.2.1 guard.2.2 (tallies.2 id a rfl)
      · exact h
    | requeue id =>
      simp only [Operation.effect, Call.effect]
      split
      · exact of_attempts_eq_zero pos rfl
      · exact h
    | markPoisoned id reason =>
      simp only [Operation.effect, Call.effect]
      split
      · exact ⟨h.le, fun _ => rfl⟩
      · exact h
    | claim ids due c expiry =>
      simp only [Operation.effect, Call.effect]
      split
      · exact ⟨h.le, h.spent⟩
      · exact h
    | markProcessed id now =>
      simp only [Operation.effect, Call.effect]
      split
      · exact ⟨h.le, h.spent⟩
      · exact h
    | insert | hasDue | selectDue | fetchClaimed | get | stats => exact h

/-- A row that is alive is due as soon as its lease and its retry delay are over. -/
theorem isDue_iff (h : r.Within limit) (alive : r.isTerminal = false) (now : Instant) :
    r.isDue ⟨now, limit⟩ ↔ (∀ u, r.claimedUntil = some u → u < now) ∧
      ∀ b, r.notBefore = some b → b ≤ now := by
  have left := h.lt alive
  simp [Row.isDue_iff, alive, left, and_comm]

/-- A row that is alive is not stalled. -/
theorem status_ne_stalled (h : r.Within limit) (alive : r.isTerminal = false) (now : Instant) :
    r.status ⟨now, limit⟩ ≠ .stalled := by
  have left : ¬ limit ≤ r.attempts := by
    rw [UInt32.not_le]
    exact h.lt alive
  simp only [Row.isTerminal, Bool.or_eq_false_iff] at alive
  simp only [Row.status, alive.1, alive.2, left, Bool.false_eq_true, if_false]
  split
  · exact nofun
  · split <;> exact nofun

end Row.Within

/-- Rows keep within the limit as long as everything that is done to the table tallies. -/
theorem Table.within_run {limit : UInt32} (pos : 0 < limit) {t : Table} {ops : List Operation}
    (start : ∀ id r, t.find? id = some r → r.attempts = 0) (tallies : ∀ op ∈ ops, op.Tallies limit)
    {id : Uuid} {r : Row} (there : (t.run ops).find? id = some r) : r.Within limit :=
  run_induction (fun op mem _ within => within.effect pos (tallies op mem))
    (fun op mem row new => .of_attempts_eq_zero pos ((tallies op mem).1 row new))
    (fun x s found => .of_attempts_eq_zero pos (start x s found)) there

end Relay
