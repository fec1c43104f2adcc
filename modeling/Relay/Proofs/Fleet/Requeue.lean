import Relay.Proofs.Fleet.Operations
import Relay.Proofs.Table.Attempts
import Relay.Proofs.Table.Lease

/-!
# Requeues and leases

A requeue ends the lease of a row that is alive just if an attempt at the row has failed
(`Table.lease_requeue`). A row that nobody has failed at stays with the worker that has it, whatever
is requeued: nobody else claims it or gets it to offer before the lease has run out
(`Fleet.untried_rows_stay_leased`). A row with a failed attempt can be taken from a worker that is
offering it to the broker, and be offered twice at once (`Fleet.tried_row_is_offered_twice`).
-/

namespace Relay

namespace Table

variable {t : Table} {id : Uuid} {r : Row} {op : Operation} {c : Claim} {u : Instant}

theorem grants_requeue (there : t.find? id = some r) :
    t.grants (.requeue id) ↔ t.broken = false ∧ isRenewable r := by
  rw [grants_iff]
  constructor
  · rintro ⟨works, -, s, there', e, renewable⟩
    obtain rfl := eq_of_find? there' there e
    exact ⟨works, renewable⟩
  · rintro ⟨works, renewable⟩
    refine ⟨works, ?_, r, (id_of_find? there).symm ▸ there, id_of_find? there, renewable⟩
    rintro ⟨x, a, e, -⟩
    cases e

theorem isRenewable_of_alive (alive : r.isTerminal = false) :
    isRenewable r ↔ r.attempts ≠ 0 := by
  simp only [Row.isTerminal, Bool.or_eq_false_iff, Option.isSome_eq_false_iff] at alive
  simp [isRenewable, alive.1, alive.2, UInt32.pos_iff_ne_zero]

/-- A requeue leaves the lease of a row that is alive just if there are no attempts to give back. -/
theorem lease_requeue (there : t.find? id = some r) (alive : r.isTerminal = false)
    (until_ : r.claimedUntil = some u) :
    (t.after (.call (.requeue id))).lease id = t.lease id ↔ t.broken ∨ r.attempts = 0 := by
  have granted := grants_requeue there
  rw [isRenewable_of_alive alive] at granted
  constructor
  · intro same
    by_contra h
    push Not at h
    have renewed := find?_renewed (granted.2 ⟨by simpa using h.1, h.2⟩) there
    simp [lease, renewed, there, Row.lease, Table.renewed, until_] at same
  · intro h
    have refused : t.grants (.requeue id) = false := by
      rw [Bool.eq_false_iff, Ne, granted]
      rintro ⟨works, tried⟩
      rcases h with broken | untried
      · rw [works] at broken
        cases broken
      · exact tried untried
    rw [lease, find?_refused refused (by simp) there, lease, there]

/-- Whether an operation lets a row be that is leased until some time: it does not give the row any
attempts back, and it does not claim the row at a later time. -/
def spares (t : Table) (id : Uuid) (u : Instant) : Operation → Bool
  | .call (.requeue x) => x ≠ id || (t.find? id).all fun r => !isRenewable r
  | .call (.claim ids due _ _) => id ∉ ids || due.now ≤ u
  | _ => true

theorem lease_after_of_spares (held : t.lease id = some (some c, some u))
    (spared : t.spares id u op) : (t.after op).lease id = t.lease id := by
  rcases lease_after held op with same | rfl | ⟨b, rfl, asked, late⟩
  · exact same
  · obtain ⟨r, there, -⟩ := lease_eq_some.1 held
    have refused : t.grants (.requeue id) = false := by
      rw [Bool.eq_false_iff, Ne, grants_requeue there]
      rintro ⟨-, renewable⟩
      simp [spares, there, renewable] at spared
    rw [lease, find?_refused refused (by simp) there, lease, there]
  · have inTime : b.due.now ≤ u := by simpa [Bid.call, spares, asked] using spared
    exact absurd inTime (Instant.not_le.2 late)

theorem lease_run_of_spares (held : t.lease id = some (some c, some u)) {ops : List Operation}
    (spared : ∀ p ∈ t.trail ops, p.1.spares id u p.2) :
    (t.run ops).lease id = some (some c, some u) := by
  induction ops generalizing t with
  | nil => exact held
  | cons op ops ih =>
    have first : t.spares id u op := spared (t, op) List.mem_cons_self
    exact ih ((lease_after_of_spares held first).trans held)
      fun p mem => spared p (List.mem_cons_of_mem _ mem)

end Table

namespace Fleet

variable {ι : Type} {workers : ι → Worker} [DecidableEq ι] {f : Fleet workers}
  {id : Uuid} {r : Row} {c : Claim} {u : Instant}

/-- While a row is spared, workers get copies of it under the claim of its lease only. -/
theorem flight_of_spares (held : f.table.lease id = some (some c, some u)) {turns : List (Turn ι)}
    (spared : ∀ p ∈ f.table.trail (f.operations turns), p.1.spares id u p.2) {j : ι} {row : Row}
    (copy : ((f.run turns).post j).flight = some row) (e : row.id = id) :
    row.claimedBy = some c ∨ (f.post j).flight = some row := by
  induction turns using List.reverseRecOn with
  | nil => exact Or.inr copy
  | append_singleton turns v ih =>
    rw [operations_append, Table.trail_append] at spared
    have before := fun p mem => spared p (List.mem_append_left _ mem)
    rw [run_append, run_cons, run_nil] at copy
    obtain ⟨-, copy | ⟨reply, b, x, -, -, -, found, -, -⟩⟩ := ((f.run turns).moves v).flight copy
    · exact ih before copy
    · have lasts := Table.lease_run_of_spares held before
      rw [← table_run] at lasts
      obtain ⟨s, there, own, -⟩ := Table.lease_eq_some.1 lasts
      obtain rfl := Table.eq_of_find? found there e
      exact Or.inl own

/-- **Untried rows stay leased.** A requeue leaves the lease of a row that is alive as it is just if
no attempt at the row has failed. And however turns of workers and of others are ordered, as long as
requeues find no attempts of the row to give back and nobody claims it at a time after its lease:
the lease stays as it is, no bid at such a time counts the row, and no worker gets a copy of it to
act on under another claim. -/
theorem untried_rows_stay_leased (f : Fleet workers) {id : Uuid} {r : Row} {u : Instant}
    (there : f.table.find? id = some r) (alive : r.isTerminal = false)
    (until_ : r.claimedUntil = some u) :
    ((f.turn (.outside (.call (.requeue id)))).table.lease id = f.table.lease id ↔
      f.table.broken ∨ r.attempts = 0) ∧
    ∀ c later, r.claimedBy = some c →
      (∀ p ∈ f.table.trail (f.operations later), p.1.spares id u p.2) →
      (f.run later).table.lease id = some (some c, some u) ∧
      (∀ b : Bid, b.due.now ≤ u → ¬ (f.run later).table.Counts b id) ∧
      ∀ j row, ((f.run later).post j).flight = some row → row.id = id →
        row.claimedBy = some c ∨ (f.post j).flight = some row := by
  refine ⟨Table.lease_requeue there alive until_, fun c later own spared => ?_⟩
  have held := Table.lease_eq_some.2 ⟨r, there, own, until_⟩
  have lasts := Table.lease_run_of_spares held spared
  rw [← table_run] at lasts
  refine ⟨lasts, fun b inTime counts => ?_, fun j row copy e => flight_of_spares held spared copy e⟩
  rw [Table.Counts, Table.taken_of_lease lasts inTime] at counts
  exact Nat.lt_irrefl _ counts

end Fleet

/-! ## Two couriers and an operator -/

namespace Fleet

open Office in
/-- The second courier has selected the row when the first one claims it; it is requeued, and the
second courier goes without. -/
theorem untried_rows_stay_leased_staff :
    let f := (staff Bool).run ((approach true 2).take 4 ++ pickup false 1)
    let later := .outside (.call (.requeue known.id)) :: (approach true 2).drop 4
    f.table.find? known.id = some copied ∧
      (f.run later).table.lease known.id = f.table.lease known.id := by
  intro f later
  have ⟨there, spared⟩ : f.table.find? known.id = some copied ∧
      ∀ p ∈ f.table.trail (f.operations later),
        p.1.spares known.id (Instant.epoch.after (.ofSeconds 300)) p.2 := by decide +kernel
  obtain ⟨-, stays⟩ := untried_rows_stay_leased f there rfl rfl
  refine ⟨there, (stays _ later rfl spared).1.trans ?_⟩
  rw [Table.lease, there]
  rfl

open Office in
/-- An attempt at the row has failed before. While the first courier offers the row to the broker it
is requeued, and the second courier claims it and offers it as well. -/
theorem tried_row_is_offered_twice :
    let failure : Attempt := ⟨0, some .epoch, "down", false⟩
    let f := (staff Bool).run (.outside (.call (.recordFailure known.id failure)) ::
      pickup false 1 ++ [.resume false reading])
    let g := f.turn (.outside (.call (.requeue known.id)))
    let h := g.run (pickup true 2 ++ [.resume true reading])
    f.table.lease known.id = some (some (Claim.ofInstance "courier" (.ofNat 1)),
        some (Instant.epoch.after (.ofSeconds 300))) ∧
      (f.table.find? known.id).map Row.isTerminal = some false ∧
      g.table.lease known.id = some (none, none) ∧
      h.clock ≤ Instant.epoch.after (.ofSeconds 300) ∧
      ∀ i, ((h.post i).offering).map Row.id = some known.id := by
  decide +kernel

end Fleet

end Relay
