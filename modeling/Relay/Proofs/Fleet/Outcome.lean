import Relay.Proofs.Fleet.Attempts
import Relay.Proofs.Table.Lease
import Relay.Proofs.Table.Outcome

/-!
# Outcomes of slow workers

A worker that was slow may record an outcome from a copy of a row that somebody else has recorded an
outcome of since. What it records changes nothing if the other outcome settled the row, and a failed
attempt never does; but a row that is still alive is processed or poisoned over the other outcome
(`Fleet.late_outcomes`).
-/

namespace Relay

namespace Fleet

variable {ι : Type} {workers : ι → Worker}

/-- Whether a turn requeues the row of an id. -/
def Turn.requeues (id : Uuid) : Turn ι → Bool
  | .outside (.call (.requeue x)) => x = id
  | _ => false

variable {f : Fleet workers} {id : Uuid} {row : Row} {c : Call}

/-- A worker that acts on a copy records an outcome from it. -/
theorem Drafts.outcome (h : f.Drafts) {i : ι} (copy : (f.post i).flight = some row)
    {reply : Except Refusal Unit} (does : f.Does (.serve i reply) (.call c)) :
    c.isOutcome row.id ∧ ∀ a, c = .recordFailure row.id a → a.previous = row.attempts := by
  cases does with
  | calls i reply phase c asking hc =>
    rw [asking] at copy
    cases phase with
    | completing b row' span now =>
      cases copy
      cases hc
      exact ⟨decide_eq_true rfl, fun a e => by cases e⟩
    | poisoning b row' span reason detail =>
      cases copy
      cases hc
      exact ⟨decide_eq_true rfl, fun a e => by cases e⟩
    | failing b row' span attempt retryAt reason =>
      cases copy
      cases hc
      refine ⟨decide_eq_true rfl, fun a e => ?_⟩
      cases e
      exact (h i b _ span attempt retryAt reason asking).previous
    | publishing => cases hc
    | checking | selecting | claiming | fetching | reading => cases copy

variable [DecidableEq ι]

/-- Workers requeue nothing. -/
theorem requeue_not_mem_operations {turns : List (Turn ι)}
    (kept : ∀ u ∈ turns, u.requeues id = false) (f : Fleet workers) :
    .call (.requeue id) ∉ f.operations turns := by
  intro mem
  refine forall_operations (f := f) (P := fun _ u _ => u.requeues id = false) (I := fun _ => True)
    (Q := fun op => op ≠ .call (.requeue id)) (fun _ _ _ _ _ _ => trivial) ?_ trivial
    (along_of_forall kept f) _ mem rfl
  rintro f u g op - kept does rfl
  cases does with
  | outside => simp [Turn.requeues] at kept
  | calls i reply phase c asking hc => cases phase <;> cases hc

/-- **Late outcomes.** Somebody has recorded an outcome of a row since it was as in a copy that a
worker still acts on, and nobody has requeued it. Whatever the order of the turns: if that outcome
settled the row, what the worker records leaves the row as it is; otherwise it does so just if the
table is poisoned, the row has become terminal or the worker records a failed attempt. -/
theorem late_outcomes (fresh : f.Fresh) (before meanwhile later : List (Turn ι)) {u : Turn ι}
    (there : (f.run before).table.find? row.id = some row)
    (does : (f.run (before ++ meanwhile)).Does u (.call c)) (outcome : c.isOutcome row.id)
    (granted : (f.run (before ++ meanwhile)).table.grants c)
    (kept : ∀ v ∈ meanwhile ++ later, v.requeues row.id = false) :
    let g := f.run (before ++ meanwhile ++ u :: later)
    ∀ i reply c', (g.post i).flight = some row → g.Does (.serve i reply) (.call c') →
      ∃ r, g.table.find? row.id = some r ∧
        (c.settles → (g.turn (.serve i reply)).table.find? row.id = some r) ∧
        ((g.turn (.serve i reply)).table.find? row.id = some r ↔
          g.table.broken ∨ r.isTerminal ∨ ∃ a, c' = .recordFailure row.id a) := by
  intro g i reply c' copy does'
  have first := requeue_not_mem_operations (fun v mem => kept v (List.mem_append_left _ mem))
    (f.run before)
  have last := requeue_not_mem_operations (fun v mem => kept v (List.mem_append_right _ mem))
    ((f.run (before ++ meanwhile)).turn u)
  -- the row when the other outcome comes, right after it, and now
  obtain ⟨r₁, there₁, le₁, -⟩ := Table.find?_run_of_kept there first
  rw [← table_run, ← run_append] at there₁
  obtain ⟨r₂, there₂, outdates, settled⟩ := Table.find?_outcome granted outcome there₁
  obtain ⟨r, now, le, rests⟩ := Table.find?_run_of_kept there₂ last
  have table : g.table = ((f.run (before ++ meanwhile)).table.after (.call c)).run
      (((f.run (before ++ meanwhile)).turn u).operations later) := by
    rw [show g = _ from run_append .., run_cons, table_run, table_turn, operation_eq_some.2 does]
    rfl
  rw [← table] at now
  have late : r.Outdates row := by
    rcases outdates with terminal | more
    · exact Or.inl (rests terminal ▸ terminal)
    · exact Or.inr (UInt32.lt_of_lt_of_le (UInt32.lt_of_le_of_lt le₁ more) le)
  have after : (g.turn (.serve i reply)).table = g.table.after (.call c') := by
    rw [table_turn, operation_eq_some.2 does']
    rfl
  obtain ⟨outcome', copied⟩ := (fresh.drafts_run (before ++ meanwhile ++ u :: later)).outcome copy
    does'
  have unchanged := Table.find?_late_outcome now late outcome' copied
  rw [after]
  refine ⟨r, now, fun settles => unchanged.2 (Or.inr (Or.inl ?_)), unchanged⟩
  have terminal := settled settles
  exact rests terminal ▸ terminal

end Fleet

/-! ## Two couriers -/

namespace Office

/-- The first courier's lease runs out, and the second one takes the row. -/
def takeover : List (Fleet.Turn Bool) := .tick late :: pickup true 2

end Office

namespace Fleet

open Office in
/-- The second courier has processed the row, and the first one changes nothing. -/
theorem late_outcomes_staff :
    let g := (staff Bool).run (pickup false 1 ++ (takeover ++ (success true).take 3) ++
      .serve true (.ok ()) :: (success false).take 3)
    g.Does (.serve false (.ok ())) (.call (.markProcessed known.id late)) ∧
      ∃ r, g.table.find? known.id = some r ∧
        (g.turn (.serve false (.ok ()))).table.find? known.id = some r := by
  intro g
  have ⟨read, settles, granted, copy, slow⟩ :
      ((staff Bool).run (pickup false 1)).table.find? copied.id = some copied ∧
      ((staff Bool).run (pickup false 1 ++ (takeover ++ (success true).take 3))).operation
        (.serve true (.ok ())) = some (.call (.markProcessed known.id late)) ∧
      ((staff Bool).run (pickup false 1 ++ (takeover ++ (success true).take 3))).table.grants
        (.markProcessed known.id late) ∧
      (g.post false).flight = some copied ∧
      g.operation (.serve false (.ok ())) = some (.call (.markProcessed known.id late)) := by
    decide +kernel
  have does := operation_eq_some.1 slow
  obtain ⟨r, there, settled, -⟩ := late_outcomes fresh_staff (pickup false 1)
    (takeover ++ (success true).take 3) ((success false).take 3) read
    (operation_eq_some.1 settles) (by decide) granted (by decide) false (.ok ()) _ copy does
  exact ⟨does, r, there, settled rfl⟩

open Office in
/-- The first courier's lease has run out, the second one has claimed the row and recorded a failed
attempt, and then the first one marks the row processed. -/
theorem success_overwrites_setback :
    let f := (staff Bool).run (pickup false 1 ++ takeover ++ (setback true).take 3)
    let g := f.run (.serve true (.ok ()) :: (success false).take 3)
    f.clock = late ∧ Instant.epoch.after (.ofSeconds 300) < late ∧
      f.table.lease known.id =
        some (some (Claim.ofInstance "courier" (.ofNat 2)), some (late.after (.ofSeconds 300))) ∧
      (f.operation (.serve true (.ok ()))).any (f.table.records known.id) ∧
      g.Does (.serve false (.ok ())) (.call (.markProcessed known.id late)) ∧
      (g.turn (.serve false (.ok ()))).table.find? known.id ≠ g.table.find? known.id := by
  intro f g
  have ⟨clock, expired, lease, recorded, does, before, after⟩ : f.clock = late ∧
      Instant.epoch.after (.ofSeconds 300) < late ∧
      f.table.lease known.id =
        some (some (Claim.ofInstance "courier" (.ofNat 2)), some (late.after (.ofSeconds 300))) ∧
      (f.operation (.serve true (.ok ()))).any (f.table.records known.id) ∧
      g.operation (.serve false (.ok ())) = some (.call (.markProcessed known.id late)) ∧
      (g.table.find? known.id).map (·.processed) = some none ∧
      ((g.turn (.serve false (.ok ()))).table.find? known.id).map (·.processed) =
        some (some late) := by decide +kernel
  refine ⟨clock, expired, lease, recorded, operation_eq_some.1 does, fun same => ?_⟩
  rw [same, before] at after
  cases after

end Fleet

end Relay
