import Mathlib.Algebra.Order.Floor.Div
import Relay.Proofs.Iteration.Specification
import Relay.Proofs.Time.Instant

/-!
# Iterations until nothing is due

`Worker.Drains` is one iteration after the other, until one finds nothing. While the clock stands
still and the broker takes everything, every iteration relays the first of the rows that are due
(`Surroundings.Steady.ending_table`), and those that are due next are the others
(`Table.Keyed.dueFirst_settled`). So the table is drained in as many iterations as there are batches
(`Worker.drains_all`), and neither the messages nor the rows depend on the size of a batch, but for
the claims that are left on the rows (`Worker.drained_alike`).

For this a claim must not have run out when it is made, which holds for every clock up to the last
instant (`Instant.le_after`). In the leap second behind it a claim runs out before it is made, and
then the table is never drained (`Worker.not_drains_of_late`).
-/

namespace Relay

/-! ## One iteration after the other -/

/-- The messages that the broker took, in order. -/
def Ending.accepted (e : Ending) : List Message :=
  (e.offers.filter Offer.isAccepted).map Offer.message

namespace Worker

/-- One iteration after the other, until one finds nothing: how the others ended, and the table that
is left. -/
inductive Drains (w : Worker) : (ℕ → Surroundings) → Table → List Ending → Table → Prop where
  | idle {c t e} (ends : w.Ends (c 0) t e) (idle : e.outcome = .idle) : Drains w c t [] e.table
  | dispatched {c t e report es t'} (ends : w.Ends (c 0) t e)
      (dispatched : e.outcome = .dispatched report)
      (rest : Drains w (fun k => c (k + 1)) e.table es t') : Drains w c t (e :: es) t'

/-- **A table is drained in one way only.** -/
theorem Drains.unique {w : Worker} {c : ℕ → Surroundings} {t t' t'' : Table} {es es' : List Ending}
    (h : w.Drains c t es t') (h' : w.Drains c t es' t'') : es = es' ∧ t' = t'' := by
  induction h generalizing es' t'' with
  | idle ends idle =>
    cases h' with
    | idle ends' idle' => exact ⟨rfl, congrArg Ending.table (ends.unique ends')⟩
    | dispatched ends' dispatched' =>
      rw [← ends.unique ends', idle] at dispatched'
      cases dispatched'
  | dispatched ends dispatched rest ih =>
    cases h' with
    | idle ends' idle' =>
      rw [← ends.unique ends', dispatched] at idle'
      cases idle'
    | dispatched ends' dispatched' rest' =>
      obtain rfl := ends.unique ends'
      obtain ⟨rfl, rfl⟩ := ih rest'
      exact ⟨rfl, rfl⟩

/-- A row that is claimed and relayed to a broker that takes everything: it is processed, or
poisoned if the registry refuses it. -/
def relayed (w : Worker) (now : Instant) (claim : Claim) (r : Row) : Row :=
  let held := r.heldBy claim (now.after w.tuning.claimDuration)
  match w.refusal r with
  | none => { held with processed := some now }
  | some (_, detail) => { held with poisoned := true, lastError := some detail }

/-- The message of a row that is published under these spans. -/
def messageOf (w : Worker) (spans : Uuid → TraceContext.Draw) (r : Row) : Message :=
  r.message (w.sink.start r (spans r.id))

variable (w : Worker) (now : Instant) (claim : Claim) (r : Row)

@[simp] theorem id_relayed : (w.relayed now claim r).id = r.id := by
  unfold relayed
  split <;> rfl

@[simp] theorem claimedBy_relayed : (w.relayed now claim r).claimedBy = some claim := by
  unfold relayed
  split <;> rfl

/-- A row that is relayed is not due. -/
theorem isDue_relayed (due : Due) : (w.relayed now claim r).isDue due = false := by
  unfold relayed Row.isDue Row.isTerminal
  split <;> simp

end Worker

/-! ## What is due next -/

namespace Table

variable {t : Table} {xs ys : List Row} {f g : Row → Row}

/-- Some rows are changed in one way and then others in another. -/
theorem settled_append (hf : ∀ r, (f r).id = r.id) (t : Table)
    (distinct : ((xs ++ ys).map Row.id).Nodup) :
    (t.settled xs f).settled ys g =
      t.settled (xs ++ ys) fun r => if r.id ∈ xs.map Row.id then f r else g r := by
  rw [List.map_append, List.nodup_append] at distinct
  obtain ⟨-, -, apart⟩ := distinct
  simp only [settled, List.map_map, List.mem_append]
  congr 1
  refine List.map_congr_left fun r _ => ?_
  simp only [Function.comp_apply]
  by_cases first : r ∈ xs
  · have gone : f r ∉ ys := fun h =>
      apart _ (List.mem_map_of_mem first) _ (List.mem_map_of_mem h) (hf r).symm
    have named : r.id ∈ xs.map Row.id := List.mem_map_of_mem first
    simp only [first, gone, named, if_true, if_false, true_or]
  · by_cases second : r ∈ ys
    · have unnamed : r.id ∉ xs.map Row.id := fun h =>
        apart _ h _ (List.mem_map_of_mem second) rfl
      simp only [first, second, unnamed, if_true, if_false, or_true]
    · simp only [first, second, if_false, or_self]

/-- **What is due once the first of the due rows are done** are the others, in their order. -/
theorem Keyed.dueFirst_settled (keyed : t.Keyed) (due : Due) (n : ℕ)
    (done : ∀ r, (f r).isDue due = false) :
    (t.settled ((t.dueFirst due).take n) f).dueFirst due = (t.dueFirst due).drop n := by
  have distinct : (t.dueFirst due).Nodup := List.Nodup.of_map Row.id keyed.nodup_dueFirst
  have left : ((t.settled ((t.dueFirst due).take n) f).rows.filter (·.isDue due)) =
      t.rows.filter fun r => r.isDue due && r ∉ (t.dueFirst due).take n := by
    rw [Table.settled, List.filter_map]
    have same : (t.rows.filter ((·.isDue due) ∘ fun r =>
        if r ∈ (t.dueFirst due).take n then f r else r)) =
        t.rows.filter fun r => r.isDue due && r ∉ (t.dueFirst due).take n := by
      refine List.filter_congr fun r _ => ?_
      by_cases mem : r ∈ (t.dueFirst due).take n <;> simp [mem, done]
    rw [same]
    refine (List.map_congr_left fun r mem => ?_).trans (List.map_id _)
    have out : r ∉ (t.dueFirst due).take n := by
      simpa using (Bool.and_eq_true_iff.mp (List.mem_filter.mp mem).2).2
    exact if_neg out
  have perm : (t.rows.filter fun r => r.isDue due && r ∉ (t.dueFirst due).take n).Perm
      ((t.dueFirst due).drop n) := by
    refine (List.perm_ext_iff_of_nodup ((List.Nodup.of_map Row.id keyed).filter _)
      (distinct.sublist (List.drop_sublist _ _))).mpr fun r => ?_
    have parts : r ∈ t.dueFirst due ↔
        r ∈ (t.dueFirst due).take n ∨ r ∈ (t.dueFirst due).drop n := by
      rw [← List.mem_append, List.take_append_drop]
    have apart : r ∈ (t.dueFirst due).take n → r ∉ (t.dueFirst due).drop n :=
      fun h h' => List.disjoint_take_drop distinct (le_refl n) h h'
    rw [mem_dueFirst] at parts
    simp only [List.mem_filter, Bool.and_eq_true, decide_eq_true_eq]
    tauto
  rw [dueFirst, left, keyed.oldestFirst_eq perm fun r mem => (List.mem_filter.mp mem).1]
  exact List.mergeSort_of_pairwise ((sorted_oldestFirst _).sublist (List.drop_sublist _ _))

end Table

/-! ## While the clock stands still -/

namespace Surroundings

/-- The clock stands still, the broker takes everything, and nothing goes wrong. -/
structure Steady (c : Surroundings) (clock : Instant) (spans : Uuid → TraceContext.Draw) :
    Prop where
  going : c.Uncancelled
  faultless : c.Faultless
  begun : c.start.now = clock
  still : ∀ p, (c.reading p).now = clock
  accepts : ∀ m, c.reply m = .ok ()
  spanned : ∀ id, (c.reread id).spanIds = spans id

namespace Steady

variable {c : Surroundings} {clock : Instant} {spans : Uuid → TraceContext.Draw} {w : Worker}
  {t : Table}

theorem checked (steady : c.Steady clock spans) : c.checked.now = clock :=
  steady.still (.checking ⟨clock, 0⟩)

theorem selected (steady : c.Steady clock spans) : c.selected.now = clock :=
  steady.still (.selecting ⟨clock, 0⟩)

theorem opens (steady : c.Steady clock spans) : c.Opens w t := by
  refine steady.faultless.opens steady.going ?_ ?_
  · rw [steady.begun, steady.checked]
    exact Instant.le_refl _
  · rw [steady.selected, steady.checked]
    exact Instant.le_refl _

theorem expiry (steady : c.Steady clock spans) :
    c.expiry w = clock.after w.tuning.claimDuration := by
  rw [Surroundings.expiry, steady.selected]

theorem leased (steady : c.Steady clock spans)
    (lasts : clock ≤ clock.after w.tuning.claimDuration) : c.claimed.now ≤ c.expiry w := by
  have claimed : c.claimed.now = clock := steady.still (.claiming [] ⟨clock, 0⟩ (c.claim w) clock)
  rwa [claimed, steady.expiry]

theorem chosen (steady : c.Steady clock spans) :
    c.chosen w t = (t.dueFirst (w.due clock)).take w.tuning.batchSize := by
  rw [Surroundings.chosen, steady.checked]

theorem hold (steady : c.Steady clock spans) (r : Row) :
    c.hold w r = r.heldBy (c.claim w) (clock.after w.tuning.claimDuration) := by
  rw [Surroundings.hold, steady.expiry]

/-- Every row of a batch is relayed. -/
theorem result (steady : c.Steady clock spans) (r : Row) :
    (c.verdict w r).result (c.hold w r) = w.relayed clock (c.claim w) r := by
  have now : (c.published r.id).now = clock :=
    steady.still (.publishing ⟨c.claim w, {}, []⟩ r ⟨none, [], none⟩)
  rw [steady.hold]
  unfold Surroundings.verdict Worker.verdict Worker.relayed
  rw [refusal_hold]
  cases w.refusal r with
  | some refusal => rfl
  | none =>
    rw [steady.accepts, now]
    rfl

theorem message (steady : c.Steady clock spans) (r : Row) :
    c.message w r = w.messageOf spans r := by
  rw [Surroundings.message, steady.spanned, Worker.messageOf]

/-- **One iteration**, if something is due, relays the first batch of what is due. -/
theorem ending_table (steady : c.Steady clock spans) (suits : c.Suits w t)
    (lasts : clock ≤ clock.after w.tuning.claimDuration) :
    (c.ending w t).table = t.settled ((t.dueFirst (w.due clock)).take w.tuning.batchSize)
      (w.relayed clock (c.claim w)) := by
  rw [Worker.ending_eq suits steady.faultless (steady.leased lasts)]
  simp only [steady.chosen, steady.result]

theorem ending_accepted (steady : c.Steady clock spans) (suits : c.Suits w t)
    (lasts : clock ≤ clock.after w.tuning.claimDuration) :
    (c.ending w t).accepted = (((t.dueFirst (w.due clock)).take w.tuning.batchSize).filter
      fun r => (w.refusal r).isNone).map (w.messageOf spans) := by
  rw [Worker.ending_eq suits steady.faultless (steady.leased lasts)]
  have taken : ∀ id m, Offer.isAccepted ⟨id, m, c.reply m⟩ = true :=
    fun id m => by rw [Offer.isAccepted, steady.accepts]; rfl
  simp only [Ending.accepted, steady.chosen, List.filter_map, Function.comp_def, taken,
    List.filter_true, List.map_map, steady.message]

end Steady

end Surroundings

/-! ## Draining a table -/

/-- Without one batch there is one batch less. -/
theorem ceilDiv_sub (n : ℕ) {b : ℕ} (size : 0 < b) : (n - b) ⌈/⌉ b = n ⌈/⌉ b - 1 := by
  refine eq_of_forall_ge_iff fun k => ?_
  rw [ceilDiv_le_iff_le_mul size, Nat.sub_le_iff_le_add, Nat.sub_le_iff_le_add,
    ceilDiv_le_iff_le_mul size, mul_add_one]

namespace Worker

variable {w : Worker} {c : ℕ → Surroundings} {t : Table} {clock : Instant}
  {spans : Uuid → TraceContext.Draw}

/-- The claims of the first iterations differ from each other, and no row is under one of them. -/
def Fresh (w : Worker) (c : ℕ → Surroundings) (t : Table) (n : ℕ) : Prop :=
  ∀ k < n, (∀ r ∈ t.rows, r.claimedBy ≠ some ((c k).claim w)) ∧
    ∀ j < k, (c j).claim w ≠ (c k).claim w

/-- The claims are fresh still once some rows are under the first of them. -/
theorem Fresh.next {n : ℕ} (fresh : w.Fresh c t (n + 1)) (rows : List Row) {f : Row → Row}
    (held : ∀ r, (f r).claimedBy = some ((c 0).claim w)) :
    w.Fresh (fun k => c (k + 1)) (t.settled rows f) n := by
  intro k lt
  obtain ⟨unheld, before⟩ := fresh (k + 1) (by omega)
  refine ⟨fun r mem => ?_, fun j lt => before (j + 1) (by omega)⟩
  obtain ⟨x, there, rfl⟩ := List.mem_map.mp mem
  split
  · rw [held]
    exact fun e => before 0 (by omega) (Option.some.inj e)
  · exact unheld x there

/-- **A table is drained in as many iterations as there are batches.** The broker takes the messages
of the due rows that the registry accepts, the oldest first, and every due row is relayed under some
claim. -/
theorem drains_all (size : 0 < w.tuning.batchSize) (works : t.broken = false) (keyed : t.Keyed)
    (lasts : clock ≤ clock.after w.tuning.claimDuration)
    (steady : ∀ k, (c k).Steady clock spans)
    (fresh : w.Fresh c t ((t.dueFirst (w.due clock)).length ⌈/⌉ w.tuning.batchSize)) :
    ∃ (es : List Ending) (claims : Uuid → Claim),
      w.Drains c t es (t.settled (t.dueFirst (w.due clock)) fun r =>
        w.relayed clock (claims r.id) r) ∧
      es.length = (t.dueFirst (w.due clock)).length ⌈/⌉ w.tuning.batchSize ∧
      es.flatMap Ending.accepted = ((t.dueFirst (w.due clock)).filter
        fun r => (w.refusal r).isNone).map (w.messageOf spans) := by
  generalize rounds : (t.dueFirst (w.due clock)).length ⌈/⌉ w.tuning.batchSize = m at fresh ⊢
  -- on the number of iterations that are left
  induction m generalizing t c with
  | zero =>
    have empty : t.dueFirst (w.due clock) = [] := by
      have bound := (ceilDiv_le_iff_le_mul size).mp rounds.le
      exact List.length_eq_zero_iff.mp (by omega)
    have none_due : t.rows.any (·.isDue (w.due (c 0).start.now)) = false := by
      rw [(steady 0).begun]
      exact Table.any_isDue_eq_false.mpr empty
    refine ⟨[], fun _ => (c 0).claim w, ?_, rfl, by rw [empty]; rfl⟩
    rw [empty, Table.settled_nil]
    exact .idle (ends_idle works (steady 0).opens none_due) rfl
  | succ m ih =>
    have suits : (c 0).Suits w t := ⟨works, keyed, (fresh 0 (by omega)).1⟩
    have some_due : t.rows.any (·.isDue (w.due (c 0).start.now)) := by
      rw [(steady 0).begun, ← Bool.not_eq_false]
      intro none_due
      rw [Table.any_isDue_eq_false.mp none_due, List.length_nil, zero_ceilDiv] at rounds
      omega
    have ends := ends_dispatched suits (steady 0).opens size some_due
    have table := (steady 0).ending_table suits lasts
    have next := keyed.dueFirst_settled (w.due clock) w.tuning.batchSize
      fun r => w.isDue_relayed clock ((c 0).claim w) r _
    rw [← table] at next
    have works' : ((c 0).ending w t).table.broken = false := works
    have keyed' : ((c 0).ending w t).table.Keyed :=
      table ▸ keyed.settled (w.id_relayed clock ((c 0).claim w)) _
    have fresh' : w.Fresh (fun k => c (k + 1)) ((c 0).ending w t).table m :=
      table ▸ fresh.next _ (w.claimedBy_relayed clock ((c 0).claim w))
    have rounds' : (((c 0).ending w t).table.dueFirst (w.due clock)).length ⌈/⌉
        w.tuning.batchSize = m := by
      rw [next, List.length_drop, ceilDiv_sub _ size, rounds, Nat.add_sub_cancel]
    obtain ⟨es, claims, drains, length, accepted⟩ :=
      ih works' keyed' (fun k => steady (k + 1)) rounds' fresh'
    rw [next] at drains accepted
    -- this batch is under the first claim, what is left under those that follow
    have parts := List.take_append_drop w.tuning.batchSize (t.dueFirst (w.due clock))
    have distinct : ((_ ++ _ : List Row).map Row.id).Nodup := parts.symm ▸ keyed.nodup_dueFirst
    have drained := Table.settled_append (g := fun r => w.relayed clock (claims r.id) r)
      (w.id_relayed clock ((c 0).claim w)) t distinct
    rw [← table, parts] at drained
    refine ⟨(c 0).ending w t :: es,
      fun id => if id ∈ ((t.dueFirst (w.due clock)).take w.tuning.batchSize).map Row.id
        then (c 0).claim w else claims id, ?_, by rw [List.length_cons, length], ?_⟩
    · refine (congrArg (w.Drains c t _) ?_).mpr (.dispatched ends rfl drains)
      refine Eq.trans (Table.settled_congr fun r _ => ?_) drained.symm
      exact apply_ite (w.relayed clock · r) _ _ _
    · rw [List.flatMap_cons, accepted, (steady 0).ending_accepted suits lasts, ← List.map_append,
        ← List.filter_append, parts]

end Worker

/-! ## Batches of different sizes -/

/-- A row without what says who claimed it. -/
def Row.unclaimed (r : Row) : Row := { r with claimedBy := none }

/-- The table without what says who claimed the rows of some ids. -/
def Table.unclaimed (t : Table) (ids : List Uuid) : Table :=
  { t with rows := t.rows.map fun r => if r.id ∈ ids then r.unclaimed else r }

theorem Table.unclaimed_settled {rows : List Row} {f g : Row → Row} (t : Table)
    (hf : ∀ r, (f r).id = r.id) (hg : ∀ r, (g r).id = r.id)
    (same : ∀ r, (f r).unclaimed = (g r).unclaimed) :
    (t.settled rows f).unclaimed (rows.map Row.id) =
      (t.settled rows g).unclaimed (rows.map Row.id) := by
  simp only [unclaimed, settled, List.map_map]
  congr 1
  refine List.map_congr_left fun r _ => ?_
  simp only [Function.comp_apply]
  by_cases mem : r ∈ rows
  · have named : r.id ∈ rows.map Row.id := List.mem_map_of_mem mem
    simp only [mem, if_true, hf, hg, named, same]
  · simp only [mem, if_false]

namespace Worker

variable {w : Worker} {c c' : ℕ → Surroundings} {t : Table} {clock : Instant}
  {spans : Uuid → TraceContext.Draw} {b b' : ℕ}

/-- The same worker with batches of another size. -/
def sized (w : Worker) (b : ℕ) : Worker := { w with tuning := { w.tuning with batchSize := b } }

/-- Two claims on a row that is relayed make no other difference. -/
theorem unclaimed_relayed (w : Worker) (now : Instant) (claim claim' : Claim) (r : Row) :
    (w.relayed now claim r).unclaimed = (w.relayed now claim' r).unclaimed := by
  unfold relayed
  split <;> rfl

/-- **Draining does not depend on the size of a batch.** Batches of either size drain the table, in
as many iterations as there are batches of the rows that were due. The broker takes the same
messages in the same order, which are those of the due rows that the registry accepts, from the
oldest to the newest; and the same table is left but for the claims on the rows that were due. -/
theorem drained_alike (size : 0 < b) (size' : 0 < b') (works : t.broken = false) (keyed : t.Keyed)
    (lasts : clock ≤ clock.after w.tuning.claimDuration)
    (steady : ∀ k, (c k).Steady clock spans) (steady' : ∀ k, (c' k).Steady clock spans)
    (fresh : w.Fresh c t (t.rows.countP (·.isDue (w.due clock)) ⌈/⌉ b))
    (fresh' : w.Fresh c' t (t.rows.countP (·.isDue (w.due clock)) ⌈/⌉ b')) :
    ∃ due : List Row, due.Perm (t.rows.filter (·.isDue (w.due clock))) ∧
      (due.Pairwise fun r r' => r.precedes r') ∧
      ∃ es es' t₁ t₁', (w.sized b).Drains c t es t₁ ∧ (w.sized b').Drains c' t es' t₁' ∧
        es.length = t.rows.countP (·.isDue (w.due clock)) ⌈/⌉ b ∧
        es'.length = t.rows.countP (·.isDue (w.due clock)) ⌈/⌉ b' ∧
        es.flatMap Ending.accepted =
          (due.filter fun r => (w.refusal r).isNone).map (w.messageOf spans) ∧
        es'.flatMap Ending.accepted =
          (due.filter fun r => (w.refusal r).isNone).map (w.messageOf spans) ∧
        t₁.unclaimed (due.map Row.id) = t₁'.unclaimed (due.map Row.id) := by
  rw [← Table.length_dueFirst] at fresh fresh' ⊢
  obtain ⟨perm, sorted⟩ := keyed.dueFirst_spec (w.due clock)
  obtain ⟨es, claims, drains, length, accepted⟩ :=
    drains_all (w := w.sized b) size works keyed lasts steady fresh
  obtain ⟨es', claims', drains', length', accepted'⟩ :=
    drains_all (w := w.sized b') size' works keyed lasts steady' fresh'
  refine ⟨_, perm, sorted, es, es', _, _, drains, drains', length, length', accepted, accepted', ?_⟩
  exact Table.unclaimed_settled t (fun r => w.id_relayed clock (claims r.id) r)
    (fun r => w.id_relayed clock (claims' r.id) r)
    fun r => w.unclaimed_relayed clock (claims r.id) (claims' r.id) r

/-! ## A clock behind the last instant -/

/-- A row under a claim that has run out is due as before. -/
theorem isDue_hold {c : Surroundings} (steady : c.Steady clock spans)
    (late : clock.after w.tuning.claimDuration < clock) {r : Row} (isDue : r.isDue (w.due clock)) :
    (c.hold w r).isDue (w.due clock) := by
  have expired : ¬ clock ≤ clock.after w.tuning.claimDuration := Instant.not_le.mpr late
  rw [steady.hold]
  simp only [Row.isDue, Bool.and_eq_true, Bool.not_eq_true'] at isDue ⊢
  obtain ⟨⟨⟨alive, ready⟩, -⟩, left⟩ := isDue
  exact ⟨⟨⟨alive, ready⟩, decide_eq_false expired⟩, left⟩

/-- **Where claims run out before they are made, no table is drained**: whatever is claimed is due
still, and nothing of it is read back. -/
theorem not_drains_of_late (size : 0 < w.tuning.batchSize)
    (late : clock.after w.tuning.claimDuration < clock) {es : List Ending} {t' : Table}
    (drains : w.Drains c t es t') (works : t.broken = false) (keyed : t.Keyed)
    (steady : ∀ k, (c k).Steady clock spans) (fresh : w.Fresh c t (es.length + 1)) :
    t.rows.any (·.isDue (w.due clock)) = false := by
  by_contra some_due
  rw [Bool.not_eq_false] at some_due
  induction drains with
  | @idle c t e ends idle =>
    have suits : (c 0).Suits w t := ⟨works, keyed, (fresh 0 (by omega)).1⟩
    have ends' := ends_dispatched suits (steady 0).opens size (by rwa [(steady 0).begun])
    rw [ends.unique ends'] at idle
    cases idle
  | @dispatched c t e report es t' ends dispatched rest ih =>
    have suits : (c 0).Suits w t := ⟨works, keyed, (fresh 0 (by omega)).1⟩
    have ends' := ends_dispatched suits (steady 0).opens size (by rwa [(steady 0).begun])
    have claimed : (c 0).claimed.now = clock :=
      (steady 0).still (.claiming [] ⟨clock, 0⟩ ((c 0).claim w) clock)
    -- the claim is made, and nothing is read under it
    have table : e.table = t.settled ((c 0).chosen w t) ((c 0).hold w) := by
      have unread : (c 0).batch w t = [] := by
        refine if_neg ?_
        rw [claimed, (steady 0).expiry, Instant.not_le]
        exact late
      rw [ends.unique ends', Surroundings.ending, unread, Table.settled_nil]
    rw [table] at ih
    refine ih works (keyed.settled (f := (c 0).hold w) (fun _ => rfl) _) (fun k => steady (k + 1))
      (fresh.next _ fun _ => rfl) ?_
    obtain ⟨r, there, isDue⟩ := List.any_eq_true.mp some_due
    refine List.any_eq_true.mpr ⟨_, List.mem_map_of_mem there, ?_⟩
    split
    · exact isDue_hold (steady 0) late isDue
    · exact isDue

end Worker

/-! ## Two rows for an example -/

namespace Office

/-- The clock stands still, and every iteration draws a claim id of its own. -/
def still (now : Instant) (k : ℕ) : Surroundings :=
  let reading := { reading with now, claimId := .ofNat k }
  { start := reading
    checked := reading
    selected := reading
    claimed := reading
    fetched := reading
    reread := fun _ => reading
    published := fun _ => reading
    recorded := fun _ => reading
    reply := fun _ => .ok () }

theorem steady_still (now : Instant) (k : ℕ) :
    (still now k).Steady now fun _ => reading.spanIds where
  going p := by cases p <;> rfl
  faultless _ := rfl
  begun := rfl
  still p := by cases p <;> rfl
  accepts _ := rfl
  spanned _ := rfl

theorem fresh_still (now : Instant) : courier.Fresh (still now) desk 3 := by
  have claims : ∀ k, (still now k).claim courier = (still .epoch k).claim courier := fun _ => rfl
  unfold Worker.Fresh
  simp only [claims]
  decide +kernel

/-- One row after the other, or both at once. -/
theorem drained_courier :
    ∃ due : List Row, due.Perm [known, unknown] ∧ ∃ es es' t₁ t₁',
      (courier.sized 1).Drains (still .epoch) desk es t₁ ∧
      (courier.sized 2).Drains (still .epoch) desk es' t₁' ∧ es.length = 2 ∧ es'.length = 1 ∧
      es.flatMap Ending.accepted = es'.flatMap Ending.accepted ∧
      t₁.unclaimed (due.map Row.id) = t₁'.unclaimed (due.map Row.id) := by
  have count : desk.rows.countP (·.isDue (courier.due .epoch)) = 2 := by decide +kernel
  have filter : desk.rows.filter (·.isDue (courier.due .epoch)) = [known, unknown] := by
    decide +kernel
  obtain ⟨due, perm, -, es, es', t₁, t₁', drains, drains', length, length', accepted, accepted',
    same⟩ := Worker.drained_alike (w := courier) (t := desk) (by decide : 0 < 1)
      (by decide : 0 < 2) rfl suits_desk.keyed (Instant.le_after (by decide) _)
      (steady_still .epoch) (steady_still .epoch)
      (fun k lt => fresh_still _ k (by rw [count] at lt; exact lt.trans (by decide)))
      (fun k lt => fresh_still _ k (by rw [count] at lt; exact lt.trans (by decide)))
  rw [count] at length length'
  exact ⟨due, filter ▸ perm, es, es', t₁, t₁', drains, drains', length, length',
    accepted.trans accepted'.symm, same⟩

/-- The leap second behind the last instant. -/
def leap : Instant :=
  ⟨lastSecond, 1_000_000_000, Instant.last.first_le, Instant.last.le_last, by omega⟩

/-- In the leap second behind the last instant one batch of the courier is not enough for two rows.
-/
theorem desk_stays_full :
    (∀ k, (still leap k).Steady leap fun _ => reading.spanIds) ∧
      courier.Fresh (still leap) desk 3 ∧ 0 < courier.tuning.batchSize ∧
      ¬ ∃ es t', courier.Drains (still leap) desk es t' ∧
        es.length = desk.rows.countP (·.isDue (courier.due leap)) ⌈/⌉ courier.tuning.batchSize := by
  refine ⟨steady_still leap, fresh_still leap, by decide +kernel, ?_⟩
  rintro ⟨es, t', drains, length⟩
  have one : desk.rows.countP (·.isDue (courier.due leap)) ⌈/⌉ courier.tuning.batchSize = 1 := by
    decide +kernel
  have empty := Worker.not_drains_of_late (by decide +kernel) (by decide +kernel) drains rfl
    suits_desk.keyed (steady_still leap) fun k lt => fresh_still leap k (by omega)
  have full : desk.rows.any (·.isDue (courier.due leap)) = true := by decide +kernel
  rw [full] at empty
  cases empty

end Office

end Relay
