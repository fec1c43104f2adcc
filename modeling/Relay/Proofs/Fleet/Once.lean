import Mathlib.Data.Fintype.Basic
import Mathlib.Data.List.Count
import Relay.Proofs.Fleet.Basic
import Relay.Proofs.Table.Lease
import Relay.Proofs.Table.Terminal

/-!
# Rows are published once

As long as nobody requeues a row and no lease runs out on a worker that still has the row ahead of
it or in hand, the broker takes every row at most once, and no row is offered that is processed or
poisoned (`Fleet.rows_are_published_once`).

The invariant (`Fleet.Exclusive`) ties where every worker stands to the columns of the rows: a copy
that a worker acts on is exactly the stored row, under the worker's own claim, and claims of
different workers differ. So no two workers ever have copies of one row, and nobody but its owner
changes it.
-/

namespace Relay

theorem Operation.effect_of_fromProducer {op : Operation} (h : op.fromProducer) (r : Row) :
    op.effect r = r := by
  cases op with
  | commit w => rfl
  | call c =>
    cases c with
    | insert | hasDue | selectDue | fetchClaimed | get | stats => rfl
    | claim | markProcessed | markPoisoned | recordFailure | requeue => cases h

namespace Post

variable {w : Worker}

/-- Whether a worker has claimed rows and has not got its batch yet. -/
def isOpening : Post w → Bool
  | .told (.claiming _ _ _ _) _ | .asking (.fetching _ _ _) | .told (.fetching _ _ _) _ => true
  | _ => false

/-- The rows of its batch that a worker has yet to read again. -/
def ahead : Post w → List Uuid
  | .asking (.reading b id) => id :: b.waiting
  | .asking phase | .told phase _ => (phase.batch.map Batch.waiting).getD []
  | .resting | .gone => []

/-- Whether a row that a worker has claimed is ahead of it or in hand: any such row until the worker
has its batch, and then those of the batch that have no outcome yet. -/
def awaits (p : Post w) (x : Uuid) : Bool :=
  p.isOpening || x ∈ p.ahead || p.flight.any (·.id = x)

theorem awaits_of_flight {p : Post w} {row : Row} (h : p.flight = some row) : p.awaits row.id := by
  simp [awaits, h]

end Post

namespace Fleet

variable {ι : Type} {workers : ι → Worker}

/-- No lease has run out on a worker that awaits the row. -/
def Leased (f : Fleet workers) : Prop :=
  ∀ i, ∀ r ∈ f.table.rows, r.claimedBy = (f.post i).claim → (f.post i).awaits r.id →
    r.isLeased f.clock

/-- No call fails unless the table itself says so, events are put in from outside, the clock is not
set back, and a new claim is nobody's. -/
def Permits (f : Fleet workers) : Turn ι → Prop
  | .start _ _ | .serve _ _ => True
  | .fail _ _ => False
  | .resume i r => (f.post i).draws →
    ∀ j, (f.post j).claim ≠ some (Claim.ofInstance (workers i).tuning.instanceName r.claimId)
  | .outside op => op.fromProducer
  | .tick now => f.clock ≤ now

instance [Fintype ι] (f : Fleet workers) : Decidable f.Leased :=
  inferInstanceAs (Decidable (∀ i, ∀ r ∈ f.table.rows, r.claimedBy = (f.post i).claim →
    (f.post i).awaits r.id → r.isLeased f.clock))

instance [Fintype ι] (f : Fleet workers) : ∀ u, Decidable (f.Permits u)
  | .start _ _ | .serve _ _ => isTrue trivial
  | .fail _ _ => isFalse id
  | .resume i r =>
    inferInstanceAs (Decidable ((f.post i).draws = true → ∀ j, (f.post j).claim ≠
      some (Claim.ofInstance (workers i).tuning.instanceName r.claimId)))
  | .outside op => inferInstanceAs (Decidable (op.fromProducer = true))
  | .tick now => inferInstanceAs (Decidable (f.clock ≤ now))

/-- How often the broker took the row of an id. -/
def deliveries (f : Fleet workers) (id : Uuid) : Nat :=
  f.offers.countP fun o => o.row = id && o.isAccepted

/-- Where the workers stand agrees with the rows. -/
structure Exclusive (f : Fleet workers) : Prop where
  leased : f.Leased
  apart : ∀ i j c, (f.post i).claim = some c → (f.post j).claim = some c → i = j
  punctual : ∀ i ids due claim expiry, f.post i = .asking (.claiming ids due claim expiry) →
    due.now ≤ f.clock
  own : ∀ i row, (f.post i).flight = some row → f.table.find? row.id = some row ∧
    row.isTerminal = false ∧ row.claimedBy = (f.post i).claim
  /-- A copy that the broker has not taken is of a row that it has not taken. -/
  unsent : ∀ i row, (f.post i).flight = some row → (f.post i).taken = none →
    f.deliveries row.id = 0
  /-- What the broker has taken is processed, or will be by whoever has the copy. -/
  sent : ∀ id, 0 < f.deliveries id → f.table.broken ∨
    (∃ r, f.table.find? id = some r ∧ r.processed.isSome) ∨
    ∃ i row, (f.post i).taken = some row ∧ row.id = id
  once : ∀ id, f.deliveries id ≤ 1

variable {f g : Fleet workers} {u : Turn ι} {i j : ι} {x : Uuid} {r row row' : Row}

theorem Fresh.exclusive (fresh : f.Fresh) : f.Exclusive where
  leased i r _ _ awaits := by
    rw [fresh.resting i] at awaits
    cases awaits
  apart i j c h := by
    rw [fresh.resting i] at h
    cases h
  punctual i ids due claim expiry h := by
    rw [fresh.resting i] at h
    cases h
  own i row h := by
    rw [fresh.resting i] at h
    cases h
  unsent i row h := by
    rw [fresh.resting i] at h
    cases h
  sent id h := by
    rw [deliveries, fresh.unoffered] at h
    cases h
  once id := by simp [deliveries, fresh.unoffered]

namespace Exclusive

/-- No two workers have copies of one row. -/
theorem eq_of_flight (h : f.Exclusive) (hi : (f.post i).flight = some row)
    (hj : (f.post j).flight = some row') (e : row.id = row'.id) : i = j := by
  obtain ⟨there, -, own⟩ := h.own i row hi
  obtain ⟨there', -, own'⟩ := h.own j row' hj
  rw [e, there'] at there
  cases there
  obtain ⟨c, hc⟩ := Post.claim_of_flight hi
  exact h.apart i j c hc (by rw [← own', own, hc])

/-- What somebody else does leaves the row of a worker's copy as it is: a claim finds it leased, and
the outcomes of others are of other rows. -/
theorem effect_eq (h : f.Exclusive) (permitted : f.Permits u) {op : Operation} (does : f.Does u op)
    (copy : (f.post j).flight = some row) (off : u.actor ≠ some j) : op.effect row = row := by
  cases does with
  | outside op => exact Operation.effect_of_fromProducer permitted row
  | calls i reply phase c asking hc =>
    have ne : i ≠ j := fun e => off (by rw [← e]; rfl)
    have other : ∀ row', (f.post i).flight = some row' → row.id ≠ row'.id :=
      fun row' copy' e => ne (h.eq_of_flight copy' copy e.symm)
    cases phase with
    | claiming ids due claim expiry =>
      cases hc
      obtain ⟨there, -, own⟩ := h.own j row copy
      have leased := h.leased j row (Table.mem_of_find? there) own (Post.awaits_of_flight copy)
      have rests : row.isDue due = false := by
        by_contra isDue
        unfold Row.isLeased at leased
        split at leased
        · cases leased
        · rename_i expiry' until_
          have late := Row.lt_of_isDue (by simpa using isDue) until_
          have inTime := Instant.le_trans (h.punctual i _ _ _ _ asking) (by simpa using leased)
          exact Instant.not_le.2 late inTime
      simp [Operation.effect, Call.effect, rests]
    | completing b row' span now =>
      cases hc
      simp [Operation.effect, Call.effect, other row' (by rw [asking]; rfl)]
    | poisoning b row' span reason detail =>
      cases hc
      simp [Operation.effect, Call.effect, other row' (by rw [asking]; rfl)]
    | failing b row' span attempt retryAt reason =>
      cases hc
      simp [Operation.effect, Call.effect, other row' (by rw [asking]; rfl)]
    | checking | selecting | fetching | reading =>
      cases hc
      rfl
    | publishing => cases hc

/-- A row that is read again, alive and the worker's own, has never been taken. -/
theorem unsent_of_reading (h : f.Exclusive) {b : Batch} {id : Uuid}
    (asking : f.post j = .asking (.reading b id)) (works : f.table.broken = false)
    (found : f.table.find? id = some row) (alive : row.isTerminal = false)
    (own : row.claimedBy = some b.claim) :
    f.deliveries row.id = 0 := by
  obtain rfl := Table.id_of_find? found
  by_contra ne
  rcases h.sent row.id (Nat.pos_of_ne_zero ne) with broken | ⟨r, there, processed⟩ |
    ⟨i, row', taken, e⟩
  · rw [works] at broken
    cases broken
  · rw [found] at there
    cases there
    rw [Row.isTerminal_of_processed processed] at alive
    cases alive
  · -- whoever has a copy of the row has it under the same claim
    obtain ⟨there, -, own'⟩ := h.own i row' (Post.flight_of_taken taken)
    rw [e, found] at there
    cases there
    obtain rfl := h.apart i j b.claim (by rw [← own', own]) (by rw [asking]; rfl)
    rw [asking] at taken
    cases taken

end Exclusive

/-! ## One turn -/

variable [DecidableEq ι]

namespace Moves

theorem clock_le (m : f.Moves u g) (permitted : f.Permits u) : f.clock ≤ g.clock := by
  cases m with
  | rests | outside => exact Instant.le_refl _
  | ticks now => exact permitted
  | acts i u g h =>
    cases h with
    | starts | serves | fails | resumes => exact Instant.le_refl _

/-- A worker's claim was its claim before, or it has just made it and has no copy yet. -/
theorem claim (m : f.Moves u g) {c : Claim} (h : (g.post j).claim = some c) :
    (f.post j).claim = some c ∨ ∃ reading, u = .resume j reading ∧ (f.post j).draws ∧
      c = Claim.ofInstance (workers j).tuning.instanceName reading.claimId ∧
      (g.post j).flight = none := by
  rcases m.post j with ⟨e, -⟩ | acts
  · exact Or.inl (e ▸ h)
  · cases acts with
    | starts reading resting =>
      rw [post_place_self] at h
      cases h
    | serves reply phase asking =>
      rw [post_served_self] at h
      rw [asking]
      exact Or.inl (Post.claim_hearing h)
    | fails e phase answer asking =>
      rw [post_place_self] at h
      rw [asking]
      exact Or.inl h
    | resumes reading phase answer told =>
      rw [post_place_self] at h
      rcases Post.claim_goes (Worker.goes _ _ phase answer) h with kept | ⟨draws, made, none_yet⟩
      · rw [told]
        exact Or.inl kept
      · exact Or.inr ⟨reading, rfl, told ▸ draws, made, by rw [post_place_self]; exact none_yet⟩

/-- A worker calls for rows that are due at the time when it makes the claim, for as long as it
leases rows. -/
theorem claiming (m : f.Moves u g) {ids : List Uuid} {due : Due} {c : Claim} {expiry : Instant}
    (h : g.post j = .asking (.claiming ids due c expiry)) :
    f.post j = .asking (.claiming ids due c expiry) ∨ ∃ reading, u = .resume j reading ∧
      (f.post j).draws ∧ c = Claim.ofInstance (workers j).tuning.instanceName reading.claimId ∧
      due.now = f.clock ∧ expiry = f.clock.after (workers j).tuning.claimDuration ∧
      g.table = f.table := by
  rcases m.post j with ⟨e, -⟩ | acts
  · exact Or.inl (e ▸ h)
  · exact Or.inr (acts.claiming h)

/-- No two workers work under one claim, if new claims are nobody's. -/
theorem apart (m : f.Moves u g)
    (apart : ∀ i j c, (f.post i).claim = some c → (f.post j).claim = some c → i = j)
    (new : ∀ i reading, u = .resume i reading → (f.post i).draws → ∀ j, (f.post j).claim ≠
      some (Claim.ofInstance (workers i).tuning.instanceName reading.claimId))
    (i j : ι) (c : Claim) (hi : (g.post i).claim = some c) (hj : (g.post j).claim = some c) :
    i = j := by
  rcases m.claim hi with hi | ⟨reading, rfl, draws, rfl, -⟩
  · rcases m.claim hj with hj | ⟨reading, rfl, draws, rfl, -⟩
    · exact apart i j c hi hj
    · exact absurd hi (new j reading rfl draws i)
  · rcases m.claim hj with hj | ⟨reading', e, -, -, -⟩
    · exact absurd hj (new i reading rfl draws j)
    · cases e
      rfl

/-- A copy that the broker has taken stays in hand until the row is marked processed. -/
theorem keeps_taken (m : f.Moves u g) (permitted : f.Permits u) (h : (f.post j).taken = some row) :
    (g.post j).taken = some row ∨ (g.post j).flight = none ∧
      ∃ now, g.table = (f.table.respond (.markProcessed row.id now)).1 := by
  rcases m.post j with ⟨e, -⟩ | acts
  · exact Or.inl (e ▸ h)
  · cases acts with
    | starts reading resting =>
      rw [resting] at h
      cases h
    | serves reply phase asking =>
      rw [asking] at h
      rw [post_served_self]
      cases phase with
      | completing b row' span now =>
        cases h
        refine Or.inr ⟨?_, now, rfl⟩
        unfold Post.hearing
        split <;> rfl
      | checking | selecting | claiming | fetching | reading | publishing | poisoning | failing =>
        cases h
    | fails => cases permitted
    | resumes reading phase answer told =>
      rw [told] at h
      rw [post_place_self]
      cases phase with
      | publishing b row' span =>
        rcases answer with e | u
        · cases h
        · exact Or.inl h
      | checking | selecting | claiming | fetching | reading | completing | poisoning | failing =>
        cases h

/-- A table that is poisoned stays so. -/
theorem broken (m : f.Moves u g) (h : f.table.broken) : g.table.broken := by
  rcases m.table with e | ⟨op, -, e⟩
  · rwa [e]
  · rw [e]
    cases op with
    | call c => simp [Table.after, Table.respond, h]
    | commit w => simp [Table.after, Work.commit, Table.insertAll, h]

/-- The broker takes one row at a time, from the copy of the worker whose turn it is. -/
theorem deliveries (m : f.Moves u g) (x : Uuid) :
    g.deliveries x = f.deliveries x ∨ ∃ i b row span, u = .serve i (.ok ()) ∧
      f.post i = .asking (.publishing b row span) ∧ (g.post i).taken = some row ∧ row.id = x ∧
      g.deliveries x = f.deliveries x + 1 := by
  rcases m.offers with e | ⟨i, reply, b, row, span, rfl, asking, told, e⟩
  · exact Or.inl (by rw [Fleet.deliveries, e]; rfl)
  · have count : g.deliveries x = f.deliveries x +
        if row.id = x ∧ (⟨row.id, row.message span, reply⟩ : Offer).isAccepted then 1 else 0 := by
      simp [Fleet.deliveries, e, List.countP_append, List.countP_singleton]
    by_cases taken : row.id = x ∧ (⟨row.id, row.message span, reply⟩ : Offer).isAccepted
    · rcases reply with refusal | u
      · cases taken.2
      · rw [if_pos taken] at count
        exact Or.inr ⟨i, b, row, span, rfl, asking, by rw [told]; rfl, taken.1, count⟩
    · rw [if_neg taken] at count
      exact Or.inl count

end Moves

namespace Exclusive

variable (h : f.Exclusive) (m : f.Moves u g) (permitted : f.Permits u)

include h m

theorem once_step (id : Uuid) : g.deliveries id ≤ 1 := by
  rcases m.deliveries id with e | ⟨i, b, row, span, -, asking, -, rfl, e⟩
  · rw [e]
    exact h.once id
  · have first : f.deliveries row.id = 0 :=
      h.unsent i row (by rw [asking]; rfl) (by rw [asking]; rfl)
    omega

include permitted

theorem apart_step (i j : ι) (c : Claim) (hi : (g.post i).claim = some c)
    (hj : (g.post j).claim = some c) : i = j :=
  m.apart h.apart (fun i reading e draws => by subst e; exact permitted draws) i j c hi hj

theorem punctual_step (i : ι) (ids : List Uuid) (due : Due) (claim : Claim) (expiry : Instant)
    (asking : g.post i = .asking (.claiming ids due claim expiry)) : due.now ≤ g.clock := by
  rcases m.claiming asking with asking | ⟨-, -, -, -, now, -⟩
  · exact Instant.le_trans (h.punctual i ids due claim expiry asking) (m.clock_le permitted)
  · exact now ▸ m.clock_le permitted

theorem own_step (copy : (g.post j).flight = some row) :
    g.table.find? row.id = some row ∧ row.isTerminal = false ∧
      row.claimedBy = (g.post j).claim := by
  have kept : (f.post j).claim = (g.post j).claim := by
    obtain ⟨c, hc⟩ := Post.claim_of_flight copy
    rcases m.claim hc with hc' | ⟨-, -, -, -, no_copy⟩
    · rw [hc, hc']
    · rw [no_copy] at copy
      cases copy
  obtain ⟨same, copy | ⟨reply, b, id, rfl, asking, -, found, alive, own⟩⟩ := m.flight copy
  · obtain ⟨there, alive, own⟩ := h.own j row copy
    refine ⟨?_, alive, own.trans kept⟩
    by_cases on : u.actor = some j
    · rw [same on, there]
    · rcases m.find? there with e | ⟨op, does, e⟩
      · exact e
      · rw [e, h.effect_eq permitted does copy on]
  · refine ⟨?_, alive, ?_⟩
    · rw [same rfl, Table.id_of_find? found, found]
    · rw [← kept, asking, own]
      rfl

theorem unsent_step (copy : (g.post j).flight = some row) (untaken : (g.post j).taken = none) :
    g.deliveries row.id = 0 := by
  obtain ⟨-, old⟩ := m.flight copy
  rcases m.deliveries row.id with e | ⟨i, b, row', span, rfl, asking, taken, id, -⟩
  · rw [e]
    rcases old with old | ⟨reply, b, id, rfl, asking, works, found, alive, own⟩
    · refine h.unsent j row old ?_
      rw [Option.eq_none_iff_forall_not_mem]
      intro row' taken
      rcases m.keeps_taken permitted taken with kept | ⟨no_copy, -⟩
      · rw [untaken] at kept
        cases kept
      · rw [no_copy] at copy
        cases copy
    · exact h.unsent_of_reading asking works found alive own
  · -- the worker whose copy was taken would be this one
    rcases old with old | ⟨reply, b', id', e, asking', -⟩
    · obtain rfl := h.eq_of_flight (by rw [asking]; rfl) old id
      rw [untaken] at taken
      cases taken
    · cases e
      rw [asking] at asking'
      cases asking'

theorem sent_step (id : Uuid) (pos : 0 < g.deliveries id) : g.table.broken ∨
    (∃ r, g.table.find? id = some r ∧ r.processed.isSome) ∨
    ∃ i row, (g.post i).taken = some row ∧ row.id = id := by
  rcases m.deliveries id with e | ⟨i, b, row, span, -, -, taken, id, -⟩
  · rw [e] at pos
    rcases h.sent id pos with broken | ⟨r, there, processed⟩ | ⟨i, row, taken, rfl⟩
    · exact Or.inl (m.broken broken)
    · refine Or.inr (Or.inl ⟨r, ?_, processed⟩)
      rcases m.find? there with e | ⟨op, -, e⟩
      · exact e
      · rw [e, Operation.effect_of_processed processed]
    · rcases m.keeps_taken permitted taken with kept | ⟨-, now, e⟩
      · exact Or.inr (Or.inr ⟨i, row, kept, rfl⟩)
      · cases works : f.table.broken with
        | true => exact Or.inl (m.broken works)
        | false =>
          obtain ⟨there, alive, -⟩ := h.own i row (Post.flight_of_taken taken)
          refine Or.inr (Or.inl ⟨(Call.markProcessed row.id now).effect row, ?_, ?_⟩)
          · rw [e, Table.respond_of_works works (by simp), Table.find?_answer there]
          · simp [Call.effect, alive]
  · exact Or.inr (Or.inr ⟨i, row, taken, id⟩)

theorem step (leased : g.Leased) : g.Exclusive where
  leased := leased
  apart := h.apart_step m permitted
  punctual := h.punctual_step m permitted
  own _ _ := h.own_step m permitted
  unsent _ _ := h.unsent_step m permitted
  sent := h.sent_step m permitted
  once := h.once_step m

end Exclusive

/-! ## Runs -/

theorem Exclusive.run (h : f.Exclusive) {turns : List (Turn ι)}
    (orderly : Along (fun f u g => f.Permits u ∧ g.Leased) f turns) : (f.run turns).Exclusive :=
  run_keeps (fun _ _ _ h orderly m => h.step m orderly.1 orderly.2) h orderly

/-- **Rows are published once.** Whatever the table holds at the start, and however the turns of the
workers, the broker's replies and what producers do are ordered: if no lease runs out on a worker
that awaits the row, the broker takes each row at most once, and a row that is offered to it is
neither processed nor poisoned. -/
theorem rows_are_published_once (fresh : f.Fresh) (turns : List (Turn ι))
    (orderly : Along (fun f u g => f.Permits u ∧ g.Leased) f turns) :
    (∀ id, (f.run turns).deliveries id ≤ 1) ∧
    ∀ i b row span, (f.run turns).post i = .asking (.publishing b row span) →
      ∃ r, (f.run turns).table.find? row.id = some r ∧ r.isTerminal = false := by
  have exclusive := fresh.exclusive.run orderly
  refine ⟨exclusive.once, fun i b row span asking => ?_⟩
  obtain ⟨there, alive, -⟩ := exclusive.own i row (by rw [asking]; rfl)
  exact ⟨row, there, alive⟩

theorem rows_are_published_once_office :
    (Office.start.run Office.shift).deliveries Office.known.id = 1 ∧
      (Office.start.run Office.shift).deliveries Office.known.id ≤ 1 := by
  have search : Along (fun f u g => f.Permits u ∧ g.Leased) Office.start Office.search := by
    decide +kernel
  have capture : Along (fun f u g => f.Permits u ∧ g.Leased) (Office.start.run Office.search)
      Office.capture := by
    rw [Office.start, Office.run_search]
    decide +kernel
  have delivery : Along (fun f u g => f.Permits u ∧ g.Leased)
      ((Office.start.run Office.search).run Office.capture) Office.delivery := by
    rw [Office.start, Office.run_search, Office.run_capture]
    decide +kernel
  have once := rows_are_published_once Office.fresh_start Office.shift
    (along_append search (along_append capture delivery))
  refine ⟨?_, once.1 Office.known.id⟩
  rw [Office.run_shift]
  decide

end Fleet

end Relay
