import Relay.Proofs.Fleet.Once
import Relay.Proofs.Fleet.Operations

/-!
# Rows are offered under the worker's own claim

Before a worker offers a row to the broker it reads the row again. It looks whether the row is alive
and still under its claim, and not whether the lease has run out meanwhile
(`Fleet.offered_rows_were_reread`, `Fleet.lapsed_row_is_offered`).

How long a row is leased follows from an invariant over the run and the operations so far
(`Fleet.Timed`): the claims of different workers differ, no row is under a claim before the call
that makes it is answered, and from then on every row under the claim has the expiry of that call.
-/

namespace Relay

/-- A row is under a claim because it was before, because the claim has just been made, or because
it came in so. -/
theorem Table.claimed_after {t : Table} {op : Operation} {id : Uuid} {r : Row} {c : Claim}
    (there : (t.after op).find? id = some r) (own : r.claimedBy = some c) :
    (∃ s, t.find? id = some s ∧ s.lease = r.lease) ∨
      (∃ b : Bid, op = .call b.call ∧ b.claim = c ∧ r.claimedUntil = some b.expiry) ∨
      r ∈ op.inserted := by
  rcases find?_of_after there with before | ⟨s, before, rfl⟩ | new
  · exact Or.inl ⟨r, before, rfl⟩
  · cases op with
    | commit w => exact Or.inl ⟨s, before, rfl⟩
    | call call =>
      rcases call.lease_effect s with same | rfl | ⟨b, rfl, mem, isDue⟩
      · exact Or.inl ⟨s, before, same.symm⟩
      · by_cases renewable : isRenewable s
        · simp [Operation.effect, Call.effect, renewable, renewed] at own
        · exact Or.inl ⟨s, before, by simp [Operation.effect, Call.effect, renewable]⟩
      · have taken : (Operation.call b.call).effect s = s.heldBy b.claim b.expiry :=
          if_pos ⟨mem, isDue⟩
        rw [taken] at own ⊢
        exact Or.inr (Or.inl ⟨b, rfl, Option.some.inj own, rfl⟩)
  · exact Or.inr (Or.inr new)

/-- Until when a worker claims rows that are due. -/
def Worker.expiry (w : Worker) (due : Due) : Instant := due.now.after w.tuning.claimDuration

namespace Post

variable {w : Worker}

/-- The claim under which a worker may have rows: one that it has made, and that was answered. -/
def holding : Post w → Option Claim
  | .asking (.claiming _ _ _ _) | .told (.claiming _ _ _ _) (.error _) => none
  | p => p.claim

theorem claim_of_holding {p : Post w} {c : Claim} (h : p.holding = some c) : p.claim = some c := by
  unfold holding at h
  split at h
  · cases h
  · cases h
  · exact h

end Post

namespace Fleet

variable {ι : Type} {workers : ι → Worker}

/-- A new claim is nobody's and no row is under it, and from outside come rows that are under no
worker's claim, requeues and looks. -/
def Draws (f : Fleet workers) : Turn ι → Prop
  | .resume i r => (f.post i).draws →
    (∀ j, (f.post j).claim ≠ some (Claim.ofInstance (workers i).tuning.instanceName r.claimId)) ∧
    ∀ row ∈ f.table.rows,
      row.claimedBy ≠ some (Claim.ofInstance (workers i).tuning.instanceName r.claimId)
  | .outside op => op.fromCaller ∧
    ∀ row ∈ op.inserted, row.claimedBy = none ∨ ∀ i, row.claimedBy ≠ (f.post i).claim
  | .start _ _ | .serve _ _ | .fail _ _ | .tick _ => True

instance [Fintype ι] (f : Fleet workers) : ∀ u, Decidable (f.Draws u)
  | .resume i r => inferInstanceAs (Decidable ((f.post i).draws = true →
      (∀ j, (f.post j).claim ≠ some (Claim.ofInstance (workers i).tuning.instanceName r.claimId)) ∧
      ∀ row ∈ f.table.rows,
        row.claimedBy ≠ some (Claim.ofInstance (workers i).tuning.instanceName r.claimId)))
  | .outside op => inferInstanceAs (Decidable (op.fromCaller = true ∧
      ∀ row ∈ op.inserted, row.claimedBy = none ∨ ∀ i, row.claimedBy ≠ (f.post i).claim))
  | .start _ _ | .serve _ _ | .fail _ _ | .tick _ => isTrue trivial

/-- Rows are under the claims of workers for as long as these claimed them. -/
structure Timed (f : Fleet workers) (past : List Operation) : Prop where
  apart : ∀ i j c, (f.post i).claim = some c → (f.post j).claim = some c → i = j
  asked : ∀ i ids due c e, f.post i = .asking (.claiming ids due c e) → e = (workers i).expiry due ∧
    ∀ id r, f.table.find? id = some r → r.claimedBy ≠ some c
  held : ∀ i c, (f.post i).holding = some c → ∃ ids due,
    .call (.claim ids due c ((workers i).expiry due)) ∈ past ∧
    ∀ id r, f.table.find? id = some r → r.claimedBy = some c →
      r.claimedUntil = some ((workers i).expiry due)

theorem Fresh.timed {f : Fleet workers} (fresh : f.Fresh) : f.Timed [] where
  apart i j c hi := by
    rw [fresh.resting i] at hi
    cases hi
  asked i ids due c e asking := by
    rw [fresh.resting i] at asking
    cases asking
  held i c holding := by
    rw [fresh.resting i] at holding
    cases holding

variable [DecidableEq ι] {f g : Fleet workers} {u : Turn ι} {past : List Operation} {i j : ι}

namespace Moves

/-- A worker holds a claim because it did before, or because its call has just been answered. -/
theorem holding_new (m : f.Moves u g) {c : Claim} (h : (g.post j).holding = some c) :
    (f.post j).holding = some c ∨ ∃ reply ids due e, u = .serve j reply ∧
      f.post j = .asking (.claiming ids due c e) := by
  rcases m.post j with ⟨e, -⟩ | acts
  · exact Or.inl (e ▸ h)
  · cases acts with
    | starts reading resting =>
      rw [post_place_self] at h
      cases h
    | serves reply phase asking =>
      rw [post_served_self] at h
      rw [asking]
      cases phase with
      | claiming ids due c' e =>
        obtain rfl : c' = c := by
          have := Post.claim_hearing (Post.claim_of_holding h)
          simpa [Phase.claim] using this
        exact Or.inr ⟨reply, ids, due, e, rfl, rfl⟩
      | checking | selecting | fetching | reading | publishing | completing | poisoning
      | failing => exact Or.inl (Post.claim_hearing (Post.claim_of_holding h))
    | fails e phase answer asking failure =>
      rw [post_place_self] at h
      rw [asking]
      cases phase with
      | claiming ids due c' e =>
        cases failure
        cases h
      | checking | selecting | fetching | reading | publishing | completing | poisoning
      | failing => exact Or.inl h
    | resumes reading phase answer told =>
      rw [post_place_self] at h
      have goes := (workers j).goes (f.read reading) phase answer
      generalize ((workers j).resume (f.read reading) phase answer).progress = progress at h goes
      rw [told]
      cases goes with
      | ends | selects | claims => cases h
      | proceeds p a b hp =>
        cases phase <;> cases hp <;> exact Or.inl h
      | fetches | opens | offers | refuses | completes | poisons | fails => exact Or.inl h

/-- A row is under a claim because it was before, because a worker's call has just put it there, or
because it came in so. -/
theorem claimed (m : f.Moves u g) (drawn : f.Draws u) {id : Uuid} {r : Row} {c : Claim}
    (there : g.table.find? id = some r) (own : r.claimedBy = some c) :
    (∃ s, f.table.find? id = some s ∧ s.lease = r.lease) ∨
      (∃ i reply ids due e, u = .serve i reply ∧ f.post i = .asking (.claiming ids due c e) ∧
        r.claimedUntil = some e) ∨ ∀ i, (f.post i).claim ≠ some c := by
  rcases m.table with same | ⟨op, does, after⟩
  · exact Or.inl ⟨r, same ▸ there, rfl⟩
  · rw [after] at there
    rcases Table.claimed_after there own with before | ⟨b, rfl, rfl, until_⟩ | new
    · exact Or.inl before
    · cases does with
      | outside => cases drawn.1
      | calls i reply phase c asking hc =>
        cases phase with
        | claiming ids due c e =>
          cases hc
          exact Or.inr (Or.inl ⟨i, reply, _, _, _, rfl, asking, until_⟩)
        | checking | selecting | fetching | reading | publishing | completing | poisoning
        | failing => cases hc
    · obtain rfl := does.outside_of_inserted new
      refine Or.inr (Or.inr fun i e => ?_)
      rcases drawn.2 r new with free | other
      · rw [free] at own
        cases own
      · exact other i (own.trans e.symm)

end Moves

namespace Timed

variable (h : f.Timed past) (m : f.Moves u g) (drawn : f.Draws u)

include h m drawn

theorem apart_step (i j : ι) (c : Claim) (hi : (g.post i).claim = some c)
    (hj : (g.post j).claim = some c) : i = j :=
  m.apart h.apart (fun i reading e draws => by subst e; exact (drawn draws).1) i j c hi hj

theorem asked_step (i : ι) (ids : List Uuid) (due : Due) (c : Claim) (e : Instant)
    (asks : g.post i = .asking (.claiming ids due c e)) : e = (workers i).expiry due ∧
      ∀ id r, g.table.find? id = some r → r.claimedBy ≠ some c := by
  rcases m.claiming asks with asking | ⟨reading, rfl, draws, rfl, now, expiry, same⟩
  · obtain ⟨time, free⟩ := h.asked i ids due c e asking
    refine ⟨time, fun id r there own => ?_⟩
    have mine : (f.post i).claim = some c := by rw [asking]; rfl
    rcases m.claimed drawn there own with ⟨s, before, lease⟩ |
      ⟨j, reply, ids', due', e', rfl, asking', -⟩ | other
    · exact free id s before ((congrArg Prod.fst lease).trans own)
    · -- the worker would have its answer by now
      obtain rfl := h.apart j i c (by rw [asking']; rfl) mine
      rcases m.post j with ⟨-, still⟩ | acts
      · rw [still rfl] at there
        exact free id r there own
      · cases acts with
        | serves reply phase =>
          rw [post_served_self] at asks
          exact Post.hearing_ne_asking _ asks
    · exact other i mine
  · refine ⟨by rw [expiry, ← now]; rfl, fun id r there own => ?_⟩
    rw [same] at there
    exact (drawn draws).2 r (Table.mem_of_find? there) own

theorem held_step (i : ι) (c : Claim) (holds : (g.post i).holding = some c) :
    ∃ ids due, Operation.call (.claim ids due c ((workers i).expiry due)) ∈
        past ++ (f.operation u).toList ∧
      ∀ id r, g.table.find? id = some r → r.claimedBy = some c →
        r.claimedUntil = some ((workers i).expiry due) := by
  rcases m.holding_new holds with holding | ⟨reply, ids, due, e, rfl, asking⟩
  · obtain ⟨ids, due, called, until_⟩ := h.held i c holding
    refine ⟨ids, due, List.mem_append_left _ called, fun id r there own => ?_⟩
    rcases m.claimed drawn there own with ⟨s, before, lease⟩ |
      ⟨j, reply, ids', due', e', rfl, asking, -⟩ | other
    · have until_ := until_ id s before ((congrArg Prod.fst lease).trans own)
      exact (congrArg Prod.snd lease).symm.trans until_
    · obtain rfl := h.apart j i c (by rw [asking]; rfl) (Post.claim_of_holding holding)
      rw [asking] at holding
      cases holding
    · exact absurd (Post.claim_of_holding holding) (other i)
  · obtain ⟨time, free⟩ := h.asked i ids due c e asking
    refine ⟨ids, due, List.mem_append_right _ ?_, fun id r there own => ?_⟩
    · have does : f.Does (.serve i reply) (.call (.claim ids due c e)) :=
        .calls i reply _ _ asking rfl
      rw [operation_eq_some.2 does, time]
      exact List.mem_singleton_self _
    · rcases m.claimed drawn there own with ⟨s, before, lease⟩ |
        ⟨j, reply', ids', due', e', same, asking', until_⟩ | other
      · exact absurd ((congrArg Prod.fst lease).trans own) (free id s before)
      · cases same
        rw [asking] at asking'
        cases asking'
        rw [until_, time]
      · exact absurd (by rw [asking]; rfl) (other i)

theorem step : g.Timed (past ++ (f.operation u).toList) where
  apart := h.apart_step m drawn
  asked := h.asked_step m drawn
  held := h.held_step m drawn

end Timed

theorem Fresh.timed_run (fresh : f.Fresh) {turns : List (Turn ι)}
    (drawn : Along (fun f u _ => f.Draws u) f turns) :
    (f.run turns).Timed (f.operations turns) :=
  run_keeps_past (I := Timed) (fun f _ u h drawn => h.step (f.moves u) drawn) fresh.timed drawn

/-! ## The second reading -/

/-- A row that a worker offers to the broker was read again before. -/
theorem exists_rereading (rests : f.post i = .resting) {turns : List (Turn ι)} {b : Batch}
    {row : Row} {span : PublishSpan}
    (offers : (f.run turns).post i = .asking (.publishing b row span)) :
    ∃ earlier reply later, turns = earlier ++ .serve i reply :: later ∧
      (f.run earlier).post i = .asking (.reading b row.id) ∧
      (f.run earlier).table.find? row.id = some row ∧ row.isTerminal = false ∧
      row.claimedBy = some b.claim := by
  -- the worker goes on from the answer
  obtain ⟨heard, u, later, rfl, acts, stands⟩ := exists_acts f turns
    (by rw [offers, rests]; exact nofun)
  rw [offers] at stands
  obtain ⟨id, told, alive, own⟩ : ∃ id, (f.run heard).post i =
      .told (.reading b id) (.ok (some row)) ∧ row.isTerminal = false ∧
        row.claimedBy = some b.claim := by
    obtain ⟨reading, told, answer, -, asked, -, next⟩ := acts.asking stands (by simp)
    have goes := (workers i).goes ((f.run heard).read reading) told answer
    rw [next] at goes
    cases goes with
    | offers b id row span alive own => exact ⟨id, asked, alive, own⟩
  -- and it was served before
  have answered : ∀ e, ((Phase.reading b id).request (workers i)).failure e ≠
      some (.ok (some row)) := by
    intro e failure
    cases failure
  obtain ⟨earlier, reply, later', rfl, asking, given⟩ := exists_serving rests told answered
  obtain ⟨-, found⟩ := Table.find?_of_get given
  obtain rfl := Table.id_of_find? found
  exact ⟨earlier, reply, later' ++ u :: later, by simp, asking, found, alive, own⟩

/-- **Rows are offered under the worker's own claim.** Whatever the order of the turns and however
the clock is set, a row that a worker offers to the broker was found when it was read again, and was
alive and under the worker's claim then; that claim was live just if the lease had not run out. If
new claims are nobody's, the lease is the one that the worker has called for. -/
theorem offered_rows_were_reread (fresh : f.Fresh) (turns : List (Turn ι)) {b : Batch} {row : Row}
    {span : PublishSpan} (offers : (f.run turns).post i = .asking (.publishing b row span)) :
    ∃ earlier reply later, turns = earlier ++ .serve i reply :: later ∧
      (f.run earlier).post i = .asking (.reading b row.id) ∧
      (f.run earlier).table.find? row.id = some row ∧ row.isTerminal = false ∧
      row.claimedBy = some b.claim ∧
      (row.isClaimedBy b.claim (f.run earlier).clock ↔ row.isLeased (f.run earlier).clock) ∧
      (Along (fun f u _ => f.Draws u) f turns → ∃ ids due,
        .call (.claim ids due b.claim ((workers i).expiry due)) ∈ f.operations earlier ∧
        row.claimedUntil = some ((workers i).expiry due)) := by
  obtain ⟨earlier, reply, later, rfl, asking, found, alive, own⟩ :=
    exists_rereading (fresh.resting i) offers
  refine ⟨earlier, reply, later, rfl, asking, found, alive, own, ?_, fun drawn => ?_⟩
  · simp [Row.isClaimedBy, own]
  · obtain ⟨ids, due, called, until_⟩ :=
      (fresh.timed_run (along_left drawn)).held i b.claim (by rw [asking]; rfl)
    exact ⟨ids, due, called, until_ row.id row found own⟩

end Fleet

/-! ## A courier that dawdles -/

namespace Office

/-- The row is claimed, and at some time after that it is read again and offered. -/
def dawdling (now : Instant) : List (Fleet.Turn Unit) :=
  approach () 1 ++ [.tick now, .serve () (.ok ()), .resume () reading]

end Office

namespace Fleet

open Office in
/-- The courier has called for the lease of the row that it offers. -/
theorem offered_rows_were_reread_staff :
    ∃ earlier reply later claim ids due, dawdling .epoch = earlier ++ .serve () reply :: later ∧
      Operation.call (.claim ids due claim (courier.expiry due)) ∈
        (staff Unit).operations earlier ∧
      copied.claimedBy = some claim ∧ copied.claimedUntil = some (courier.expiry due) := by
  have offering : (((staff Unit).run (dawdling .epoch)).post ()).offering = some copied := by
    decide +kernel
  obtain ⟨b, span, offers⟩ := Post.offering_eq_some.1 offering
  have drawn : Along (fun f u _ => f.Draws u) (staff Unit) (dawdling .epoch) := by decide +kernel
  obtain ⟨earlier, reply, later, split, -, -, -, own, -, leased⟩ :=
    offered_rows_were_reread fresh_staff (dawdling .epoch) offers
  obtain ⟨ids, due, called, until_⟩ := leased drawn
  exact ⟨earlier, reply, later, b.claim, ids, due, split, called, own, until_⟩

open Office in
/-- The lease of the row has run out when the row is read again, and the broker is offered it. -/
theorem lapsed_row_is_offered :
    let f := (staff Unit).run ((dawdling late).take 10)
    let g := f.run ((dawdling late).drop 10)
    f.table.find? known.id = some copied ∧
      copied.isClaimedBy (Claim.ofInstance "courier" (.ofNat 1)) f.clock = false ∧
      f.operation (.serve () (.ok ())) = some (.call (.get known.id)) ∧
      (g.post ()).offering = some copied := by
  decide +kernel

end Fleet

end Relay
