import Mathlib.Data.List.Induction
import Relay.Proofs.Table.Effect

/-!
# Leases

A `Bid` is a call that claims rows. It counts a row when its answer would be smaller if it did not
ask for that row (`Table.Counts`), and then the row is under its lease: the claim and the expiry of
the bid stand in the row. `Table.lease_exclusive` says that the lease is exclusive: until it has run
out only a requeue takes the row away, and nobody else counts the row or is given it.

The argument rests on two predicates that meet at the last instant of a lease: a row that is leased
at some time is not due then (`Row.lt_of_isDue`).
-/

namespace Relay

/-- A call that claims rows. -/
structure Bid where
  ids : List Uuid
  due : Due
  claim : Claim
  expiry : Instant

namespace Bid

/-- The call of a bid. -/
def call (b : Bid) : Call := .claim b.ids b.due b.claim b.expiry

/-- The bid that does not ask for a row. -/
def without (b : Bid) (id : Uuid) : Bid := { b with ids := b.ids.filter (· ≠ id) }

end Bid

namespace Row

/-- Who holds the row, and until when. -/
def lease (r : Row) : Option Claim × Option Instant := (r.claimedBy, r.claimedUntil)

/-- A row is due only after its lease has run out. -/
theorem lt_of_isDue {r : Row} {due : Due} {expiry : Instant} (h : r.isDue due)
    (until_ : r.claimedUntil = some expiry) : expiry < due.now := by
  simp only [isDue, isLeased, until_, Bool.and_eq_true, Bool.not_eq_true', decide_eq_false_iff_not]
    at h
  exact Instant.not_le.1 h.1.2

theorem not_isDue_heldBy (r : Row) {due : Due} {expiry : Instant} (h : due.now ≤ expiry)
    (claim : Claim) : (r.heldBy claim expiry).isDue due = false := by
  by_contra isDue
  exact Instant.not_le.2 (lt_of_isDue (by simpa using isDue) rfl) h

/-- A claim that has run out makes no difference to a row that is due. -/
theorem isDue_heldBy {r : Row} {due : Due} (isDue : r.isDue due) (claim : Claim) {expiry : Instant}
    (expired : expiry < due.now) : (r.heldBy claim expiry).isDue due := by
  simp only [Row.isDue, Bool.and_eq_true, Bool.not_eq_true'] at isDue ⊢
  obtain ⟨⟨⟨alive, ready⟩, -⟩, attempts⟩ := isDue
  exact ⟨⟨⟨alive, ready⟩, decide_eq_false (Instant.not_le.2 expired)⟩, attempts⟩

end Row

/-- A call that changes who holds a row requeues it, or claims it when it is due. -/
theorem Call.lease_effect (c : Call) (r : Row) :
    (c.effect r).lease = r.lease ∨ c = .requeue r.id ∨
      ∃ b : Bid, c = b.call ∧ r.id ∈ b.ids ∧ r.isDue b.due := by
  cases c with
  | claim ids due c expiry =>
    by_cases taken : r.id ∈ ids ∧ r.isDue due
    · exact Or.inr (Or.inr ⟨⟨ids, due, c, expiry⟩, rfl, taken⟩)
    · exact Or.inl (by rw [effect, if_neg taken])
  | requeue id =>
    by_cases e : r.id = id
    · exact Or.inr (Or.inl (by rw [e]))
    · exact Or.inl (by simp [effect, e])
  | markProcessed id now =>
    refine Or.inl ?_
    simp only [effect]
    split <;> rfl
  | markPoisoned id reason =>
    refine Or.inl ?_
    simp only [effect]
    split <;> rfl
  | recordFailure id a =>
    refine Or.inl ?_
    simp only [effect]
    split <;> rfl
  | insert | hasDue | selectDue | fetchClaimed | get | stats => exact Or.inl rfl

namespace Table

/-- Who holds the row of an id, and until when. -/
def lease (t : Table) (id : Uuid) : Option (Option Claim × Option Instant) :=
  (t.find? id).map Row.lease

/-- The number of rows that a bid takes, by its answer. -/
def taken (t : Table) (b : Bid) : Nat :=
  match (t.respond b.call).2 with
  | some (.ok n) => n
  | _ => 0

/-- The answer to a bid counts a row. -/
def Counts (t : Table) (b : Bid) (id : Uuid) : Prop := t.taken (b.without id) < t.taken b

/-- Through all of the operations the same claim holds the row of an id. -/
def LeaseLasts (t : Table) (id : Uuid) (ops : List Operation) : Prop :=
  ∀ done, done <+: ops → (t.run done).lease id = t.lease id

variable {t : Table} {id : Uuid}

/-! ## What a bid counts -/

/-- A table that works takes a row for a bid that asks for it while it is due. -/
def Takes (t : Table) (b : Bid) (id : Uuid) : Prop :=
  t.broken = false ∧ id ∈ b.ids ∧ ∃ r, t.find? id = some r ∧ r.isDue b.due

theorem count_claimOne (acc : Table × Nat) (due : Due) (claim : Claim) (expiry : Instant)
    (x : Uuid) :
    (claimOne due claim expiry acc x).2 =
      acc.2 + if ∃ r, acc.1.find? x = some r ∧ r.isDue due then 1 else 0 := by
  cases h : acc.1.find? x with
  | none => simp [claimOne, h]
  | some r => by_cases isDue : r.isDue due <;> simp [claimOne, h, isDue]

/-- How much more is counted when a row is asked for as well: nothing if it is not due, and no more
than one if the claim outlasts the time of the bid. -/
theorem count_foldl_claimOne (due : Due) (claim : Claim) (expiry : Instant) (ids : List Uuid)
    (acc acc' : Table × Nat) (off : ∀ x, x ≠ id → acc.1.find? x = acc'.1.find? x) :
    ∃ k, (ids.foldl (claimOne due claim expiry) acc).2 + acc'.2 =
        ((ids.filter (· ≠ id)).foldl (claimOne due claim expiry) acc').2 + acc.2 + k ∧
      (0 < k ↔ id ∈ ids ∧ ∃ r, acc.1.find? id = some r ∧ r.isDue due) ∧
      (due.now ≤ expiry → k ≤ 1) := by
  induction ids generalizing acc acc' with
  | nil => exact ⟨0, by simp [Nat.add_comm], by simp, by simp⟩
  | cons x ids ih =>
    have step := count_claimOne acc due claim expiry x
    have found := fun y => find?_claimOne acc due claim expiry x y
    by_cases e : x = id
    · subst e
      have off' : ∀ y, y ≠ x → (claimOne due claim expiry acc x).1.find? y = acc'.1.find? y := by
        intro y ne
        rw [find?_claimOne_of_ne acc due claim expiry ne, off y ne]
      obtain ⟨k, count, counted, once⟩ := ih _ _ off'
      have dropped : (x :: ids).filter (· ≠ x) = ids.filter (· ≠ x) := by simp
      rw [List.foldl_cons, dropped]
      by_cases taken : ∃ r, acc.1.find? x = some r ∧ r.isDue due
      · rw [if_pos taken] at step
        obtain ⟨r, hr, isDue⟩ := taken
        refine ⟨k + 1, by omega, by simp [hr, isDue], fun outlasts => ?_⟩
        -- the lease that was just given keeps the row from being counted again
        have rests : ¬ 0 < k := by
          rw [counted, found x, hr, Option.map_some, if_pos ⟨id_of_find? hr, isDue⟩]
          rintro ⟨-, r', hr', isDue'⟩
          rw [← Option.some.inj hr', Row.not_isDue_heldBy r outlasts claim] at isDue'
          cases isDue'
        omega
      · rw [if_neg taken] at step
        have same : (claimOne due claim expiry acc x).1.find? x = acc.1.find? x := by
          rw [found x, map_find?_self fun r hr => if_neg fun h => taken ⟨r, hr, h.2⟩]
        rw [same] at counted
        refine ⟨k, by omega, counted.trans ⟨fun h => absurd h.2 taken, fun h => absurd h.2 taken⟩,
          once⟩
    · have step' := count_claimOne acc' due claim expiry x
      rw [← off x e] at step'
      have off' : ∀ y, y ≠ id →
          (claimOne due claim expiry acc x).1.find? y =
            (claimOne due claim expiry acc' x).1.find? y := by
        intro y ne
        rw [found y, find?_claimOne acc' due claim expiry x y, off y ne]
      have same : (claimOne due claim expiry acc x).1.find? id = acc.1.find? id :=
        find?_claimOne_of_ne acc due claim expiry (Ne.symm e)
      obtain ⟨k, count, counted, once⟩ := ih _ _ off'
      have kept : (x :: ids).filter (· ≠ id) = x :: ids.filter (· ≠ id) := by simp [e]
      rw [List.foldl_cons, kept, List.foldl_cons]
      rw [same] at counted
      exact ⟨k, by omega, by rw [counted]; simp [Ne.symm e], once⟩

/-- What a bid takes beside a row, and what it takes of it. -/
theorem taken_eq (t : Table) (b : Bid) (id : Uuid) :
    ∃ k, t.taken b = t.taken (b.without id) + k ∧ (0 < k ↔ t.Takes b id) ∧
      (b.due.now ≤ b.expiry → k ≤ 1) := by
  by_cases broken : t.broken
  · exact ⟨0, by simp [taken, respond, broken], by simp [Takes, broken], by simp⟩
  · obtain ⟨k, count, counted, once⟩ :=
      count_foldl_claimOne b.due b.claim b.expiry b.ids (t, 0) (t, 0) fun _ _ => rfl
    refine ⟨k, ?_, ?_, once⟩
    · simpa [taken, respond, broken, answer, Bid.call, Bid.without] using count
    · simpa [Takes, broken] using counted

/-- A bid counts just the rows that it takes. -/
theorem counts_iff (t : Table) (b : Bid) (id : Uuid) : t.Counts b id ↔ t.Takes b id := by
  obtain ⟨k, count, counted, -⟩ := t.taken_eq b id
  rw [Counts, count, ← counted]
  omega

/-! ## While a lease lasts -/

variable {c : Claim} {u : Instant}

theorem lease_eq_some : t.lease id = some (some c, some u) ↔
    ∃ r, t.find? id = some r ∧ r.claimedBy = some c ∧ r.claimedUntil = some u := by
  simp [lease, Row.lease, Option.map_eq_some_iff]

/-- A bid puts the rows that it takes under its lease. -/
theorem lease_of_takes {b : Bid} (h : t.Takes b id) :
    (t.after (.call b.call)).lease id = some (some b.claim, some b.expiry) := by
  obtain ⟨works, mem, r, there, isDue⟩ := h
  have answered : (t.after (.call b.call)).find? id = some (b.call.effect r) := by
    simp only [after, respond, works, Bid.call, Bool.false_eq_true, if_false]
    exact find?_answer there b.call
  rw [lease, answered, Option.map_some, Bid.call, Call.effect,
    if_pos ⟨(id_of_find? there).symm ▸ mem, isDue⟩]
  rfl

/-- The only ways out of a lease: a requeue, and a bid after its end. -/
theorem lease_after (held : t.lease id = some (some c, some u)) (op : Operation) :
    (t.after op).lease id = t.lease id ∨ op = .call (.requeue id) ∨
      ∃ b : Bid, op = .call b.call ∧ id ∈ b.ids ∧ u < b.due.now := by
  obtain ⟨r, there, -, until_⟩ := lease_eq_some.1 held
  have e := id_of_find? there
  rcases find?_after there op with same | changed
  · exact Or.inl (by rw [lease, lease, same, there])
  · cases op with
    | commit w => exact Or.inl (by rw [lease, lease, changed, there]; rfl)
    | call call =>
      rcases call.lease_effect r with same | rfl | ⟨b, rfl, mem, isDue⟩
      · refine Or.inl ?_
        rw [lease, lease, changed, there, Option.map_some, Option.map_some]
        exact congrArg some same
      · exact Or.inr (Or.inl (by rw [e]))
      · exact Or.inr (Or.inr ⟨b, rfl, e ▸ mem, Row.lt_of_isDue isDue until_⟩)

/-- A bid within a lease overlooks the row. -/
theorem taken_of_lease (held : t.lease id = some (some c, some u)) {b : Bid} (h : b.due.now ≤ u) :
    t.taken b = t.taken (b.without id) := by
  obtain ⟨r, there, -, until_⟩ := lease_eq_some.1 held
  obtain ⟨k, count, counted, -⟩ := t.taken_eq b id
  have untaken : ¬ t.Takes b id := by
    rintro ⟨-, -, r', there', isDue⟩
    obtain rfl := Option.some.inj (there.symm.trans there')
    exact Instant.not_le.2 (Row.lt_of_isDue isDue until_) h
  rw [← counted] at untaken
  omega

/-- A row under a claim is not read back under another one. -/
theorem ne_of_mem_fetchClaimed (keyed : t.Keyed) (held : t.lease id = some (some c, some u))
    {c' : Claim} (ne : c' ≠ c) {now : Instant} {rows : List Row}
    (h : (t.respond (.fetchClaimed c' now)).2 = some (.ok rows)) : ∀ r ∈ rows, r.id ≠ id := by
  rintro r mem rfl
  obtain ⟨s, there, claimed, -⟩ := lease_eq_some.1 held
  by_cases broken : t.broken
  · simp [respond, broken] at h
  · simp only [respond, broken, answer, Bool.false_eq_true, if_false, Option.some.injEq,
      Except.ok.injEq] at h
    subst h
    rw [oldestFirst, List.mem_mergeSort, List.mem_filter] at mem
    obtain ⟨mem, isClaimed⟩ := mem
    obtain rfl := Option.some.inj ((keyed.find?_eq mem).symm.trans there)
    simp only [Row.isClaimedBy, claimed, Option.some.injEq, Bool.and_eq_true, decide_eq_true_eq]
      at isClaimed
    exact ne isClaimed.1.symm

/-- A lease lasts as long as nobody requeues the row and nobody bids for it later than its end. -/
theorem leaseLasts_of_bids (held : t.lease id = some (some c, some u)) {ops : List Operation}
    (kept : .call (.requeue id) ∉ ops)
    (early : ∀ b : Bid, .call b.call ∈ ops → id ∈ b.ids → b.due.now ≤ u) : t.LeaseLasts id ops := by
  intro done
  induction done using List.reverseRecOn with
  | nil => exact fun _ => rfl
  | append_singleton done op ih =>
    intro pre
    have lasts := ih ((List.prefix_append done [op]).trans pre)
    have mem : op ∈ ops := pre.subset (by simp)
    rw [run_concat]
    rcases lease_after (lasts.trans held) op with same | rfl | ⟨b, rfl, asked, late⟩
    · exact same.trans lasts
    · exact absurd mem kept
    · exact absurd (early b mem asked) (Instant.not_le.2 late)

/-- **A lease is exclusive.** Once a bid counts a row of a table that was filled and used in any
way, the row is under its lease, and

* the first operation that changes who holds the row, or until when, requeues it or is a bid at a
  time after the expiry;
* until then no other bid at a time up to the expiry counts the row, and nobody reads it back under
  another claim;
* of bids for the row at times up to the expiry just the first one counts it, and only once. -/
theorem lease_exclusive (earlier : List Operation) (b : Bid) (id : Uuid)
    (counted : (run {} earlier).Counts b id) :
    let t := (run {} earlier).after (.call b.call)
    t.lease id = some (some b.claim, some b.expiry) ∧
    (∀ later op, t.LeaseLasts id later →
      ((t.run later).after op).lease id ≠ (t.run later).lease id →
      op = .call (.requeue id) ∨
        ∃ b' : Bid, op = .call b'.call ∧ id ∈ b'.ids ∧ b.expiry < b'.due.now) ∧
    (∀ later, t.LeaseLasts id later →
      (∀ b' : Bid, b'.due.now ≤ b.expiry →
        (t.run later).taken b' = (t.run later).taken (b'.without id)) ∧
      ∀ c now rows, c ≠ b.claim →
        ((t.run later).respond (.fetchClaimed c now)).2 = some (.ok rows) → ∀ r ∈ rows, r.id ≠ id) ∧
    (b.due.now ≤ b.expiry → (run {} earlier).taken b = (run {} earlier).taken (b.without id) + 1) ∧
    (∀ later, .call (.requeue id) ∉ later →
      (∀ b' : Bid, .call b'.call ∈ later → id ∈ b'.ids → b'.due.now ≤ b.expiry) →
      ∀ done (b' : Bid) rest, later = done ++ .call b'.call :: rest →
        (t.run done).taken b' = (t.run done).taken (b'.without id)) := by
  intro t
  have takes := ((run {} earlier).counts_iff b id).1 counted
  have held : t.lease id = some (some b.claim, some b.expiry) := lease_of_takes takes
  have keyed : ∀ later, (t.run later).Keyed := fun later =>
    ((keyed_empty.run earlier).after _).run later
  have still : ∀ {later}, t.LeaseLasts id later →
      (t.run later).lease id = some (some b.claim, some b.expiry) := fun {later} lasts =>
    (lasts later (List.prefix_refl later)).trans held
  refine ⟨held, fun later op lasts changed => ?_, fun later lasts => ⟨fun b' early => ?_, ?_⟩,
    fun outlasts => ?_, fun later kept early done b' rest e => ?_⟩
  · exact (lease_after (still lasts) op).resolve_left changed
  · exact taken_of_lease (still lasts) early
  · exact fun c now rows ne h => ne_of_mem_fetchClaimed (keyed later) (still lasts) ne h
  · obtain ⟨k, count, counted', once⟩ := (run {} earlier).taken_eq b id
    have := counted'.2 takes
    have := once outlasts
    omega
  · have lasts := leaseLasts_of_bids held kept early done ⟨_, e.symm⟩
    obtain ⟨k, count, counted', -⟩ := (t.run done).taken_eq b' id
    by_cases asked : id ∈ b'.ids
    · exact taken_of_lease (lasts.trans held) (early b' (by simp [e]) asked)
    · have untaken : ¬ (t.run done).Takes b' id := fun takes' => asked takes'.2.1
      rw [← counted'] at untaken
      omega

/-- A bid for a row under a claim of one minute. -/
def minuteBid (claim : Claim) : Bid where
  ids := [.ofNat 1]
  due := ⟨.epoch, 5⟩
  claim
  expiry := Instant.epoch.after (.ofSeconds 60)

/-- Of two bids for a new row the first one counts it and the second one does not. -/
theorem lease_exclusive_two_bids :
    (run {} [.call (.insert (.sample 1))]).Counts (minuteBid "a/1") (.ofNat 1) ∧
      ((run {} [.call (.insert (.sample 1))]).after (.call (minuteBid "a/1").call)).taken
          (minuteBid "b/1") =
        ((run {} [.call (.insert (.sample 1))]).after (.call (minuteBid "a/1").call)).taken
          ((minuteBid "b/1").without (.ofNat 1)) := by
  have counted : (run {} [.call (.insert (.sample 1))]).Counts (minuteBid "a/1") (.ofNat 1) := by
    unfold Counts
    decide
  have early : (minuteBid "b/1").due.now ≤ (minuteBid "a/1").expiry := by decide
  refine ⟨counted, ?_⟩
  have window := (lease_exclusive _ _ _ counted).2.2.1 [] fun done h => by
    rw [List.prefix_nil.1 h, run_nil]
  exact window.1 _ early

end Table

end Relay
