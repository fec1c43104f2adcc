import Relay.Proofs.Fleet.Lease
import Relay.Proofs.Table.Granted

/-!
# What workers have to do

The rows of its batch that a worker has no outcome of yet are its `Post.pending` rows. While the
clock stands still, no call fails and the broker takes everything, they are exactly the rows of the
table that the worker has to see to: alive, under its claim and leased (`Post.Hand`).

The worker's own steps keep that (`Post.Hand.serve`, `Post.Hand.resume`), and so do the calls of
others, since a call changes only rows that are due or its caller's own
(`Post.Hand.effect_cases`, `Post.Hand.spared`).
-/

namespace Relay

/-! ## Finding nothing -/

namespace Worker

variable {w : Worker} {r : Reading}

theorem nextRow_ne_idle (acts : List Act) (b : Batch) (r : Reading) :
    (nextRow acts b r).progress ≠ .finished .idle := by
  unfold nextRow
  split
  · simp [finish]
  · split
    · simp [finish]
    · simp

theorem settleIn_ne_idle (span : PublishSpan) (acts : List Act) (b : Batch) (outcome : RowOutcome)
    (r : Reading) : (settleIn span acts b outcome r).progress ≠ .finished .idle :=
  nextRow_ne_idle _ _ r

/-- **An iteration finds nothing** only if the table answered that nothing was due. -/
theorem eq_checking_of_idle {p : Phase} {a : (p.request w).Answer}
    (h : (w.resume r p a).progress = .finished .idle) :
    ∃ due, (Post.told p a : Post w) = .told (.checking due) (.ok false) := by
  cases p with
  | checking due =>
    rcases a with e | (_ | _)
    · simp [resume, checked, stop] at h
    · exact ⟨due, rfl⟩
    · simp [resume, checked] at h
  | selecting due => rcases a with e | (_ | ⟨id, ids⟩) <;> simp [resume, selected, stop] at h
  | claiming ids due claim expiry =>
    rcases a with e | (_ | n) <;> simp [resume, claimed, stop] at h
  | fetching claim count now =>
    rcases a with e | rows
    · simp [resume, fetched, stop] at h
    · exact absurd h (nextRow_ne_idle _ _ r)
  | reading b id =>
    rcases a with e | (_ | row)
    · exact absurd h (nextRow_ne_idle _ _ r)
    · exact absurd h (nextRow_ne_idle _ _ r)
    · simp only [resume, reread] at h
      split at h
      · exact absurd h (nextRow_ne_idle _ _ r)
      · rcases w.dispatch_progress b row (w.sink.start row r.spanIds) with
          ⟨-, e⟩ | ⟨-, reason, detail, e⟩
        · rw [e] at h
          cases h
        · rw [e] at h
          cases h
  | publishing b row span =>
    rcases a with (reason | reason) | ⟨⟩
    · cases h
    · simp only [resume, published] at h
      split at h
      · exact absurd h (settleIn_ne_idle _ _ _ _ r)
      · cases h
    · cases h
  | completing b row span now =>
    rcases a with e | applied <;> exact absurd h (settleIn_ne_idle _ _ _ _ r)
  | poisoning b row span reason detail =>
    rcases a with e | (_ | _) <;> exact absurd h (settleIn_ne_idle _ _ _ _ r)
  | failing b row span attempt retryAt reason =>
    rcases a with e | (_ | _)
    · exact absurd h (settleIn_ne_idle _ _ _ _ r)
    · exact absurd h (settleIn_ne_idle _ _ _ _ r)
    · simp only [resume, failed] at h
      split at h <;> exact absurd h (settleIn_ne_idle _ _ _ _ r)

end Worker

/-! ## Rows that a claim holds -/

namespace Table

/-- The row of an id is alive, and a live claim holds it. -/
def Holds (t : Table) (now : Instant) (c : Claim) (x : Uuid) : Prop :=
  ∃ r, t.find? x = some r ∧ r.isTerminal = false ∧ r.isClaimedBy c now

variable {t t' : Table} {now : Instant} {c c' : Claim} {x : Uuid} {r : Row}

theorem Holds.claim_eq (h : t.Holds now c x) (h' : t.Holds now c' x) : c = c' := by
  obtain ⟨r, there, -, own⟩ := h
  obtain ⟨r', there', -, own'⟩ := h'
  obtain rfl := Option.some.inj (there.symm.trans there')
  simp only [Row.isClaimedBy, Bool.and_eq_true, decide_eq_true_eq] at own own'
  exact Option.some.inj (own.1.symm.trans own'.1)

/-- A row that a live claim holds is not due. -/
theorem not_isDue_of_isClaimedBy {due : Due} (h : r.isClaimedBy c due.now) :
    r.isDue due = false := by
  simp only [Row.isClaimedBy, Bool.and_eq_true] at h
  simp [Row.isDue, h.2]

/-- A change spares the rows of a claim: it puts no row under the claim, and leaves alone those that
the claim holds. -/
structure Spares (now : Instant) (c : Claim) (t t' : Table) : Prop where
  adds_none : ∀ x r, t'.find? x = some r → r.claimedBy = some c → t.find? x = some r
  leaves : ∀ x, t.Holds now c x → t'.find? x = t.find? x

theorem Holds.spared (h : t.Holds now c x) (spares : Spares now c t t') : t'.Holds now c x := by
  obtain ⟨r, there, alive, own⟩ := h
  exact ⟨r, (spares.leaves x ⟨r, there, alive, own⟩).trans there, alive, own⟩

end Table

namespace Phase

/-- What a worker knows when it asks: which rows are due, that nobody has a row under its claim
before it makes it and that the rows under its claim are alive before it reads them, that its copy
of a row is the stored row, and what the registry says about it. -/
def Informed (registry : Registry) (due : Due) (t : Table) : Phase → Prop
  | .checking d | .selecting d => d = due
  | .claiming _ d c _ => d = due ∧ ∀ x r, t.find? x = some r → r.claimedBy ≠ some c
  | .fetching c _ now => now = due.now ∧ ∀ x r, t.find? x = some r → r.claimedBy = some c →
    r.isTerminal = false
  | .reading _ _ => True
  | .publishing _ row _ | .completing _ row _ _ => t.find? row.id = some row ∧ registry.Accepts row
  | .poisoning _ row _ _ _ => t.find? row.id = some row ∧ ¬ registry.Accepts row
  | .failing _ _ _ _ _ _ => False

/-- What a worker knows when it has the answer. -/
def Answered {w : Worker} (registry : Registry) (due : Due) (t : Table) :
    (phase : Phase) → (phase.request w).Answer → Prop
  | .checking _, a => ∃ b, a = .ok b
  | .selecting _, a => ∃ ids, a = .ok ids
  | .claiming _ _ c _, a => ∃ n, a = .ok n ∧ ∀ x r, t.find? x = some r → r.claimedBy = some c →
    r.isTerminal = false ∧ (r.isLeased due.now → 0 < n)
  | .fetching _ _ _, a => ∃ rows, a = .ok rows
  | .reading _ id, a => a = .ok (t.find? id)
  | .publishing _ row _, a => a = .ok () ∧ t.find? row.id = some row ∧ registry.Accepts row
  | .completing _ _ _ _, a | .poisoning _ _ _ _ _, a => ∃ b, a = .ok b
  | .failing _ _ _ _ _ _, _ => False

end Phase

namespace Post

variable {w : Worker}

/-- Whether a worker has claimed rows and has not read them yet. -/
def isAwaiting : Post w → Bool
  | .told (.claiming _ _ _ _) (.ok n) => 0 < n
  | .asking (.fetching _ _ _) => true
  | _ => false

/-- The rows of its batch that a worker has no outcome of yet. -/
def pending : Post w → List Uuid
  | .told (.fetching _ _ _) (.ok rows) => rows.map Row.id
  | .asking (.reading b id) | .told (.reading b id) _ => id :: b.waiting
  | .asking (.publishing b row _) | .told (.publishing b row _) _ | .asking (.completing b row _ _)
  | .asking (.poisoning b row _ _ _) | .asking (.failing b row _ _ _ _) => row.id :: b.waiting
  | .told (.completing b _ _ _) _ | .told (.poisoning b _ _ _ _) _
  | .told (.failing b _ _ _ _ _) _ => b.waiting
  | _ => []

@[simp] theorem pending_next (b : Batch) : (of b.next : Post w).pending = b.waiting := by
  unfold Batch.next
  split <;> rename_i h <;> rw [h] <;> rfl

theorem claim_next {b : Batch} {x : Uuid} (h : x ∈ b.waiting) :
    (of b.next : Post w).claim = some b.claim := by
  unfold Batch.next
  split <;> rename_i e
  · rw [e] at h
    cases h
  · rfl

/-- A worker knows what there is to know. -/
def Regular (registry : Registry) (due : Due) (t : Table) : Post w → Prop
  | .resting => True
  | .asking phase => phase.Informed registry due t
  | .told phase a => phase.Answered registry due t a
  | .gone => False

/-- A worker is regular, and its claim holds the rows that it has no outcome of yet. -/
structure Hand (registry : Registry) (due : Due) (t : Table) (p : Post w) : Prop where
  regular : p.Regular registry due t
  nodup : p.pending.Nodup
  held : ∀ x ∈ p.pending, ∃ c, p.claim = some c ∧ t.Holds due.now c x

variable {registry : Registry} {due : Due} {t t' : Table} {p : Post w} {phase : Phase}

theorem hand_resting : (.resting : Post w).Hand registry due t where
  regular := trivial
  nodup := List.nodup_nil
  held x mem := by cases mem

/-! ## What others do -/

/-- What spares the rows of its claim makes no difference to a worker. -/
theorem Hand.spared (h : p.Hand registry due t)
    (spares : ∀ c, p.claim = some c → Table.Spares due.now c t t') :
    p.Hand registry due t' where
  nodup := h.nodup
  held x mem := by
    obtain ⟨c, hc, holds⟩ := h.held x mem
    exact ⟨c, hc, holds.spared (spares c hc)⟩
  regular := by
    have regular := h.regular
    -- the row that comes first among those that the worker has no outcome of
    have first : ∀ x, x ∈ p.pending → t'.find? x = t.find? x := by
      intro x mem
      obtain ⟨c, hc, holds⟩ := h.held x mem
      exact (spares c hc).leaves x holds
    cases p with
    | resting => trivial
    | gone => exact regular
    | asking phase =>
      cases phase with
      | checking | selecting | reading | failing => exact regular
      | claiming ids d c expiry =>
        refine ⟨regular.1, fun x r there own => ?_⟩
        exact regular.2 x r ((spares c rfl).adds_none x r there own) own
      | fetching c count now =>
        refine ⟨regular.1, fun x r there own => ?_⟩
        exact regular.2 x r ((spares c rfl).adds_none x r there own) own
      | publishing b row span => exact ⟨(first _ List.mem_cons_self).trans regular.1, regular.2⟩
      | completing b row span now => exact ⟨(first _ List.mem_cons_self).trans regular.1, regular.2⟩
      | poisoning b row span reason detail =>
        exact ⟨(first _ List.mem_cons_self).trans regular.1, regular.2⟩
    | told phase a =>
      cases phase with
      | checking | selecting | fetching | completing | poisoning | failing => exact regular
      | claiming ids d c expiry =>
        obtain ⟨n, answered, under⟩ := regular
        refine ⟨n, answered, fun x r there own => ?_⟩
        exact under x r ((spares c rfl).adds_none x r there own) own
      | reading b id =>
        have same := first id List.mem_cons_self
        exact Eq.trans regular (by rw [same])
      | publishing b row span =>
        obtain ⟨taken, there, accepted⟩ := regular
        exact ⟨taken, (first _ List.mem_cons_self).trans there, accepted⟩

/-- **A worker's call changes** only a row that is due, which it claims, or one that the worker's
claim holds, which stays under the claim. -/
theorem Hand.effect_cases (h : (asking phase : Post w).Hand registry due t) {k : Call}
    (hk : phase.request w = .store k) {x : Uuid} {r : Row} (there : t.find? x = some r) :
    k.effect r = r ∨
      (∃ ids d c expiry, phase = .claiming ids d c expiry ∧ r.isDue due ∧
        k.effect r = r.heldBy c expiry) ∨
      ∃ c, phase.claim = some c ∧ t.Holds due.now c x ∧ (k.effect r).claimedBy = some c := by
  -- an outcome is recorded of a row that the claim holds
  have own : ∀ b : Batch, phase.claim = some b.claim → x ∈ (asking phase : Post w).pending →
      (k.effect r).claimedBy = r.claimedBy →
        ∃ c, phase.claim = some c ∧ t.Holds due.now c x ∧ (k.effect r).claimedBy = some c := by
    intro b hb mem same
    obtain ⟨c, hc, r', there', alive, own⟩ := h.held x mem
    obtain rfl := Option.some.inj (there.symm.trans there')
    refine ⟨c, hc, ⟨r, there, alive, own⟩, ?_⟩
    simp only [Row.isClaimedBy, Bool.and_eq_true, decide_eq_true_eq] at own
    exact same.trans own.1
  cases phase with
  | checking | selecting | fetching | reading =>
    cases hk
    exact Or.inl rfl
  | publishing => cases hk
  | failing => exact h.regular.elim
  | claiming ids d c expiry =>
    cases hk
    obtain ⟨rfl, -⟩ := h.regular
    by_cases taken : r.id ∈ ids ∧ r.isDue d
    · exact Or.inr (Or.inl ⟨ids, d, c, expiry, rfl, taken.2, if_pos taken⟩)
    · exact Or.inl (if_neg taken)
  | completing b row span now =>
    cases hk
    by_cases mine : r.id = row.id ∧ r.isTerminal = false
    · refine Or.inr (Or.inr (own b rfl ?_ ?_))
      · rw [← Table.id_of_find? there, mine.1]
        exact List.mem_cons_self
      · rw [Call.effect, if_pos mine]
    · exact Or.inl (if_neg mine)
  | poisoning b row span reason detail =>
    cases hk
    by_cases mine : r.id = row.id ∧ r.isTerminal = false
    · refine Or.inr (Or.inr (own b rfl ?_ ?_))
      · rw [← Table.id_of_find? there, mine.1]
        exact List.mem_cons_self
      · rw [Call.effect, if_pos mine]
    · exact Or.inl (if_neg mine)

/-- A call that a worker makes adds no row and counts no attempt. -/
theorem Hand.call (h : (asking phase : Post w).Hand registry due t) {k : Call}
    (hk : phase.request w = .store k) :
    (∀ row, k ≠ .insert row) ∧ ∀ id a, k ≠ .recordFailure id a := by
  cases phase with
  | checking | selecting | claiming | fetching | reading | completing | poisoning =>
    cases hk
    exact ⟨by simp, by simp⟩
  | publishing => cases hk
  | failing => exact h.regular.elim

/-- A worker's call spares the rows of other claims. -/
theorem Hand.spares (h : (asking phase : Post w).Hand registry due t) {k : Call}
    (hk : phase.request w = .store k) {c : Claim} (ne : phase.claim ≠ some c) :
    Table.Spares due.now c t (t.answer k).1 where
  adds_none x r there own := by
    rw [t.find?_answer_map (h.call hk).1, Option.map_eq_some_iff] at there
    obtain ⟨s, before, rfl⟩ := there
    rcases h.effect_cases hk before with
      same | ⟨ids, d, c', expiry, rfl, -, taken⟩ | ⟨c', hc', -, mine⟩
    · rw [same, before]
    · rw [taken] at own
      exact absurd own ne
    · exact absurd (hc'.trans (mine.symm.trans own)) ne
  leaves x holds := by
    obtain ⟨r, there, alive, own⟩ := holds
    rw [t.find?_answer_map (h.call hk).1, there, Option.map_some]
    rcases h.effect_cases hk there with same | ⟨-, -, -, -, -, isDue, -⟩ | ⟨c', hc', holds', -⟩
    · rw [same]
    · rw [Table.not_isDue_of_isClaimedBy own] at isDue
      cases isDue
    · obtain rfl := Table.Holds.claim_eq ⟨r, there, alive, own⟩ holds'
      exact absurd hc' ne

/-! ## What a worker does itself -/

/-- A table that works answers a worker and goes on working. -/
theorem Hand.serve_eq (h : (asking phase : Post w).Hand registry due t)
    (works : t.broken = false) {k : Call} (hk : phase.request w = .store k)
    (reply : Except Refusal Unit) :
    (Request.store k).serve t reply = ((t.answer k).1, some (t.answer k).2) :=
  Table.respond_eq_answer works (h.call hk).2

/-- The rows of a claim that are read are those that it holds. -/
theorem mem_fetched (keyed : t.Keyed) {c : Claim} {now : Instant} {x : Uuid} :
    x ∈ (Table.oldestFirst (t.rows.filter (·.isClaimedBy c now))).map Row.id ↔
      ∃ r, t.find? x = some r ∧ r.isClaimedBy c now := by
  simp only [Table.oldestFirst, List.mem_map, List.mem_mergeSort, List.mem_filter]
  constructor
  · rintro ⟨r, ⟨mem, own⟩, rfl⟩
    exact ⟨r, keyed.find?_eq mem, own⟩
  · rintro ⟨r, there, own⟩
    exact ⟨r, ⟨Table.mem_of_find? there, own⟩, Table.id_of_find? there⟩

theorem nodup_fetched (keyed : t.Keyed) (c : Claim) (now : Instant) :
    ((Table.oldestFirst (t.rows.filter (·.isClaimedBy c now))).map Row.id).Nodup := by
  have perm := (List.mergeSort_perm (t.rows.filter (·.isClaimedBy c now))
    fun a b => !b.precedes a).map Row.id
  have sub : ((t.rows.filter (·.isClaimedBy c now)).map Row.id).Sublist (t.rows.map Row.id) :=
    List.filter_sublist.map Row.id
  exact perm.nodup_iff.2 (sub.nodup keyed)

/-- The rows that come after the one whose outcome is recorded are still held. -/
theorem Hand.held_after (h : (asking phase : Post w).Hand registry due t) {k : Call} {b : Batch}
    {row : Row} (pending : (asking phase : Post w).pending = row.id :: b.waiting)
    (claim : phase.claim = some b.claim) (others : ∀ r : Row, r.id ≠ row.id → k.effect r = r)
    (x : Uuid) (mem : x ∈ b.waiting) : (t.answer k).1.Holds due.now b.claim x := by
  obtain ⟨c, hc, r, there, alive, own⟩ := h.held x (by rw [pending]; exact .tail _ mem)
  obtain rfl : b.claim = c := Option.some.inj (claim.symm.trans hc)
  have nodup := h.nodup
  rw [pending, List.nodup_cons] at nodup
  have other : r.id ≠ row.id := by
    intro e
    rw [← e, Table.id_of_find? there] at nodup
    exact nodup.1 mem
  refine ⟨r, ?_, alive, own⟩
  rw [Table.find?_answer there, others r other]

/-- The answer to a claim counts the rows that are under the claim afterwards. -/
theorem claimed_of_unclaimed (works : t.broken = false) {ids : List Uuid} {d : Due} {c : Claim}
    {expiry : Instant} (unclaimed : ∀ x r, t.find? x = some r → r.claimedBy ≠ some c) {x : Uuid}
    {r : Row} (there : (t.answer (.claim ids d c expiry)).1.find? x = some r)
    (own : r.claimedBy = some c) :
    r.isTerminal = false ∧ ∃ n, (t.answer (.claim ids d c expiry)).2 = .ok n ∧ 0 < n := by
  rw [t.find?_answer_map (by simp), Option.map_eq_some_iff] at there
  obtain ⟨s, before, rfl⟩ := there
  by_cases taken : s.id ∈ ids ∧ s.isDue d
  · have alive : s.isTerminal = false := by
      have isDue := taken.2
      simp only [Row.isDue, Bool.and_eq_true, Bool.not_eq_true'] at isDue
      exact isDue.1.1.1
    refine ⟨?_, _, rfl, ?_⟩
    · rw [Call.effect, if_pos taken]
      exact alive
    · obtain ⟨k, count, counted, -⟩ := t.taken_eq ⟨ids, d, c, expiry⟩ s.id
      have positive := counted.2 ⟨works, taken.1, s, Table.id_of_find? before ▸ before, taken.2⟩
      have answer : t.taken ⟨ids, d, c, expiry⟩ =
          (ids.foldl (Table.claimOne d c expiry) (t, 0)).2 := by
        simp [Table.taken, Bid.call, Table.respond, works, Table.answer]
      show 0 < (ids.foldl (Table.claimOne d c expiry) (t, 0)).2
      rw [← answer, count]
      exact Nat.lt_of_lt_of_le positive (Nat.le_add_left _ _)
  · rw [Call.effect, if_neg taken] at own
    exact absurd own (unclaimed x s before)

/-- **A worker that is served** is regular again, and its claim holds the rows that it has no
outcome of yet. -/
theorem Hand.serve (h : (asking phase : Post w).Hand registry due t) (works : t.broken = false)
    (keyed : t.Keyed) :
    (hearing phase ((phase.request w).serve t (.ok ())).2 : Post w).Hand registry due
      ((phase.request w).serve t (.ok ())).1 := by
  cases phase with
  | checking d =>
    rw [h.serve_eq works rfl]
    exact ⟨⟨_, rfl⟩, List.nodup_nil, fun x mem => by cases mem⟩
  | selecting d =>
    rw [h.serve_eq works rfl]
    exact ⟨⟨_, rfl⟩, List.nodup_nil, fun x mem => by cases mem⟩
  | claiming ids d c expiry =>
    rw [h.serve_eq works rfl]
    refine ⟨⟨_, rfl, fun x r there own => ?_⟩, List.nodup_nil, fun x mem => by cases mem⟩
    obtain ⟨alive, n, answer, positive⟩ := claimed_of_unclaimed works h.regular.2 there own
    cases answer
    exact ⟨alive, fun _ => positive⟩
  | fetching c count now =>
    rw [h.serve_eq works rfl]
    obtain ⟨rfl, alive⟩ := h.regular
    refine ⟨⟨_, rfl⟩, nodup_fetched keyed c _, fun x mem => ⟨c, rfl, ?_⟩⟩
    obtain ⟨r, there, own⟩ := (mem_fetched keyed).1 mem
    have mine := own
    simp only [Row.isClaimedBy, Bool.and_eq_true, decide_eq_true_eq] at mine
    exact ⟨r, there, alive x r there mine.1, own⟩
  | reading b id =>
    rw [h.serve_eq works rfl]
    exact ⟨rfl, h.nodup, h.held⟩
  | publishing b row span => exact ⟨⟨rfl, h.regular⟩, h.nodup, h.held⟩
  | completing b row span now =>
    rw [h.serve_eq works rfl]
    have others : ∀ r : Row, r.id ≠ row.id → (Call.markProcessed row.id now).effect r = r :=
      fun r other => if_neg fun mine => other mine.1
    exact ⟨⟨_, rfl⟩, (List.nodup_cons.1 h.nodup).2,
      fun x mem => ⟨b.claim, rfl, h.held_after rfl rfl others x mem⟩⟩
  | poisoning b row span reason detail =>
    rw [h.serve_eq works rfl]
    have others : ∀ r : Row, r.id ≠ row.id → (Call.markPoisoned row.id detail).effect r = r :=
      fun r other => if_neg fun mine => other mine.1
    exact ⟨⟨_, rfl⟩, (List.nodup_cons.1 h.nodup).2,
      fun x mem => ⟨b.claim, rfl, h.held_after rfl rfl others x mem⟩⟩
  | failing => exact h.regular.elim

/-- Once a row is settled, the next one of the batch is read, or the iteration is over. -/
theorem Hand.resume_next {a : (phase.request w).Answer} {r : Reading} {b : Batch}
    (h : (told phase a : Post w).Hand registry due t)
    (progress : (w.resume r phase a).progress = b.next)
    (waiting : (told phase a : Post w).pending = b.waiting) (claim : phase.claim = some b.claim)
    (settled : (told phase a : Post w).isAwaiting = false) :
    (of (w.resume r phase a).progress : Post w).Hand registry due t ∧
      (of (w.resume r phase a).progress : Post w).pending = (told phase a : Post w).pending ∧
      ((told phase a : Post w).isAwaiting →
        (of (w.resume r phase a).progress : Post w).isAwaiting ∧
        (of (w.resume r phase a).progress : Post w).claim = (told phase a : Post w).claim) := by
  rw [progress]
  refine ⟨⟨?_, ?_, fun x mem => ?_⟩, ?_, fun opening => ?_⟩
  · unfold Batch.next
    split <;> trivial
  · rw [pending_next, ← waiting]
    exact h.nodup
  · rw [pending_next, ← waiting] at mem
    obtain ⟨c, hc, holds⟩ := h.held x mem
    obtain rfl : b.claim = c := Option.some.inj (claim.symm.trans hc)
    exact ⟨b.claim, claim_next (waiting ▸ mem), holds⟩
  · rw [pending_next, waiting]
  · rw [settled] at opening
    cases opening

/-- **A worker that goes on** is regular again; it drops no row that it has no outcome of, and if
it has claimed rows and has not read them, it is going to. -/
theorem Hand.resume {a : (phase.request w).Answer} {r : Reading}
    (h : (told phase a : Post w).Hand registry due t) (same : w.registry = registry)
    (now : r.now = due.now) (attempts : w.tuning.maxAttempts = due.maxAttempts)
    (runs : r.cancelled = false)
    (new : (told phase a : Post w).draws → ∀ x row, t.find? x = some row →
      row.claimedBy ≠ some (Claim.ofInstance w.tuning.instanceName r.claimId)) :
    (of (w.resume r phase a).progress : Post w).Hand registry due t ∧
      (of (w.resume r phase a).progress : Post w).pending = (told phase a : Post w).pending ∧
      ((told phase a : Post w).isAwaiting →
        (of (w.resume r phase a).progress : Post w).isAwaiting ∧
        (of (w.resume r phase a).progress : Post w).claim = (told phase a : Post w).claim) := by
  have due_now : w.due r.now = due := by
    rw [Worker.due, now, attempts]
  cases phase with
  | checking d =>
    obtain ⟨found, rfl⟩ := h.regular
    cases found with
    | false => exact ⟨hand_resting, rfl, fun e => by cases e⟩
    | true => exact ⟨⟨due_now, List.nodup_nil, fun x mem => by cases mem⟩, rfl, fun e => by cases e⟩
  | selecting d =>
    obtain ⟨ids, rfl⟩ := h.regular
    cases ids with
    | nil => exact ⟨hand_resting, rfl, fun e => by cases e⟩
    | cons id ids =>
      refine ⟨⟨⟨due_now, new rfl⟩, List.nodup_nil, fun x mem => ?_⟩, rfl, fun e => by cases e⟩
      cases mem
  | claiming ids d c expiry =>
    obtain ⟨n, rfl, under⟩ := h.regular
    cases n with
    | zero => exact ⟨hand_resting, rfl, fun e => by cases e⟩
    | succ n =>
      refine ⟨⟨⟨now, fun x r there own => (under x r there own).1⟩, List.nodup_nil,
        fun x mem => by cases mem⟩, rfl, fun _ => ⟨rfl, rfl⟩⟩
  | fetching c count at_ =>
    obtain ⟨rows, rfl⟩ := h.regular
    have progress : (w.resume r (.fetching c count at_) (.ok rows)).progress =
        Batch.next ⟨c, { claimed := rows.length }, rows.map Row.id⟩ :=
      Worker.nextRow_progress _ _ runs
    exact h.resume_next progress rfl rfl rfl
  | reading b id =>
    obtain ⟨c, hc, row, there, alive, own⟩ := h.held id List.mem_cons_self
    cases hc
    obtain rfl : row.id = id := Table.id_of_find? there
    obtain rfl : a = .ok (some row) := Eq.trans h.regular (by rw [there])
    simp only [Row.isClaimedBy, Bool.and_eq_true, decide_eq_true_eq] at own
    have kept : w.resume r (.reading b row.id) (.ok (some row)) =
        w.dispatch b row (w.sink.start row r.spanIds) := by
      simp [Worker.resume, Worker.reread, alive, own.1]
    rw [kept]
    rcases w.dispatch_progress b row (w.sink.start row r.spanIds) with
      ⟨accepted, e⟩ | ⟨refused, reason, detail, e⟩
    · rw [e]
      exact ⟨⟨⟨there, same ▸ accepted⟩, h.nodup, h.held⟩, rfl, fun e => by cases e⟩
    · rw [e]
      exact ⟨⟨⟨there, same ▸ refused⟩, h.nodup, h.held⟩, rfl, fun e => by cases e⟩
  | publishing b row span =>
    obtain ⟨rfl, stored⟩ := h.regular
    exact ⟨⟨stored, h.nodup, h.held⟩, rfl, fun e => by cases e⟩
  | completing b row span at_ =>
    obtain ⟨applied, rfl⟩ := h.regular
    exact h.resume_next (Worker.settleIn_progress _ _ _ _ runs) rfl rfl rfl
  | poisoning b row span reason detail =>
    obtain ⟨applied, rfl⟩ := h.regular
    cases applied with
    | true => exact h.resume_next (Worker.settleIn_progress _ _ _ _ runs) rfl rfl rfl
    | false => exact h.resume_next (Worker.settleIn_progress _ _ _ _ runs) rfl rfl rfl
  | failing => exact h.regular.elim

end Post

end Relay
