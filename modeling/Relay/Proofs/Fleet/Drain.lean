import Relay.Proofs.Fleet.Delivery
import Relay.Proofs.Fleet.Hand

/-!
# Fleets that drain a table

Any number of workers share a table while the clock stands still, and each goes on until it finds
nothing that is due. Then every row that was due was taken by the broker exactly once and is
processed, or its type or payload was refused and it is poisoned; and the rows that were not due are
as they were (`Fleet.drained_rows_are_settled`).

What holds of all workers at once is `Fleet.Steady`. A row waits (`Fleet.Waits`) until some worker
has it; from then on it is `Fleet.Underway`, which goes from being held to being taken by the broker
and to being processed, or to being poisoned, and never back. A worker that finds nothing due shows
that no row waits any more, and workers that rest hold nothing.
-/

namespace Relay

namespace Fleet

variable {ι : Type} {workers : ι → Worker} {registry : Registry} {due : Due}

/-- Nothing disturbs the fleet: the clock stands still, no call fails, nobody else does anything to
the table, nobody is told to stop, and the broker takes whatever it is offered. -/
def Turn.IsSmooth : Turn ι → Prop
  | .start _ _ => True
  | .serve _ reply => reply.isOk
  | .resume _ r => r.cancelled = false
  | .fail _ _ | .outside _ | .tick _ => False

instance : DecidablePred (Turn.IsSmooth : Turn ι → Prop)
  | .start _ _ => isTrue trivial
  | .serve _ reply => inferInstanceAs (Decidable (reply.isOk = true))
  | .resume _ r => inferInstanceAs (Decidable (r.cancelled = false))
  | .fail _ _ | .outside _ | .tick _ => isFalse id

/-- The workers agree on what there is to do. -/
def Agree (workers : ι → Worker) (registry : Registry) (attempts : UInt32) : Prop :=
  ∀ i, (workers i).registry = registry ∧ (workers i).tuning.maxAttempts = attempts

/-- How the iteration ended that a turn brings to an end. -/
def outcome (f : Fleet workers) : Turn ι → Option Outcome
  | .resume i r =>
    match f.post i with
    | .told phase answer =>
      match ((workers i).resume (f.read r) phase answer).progress with
      | .finished outcome => some outcome
      | .waiting _ => none
    | _ => none
  | .start _ _ | .serve _ _ | .fail _ _ | .outside _ | .tick _ => none

/-- The broker was never offered the row of an id. -/
def Unsent (f : Fleet workers) (x : Uuid) : Prop := ∀ o ∈ f.offers, o.row ≠ x

/-- The workers are regular, no two of them work under one claim, and the table works. -/
structure Steady (registry : Registry) (due : Due) (f : Fleet workers) : Prop where
  clock : f.clock = due.now
  works : f.table.broken = false
  keyed : f.table.Keyed
  apart : ∀ i j c, (f.post i).claim = some c → (f.post j).claim = some c → i = j
  hand : ∀ i, (f.post i).Hand registry due f.table

/-- A row is due, and nobody has done anything about it. -/
def Waits (due : Due) (f : Fleet workers) (x : Uuid) : Prop :=
  ∃ s, f.table.find? x = some s ∧ s.isDue due ∧ f.Unsent x

/-- A worker holds a row and is going to see to it, and the broker was not offered it yet. -/
structure Held (due : Due) (f : Fleet workers) (x : Uuid) (i : ι) (c : Claim) : Prop where
  has : (f.post i).isAwaiting ∨ x ∈ (f.post i).pending
  claim : (f.post i).claim = some c
  holds : f.table.Holds due.now c x
  untaken : ∀ row, (f.post i).taken = some row → row.id ≠ x
  unsent : f.Unsent x

/-- Somebody has done something about a row. -/
inductive Underway (registry : Registry) (due : Due) (f : Fleet workers) (x : Uuid) : Prop
  | held (i : ι) (c : Claim) (h : f.Held due x i c)
  /-- The broker has taken the row from a worker. -/
  | taken (i : ι) (row : Row) (taken : (f.post i).taken = some row) (id : row.id = x)
    (sent : f.deliveries x = 1)
  | relayed (s : Row) (there : f.table.find? x = some s) (accepted : registry.Accepts s)
    (processed : s.processed.isSome) (sent : f.deliveries x = 1)
  | refused (s : Row) (there : f.table.find? x = some s) (refused : ¬ registry.Accepts s)
    (poisoned : s.poisoned) (unsent : f.Unsent x)

variable {f g : Fleet workers} {u : Turn ι} {i j : ι} {x : Uuid} {s : Row} {c : Claim}

theorem Fresh.steady (fresh : f.Fresh) (works : f.table.broken = false) (keyed : f.table.Keyed)
    (attempts : UInt32) : f.Steady registry ⟨f.clock, attempts⟩ where
  clock := rfl
  works := works
  keyed := keyed
  apart i j c h := by
    rw [fresh.resting i] at h
    cases h
  hand i := by
    rw [fresh.resting i]
    exact Post.hand_resting

theorem Fresh.unsent (fresh : f.Fresh) (x : Uuid) : f.Unsent x := by
  intro o mem
  rw [fresh.unoffered] at mem
  cases mem

theorem Unsent.deliveries (h : f.Unsent x) : f.deliveries x = 0 := by
  refine List.countP_eq_zero.2 fun o mem => ?_
  simp [h o mem]

/-! ## What workers hold -/

namespace Steady

/-- A row that a worker offers to the broker is held by the worker's claim. -/
theorem holds_publishing (h : f.Steady registry due) {b : Batch} {row : Row} {span : PublishSpan}
    (asking : f.post i = .asking (.publishing b row span)) :
    (f.post i).claim = some b.claim ∧ f.table.Holds due.now b.claim row.id := by
  have pending : row.id ∈ (f.post i).pending := by
    rw [asking]
    exact List.mem_cons_self
  obtain ⟨c, hc, holds⟩ := (h.hand i).held row.id pending
  have claim : (f.post i).claim = some b.claim := by
    rw [asking]
    rfl
  obtain rfl : b.claim = c := Option.some.inj (claim.symm.trans hc)
  exact ⟨claim, holds⟩

/-- A row that no worker holds is not offered to the broker. -/
theorem unoffered_of_free (h : f.Steady registry due)
    (free : ∀ i c, (f.post i).claim = some c → ¬ f.table.Holds due.now c x)
    (i : ι) (b : Batch) (row : Row) (span : PublishSpan)
    (asking : f.post i = .asking (.publishing b row span)) : row.id ≠ x := by
  rintro rfl
  obtain ⟨claim, holds⟩ := h.holds_publishing asking
  exact free i b.claim claim holds

/-- A row that the broker has taken from a worker is the stored row, and held by the worker's
claim. -/
theorem holds_taken (h : f.Steady registry due) {row : Row} (taken : (f.post i).taken = some row) :
    f.table.find? row.id = some row ∧ registry.Accepts row ∧
      ∃ c, (f.post i).claim = some c ∧ f.table.Holds due.now c row.id := by
  have hand := h.hand i
  generalize f.post i = p at taken hand
  unfold Post.taken at taken
  split at taken
  · cases taken
    obtain ⟨-, there, accepted⟩ := hand.regular
    exact ⟨there, accepted, hand.held _ List.mem_cons_self⟩
  · cases taken
    obtain ⟨there, accepted⟩ := hand.regular
    exact ⟨there, accepted, hand.held _ List.mem_cons_self⟩
  · cases taken

end Steady

/-- A row that a claim holds is not terminal and not due. -/
theorem not_holds_of_isDue (there : f.table.find? x = some s)
    (h : s.isDue due ∨ s.isTerminal) : ¬ f.table.Holds due.now c x := by
  rintro ⟨r, there', alive, own⟩
  obtain rfl := Option.some.inj (there.symm.trans there')
  rcases h with isDue | terminal
  · rw [Table.not_isDue_of_isClaimedBy own] at isDue
    cases isDue
  · rw [alive] at terminal
    cases terminal

variable [DecidableEq ι]

/-! ## One turn -/

/-- The broker is offered no row but those that workers publish. -/
theorem Moves.sent_kept (m : f.Moves u g) (unoffered : ∀ i, u.actor = some i →
    ∀ b row span, f.post i = .asking (.publishing b row span) → row.id ≠ x) :
    (f.Unsent x → g.Unsent x) ∧ g.deliveries x = f.deliveries x := by
  rcases m.offers with same | ⟨i, reply, b, row, span, rfl, asking, -, e⟩
  · refine ⟨fun unsent o mem => unsent o (same ▸ mem), ?_⟩
    rw [Fleet.deliveries, same]
    rfl
  · have other := unoffered i rfl b row span asking
    constructor
    · intro unsent o mem
      rw [e, List.mem_append, List.mem_singleton] at mem
      rcases mem with mem | rfl
      · exact unsent o mem
      · exact other
    · simp [Fleet.deliveries, e, List.countP_append, other]

namespace Steady

variable (h : f.Steady registry due) (agree : Agree workers registry due.maxAttempts)
  (m : f.Moves u g) (smooth : u.IsSmooth)

include h m smooth

/-- The table changes only when a worker's call is served. -/
theorem table_cases : g.table = f.table ∨ ∃ i phase k, u = .serve i (.ok ()) ∧
    f.post i = .asking phase ∧ phase.request (workers i) = .store k ∧
    g.table = (f.table.answer k).1 := by
  rcases m.table with same | ⟨op, does, after⟩
  · exact Or.inl same
  · cases does with
    | outside => exact smooth.elim
    | calls i reply phase k asking hk =>
      rcases reply with refusal | ⟨⟩
      · cases smooth
      · have hand := asking ▸ h.hand i
        refine Or.inr ⟨i, phase, k, rfl, asking, hk, ?_⟩
        rw [after, Table.after, Table.respond_eq_answer h.works (hand.call hk).2]

/-- A row that is not due and that no worker holds stays as it is. -/
theorem find?_kept (there : f.table.find? x = some s) (rests : s.isDue due = false)
    (free : ∀ i c, (f.post i).claim = some c → ¬ f.table.Holds due.now c x) :
    g.table.find? x = some s := by
  rcases h.table_cases m smooth with same | ⟨i, phase, k, rfl, asking, hk, after⟩
  · rw [same, there]
  · have hand := asking ▸ h.hand i
    rw [after, Table.find?_answer there]
    rcases hand.effect_cases hk there with same | ⟨-, -, -, -, -, isDue, -⟩ | ⟨c, hc, holds, -⟩
    · rw [same]
    · rw [rests] at isDue
      cases isDue
    · exact absurd holds (free i c (by rw [asking]; exact hc))

/-- What others do makes no difference to what a worker's claim holds. -/
theorem holds_kept (claim : (f.post i).claim = some c) (off : u.actor ≠ some i)
    (holds : f.table.Holds due.now c x) : g.table.Holds due.now c x := by
  rcases h.table_cases m smooth with same | ⟨j, phase, k, rfl, asking, hk, after⟩
  · rwa [same]
  · have hand := asking ▸ h.hand j
    have ne : phase.claim ≠ some c := by
      intro hc
      have mine : (f.post j).claim = some c := by
        rw [asking]
        exact hc
      exact off (congrArg some (h.apart j i c mine claim))
    rw [after]
    exact holds.spared (hand.spares hk ne)

include agree in
/-- The workers stay regular. -/
theorem hand_step (drawn : f.Draws u) (i : ι) : (g.post i).Hand registry due g.table := by
  rcases m.post i with ⟨stays, same⟩ | acts
  · rw [stays]
    refine (h.hand i).spared fun c claim => ?_
    rcases h.table_cases m smooth with kept | ⟨j, phase, k, rfl, asking, hk, after⟩
    · rw [kept]
      exact ⟨fun x r there _ => there, fun x _ => rfl⟩
    · by_cases e : j = i
      · subst e
        rw [same rfl]
        exact ⟨fun x r there _ => there, fun x _ => rfl⟩
      · have hand := asking ▸ h.hand j
        rw [after]
        refine hand.spares hk fun hc => e (h.apart j i c ?_ claim)
        rw [asking]
        exact hc
  · cases acts with
    | starts r resting =>
      rw [post_place_self]
      refine ⟨?_, List.nodup_nil, fun x mem => by cases mem⟩
      show (workers i).due f.clock = due
      rw [Worker.due, h.clock, (agree i).2]
    | serves reply phase asking =>
      have hand := asking ▸ h.hand i
      rcases reply with refusal | ⟨⟩
      · cases smooth
      · rw [post_served_self]
        exact hand.serve h.works h.keyed
    | fails => exact smooth.elim
    | resumes r phase a told =>
      have hand := told ▸ h.hand i
      rw [post_place_self]
      refine (hand.resume (r := f.read r) (agree i).1 h.clock (agree i).2 smooth
        fun draws x row there => ?_).1
      exact (drawn (by rw [told]; exact draws)).2 row (Table.mem_of_find? there)

include agree in
theorem step (drawn : f.Draws u) : g.Steady registry due where
  hand := h.hand_step agree m smooth drawn
  apart := m.apart h.apart fun i r e draws => by
    subst e
    exact (drawn draws).1
  clock := by
    rw [← h.clock]
    cases m with
    | rests => rfl
    | outside | ticks => exact smooth.elim
    | acts i u g acts =>
      cases acts with
      | starts | serves | fails | resumes => rfl
  works := by
    rcases h.table_cases m smooth with same | ⟨i, phase, k, -, -, -, after⟩
    · rw [same, h.works]
    · rw [after, Table.broken_answer, h.works]
  keyed := by
    rcases h.table_cases m smooth with same | ⟨i, phase, k, -, -, -, after⟩
    · rw [same]
      exact h.keyed
    · rw [after]
      exact h.keyed.answer k

end Steady

/-! ## One row -/

/-- A row that is claimed while it is due is held by the claim, or still due if the claim has run
out at once. -/
theorem Row.heldBy_cases {r : Row} (isDue : r.isDue due) (c : Claim) (expiry : Instant) :
    (r.heldBy c expiry).isDue due ∨
      (r.heldBy c expiry).isTerminal = false ∧ (r.heldBy c expiry).isClaimedBy c due.now := by
  by_cases live : due.now ≤ expiry
  · simp only [Row.isDue, Bool.and_eq_true, Bool.not_eq_true'] at isDue
    refine Or.inr ⟨isDue.1.1.1, ?_⟩
    simp [Row.isClaimedBy, Row.isLeased, Row.heldBy, live]
  · exact Or.inl (Row.isDue_heldBy isDue c (Instant.not_le.1 live))

/-- A row that waits goes on waiting, or a worker has claimed it. -/
theorem Waits.step (waits : f.Waits due x) (h : f.Steady registry due)
    (h' : g.Steady registry due) (m : f.Moves u g) (smooth : u.IsSmooth) :
    g.Waits due x ∨ g.Underway registry due x := by
  obtain ⟨s, there, isDue, unsent⟩ := waits
  have free : ∀ i c, (f.post i).claim = some c → ¬ f.table.Holds due.now c x :=
    fun _ _ _ => not_holds_of_isDue there (Or.inl isDue)
  have unsent' := (m.sent_kept fun i _ => h.unoffered_of_free free i).1 unsent
  cases m with
  | rests => exact Or.inl ⟨s, there, isDue, unsent'⟩
  | outside | ticks => exact smooth.elim
  | acts i u g acts =>
    cases acts with
    | starts | fails | resumes => exact Or.inl ⟨s, there, isDue, unsent'⟩
    | serves reply phase asking =>
      have hand := asking ▸ h.hand i
      cases hk : phase.request (workers i) with
      | publish message =>
        refine Or.inl ⟨s, ?_, isDue, unsent'⟩
        show ((phase.request (workers i)).serve f.table reply).1.find? x = some s
        rw [hk]
        exact there
      | store k =>
        have found : (f.served i reply phase).table.find? x = some (k.effect s) := by
          show ((phase.request (workers i)).serve f.table reply).1.find? x = _
          rw [hk, hand.serve_eq h.works hk]
          exact Table.find?_answer there k
        rcases hand.effect_cases hk there with
          same | ⟨ids, d, c, expiry, rfl, -, taken⟩ | ⟨c, hc, holds, -⟩
        · exact Or.inl ⟨s, by rw [found, same], isDue, unsent'⟩
        · rw [taken] at found
          rcases Row.heldBy_cases isDue c expiry with still | ⟨alive, own⟩
          · exact Or.inl ⟨_, found, still, unsent'⟩
          · -- the answer counts the row, so the worker is going to read it
            have hand' := h'.hand i
            have heard : (f.served i reply (.claiming ids d c expiry)).post i =
                .told (.claiming ids d c expiry) (f.table.answer (.claim ids d c expiry)).2 := by
              rw [post_served_self, hand.serve_eq h.works rfl]
              rfl
            rw [heard] at hand'
            obtain ⟨n, counted, under⟩ := hand'.regular
            have leased := own
            simp only [Row.isClaimedBy, Bool.and_eq_true] at leased
            have positive : 0 < n := (under x _ found rfl).2 leased.2
            refine Or.inr (.held i c ⟨Or.inl ?_, ?_, ⟨_, found, alive, own⟩, ?_, unsent'⟩)
            · rw [heard, counted]
              exact decide_eq_true positive
            · rw [heard]
              rfl
            · rw [heard]
              rintro row ⟨⟩
        · exact absurd holds (free i c (by rw [asking]; exact hc))

omit [DecidableEq ι] in
/-- A row that a worker holds is not offered to the broker by others. -/
theorem Steady.unoffered_of_holds (h : f.Steady registry due) (claim : (f.post i).claim = some c)
    (holds : f.table.Holds due.now c x) (other : j ≠ i) (b : Batch) (row : Row) (span : PublishSpan)
    (asking : f.post j = .asking (.publishing b row span)) : row.id ≠ x := by
  rintro rfl
  obtain ⟨claim', holds'⟩ := h.holds_publishing asking
  obtain rfl := holds.claim_eq holds'
  exact other (h.apart j i _ claim' claim)

namespace Held

variable {phase : Phase} (held : f.Held due x i c) (h : f.Steady registry due)

include held h

/-- In the turns of others a row goes on being held. -/
theorem step_of_off (m : f.Moves u g) (smooth : u.IsSmooth) (off : u.actor ≠ some i) :
    g.Held due x i c := by
  have stays : g.post i = f.post i := by
    rcases m.post i with ⟨stays, -⟩ | acts
    · exact stays
    · exact absurd acts.actor off
  have unoffered : ∀ j, u.actor = some j → ∀ b row span,
      f.post j = .asking (.publishing b row span) → row.id ≠ x := by
    intro j on
    refine h.unoffered_of_holds held.claim held.holds ?_
    rintro rfl
    exact off on
  exact {
    has := by rw [stays]; exact held.has
    claim := by rw [stays]; exact held.claim
    holds := h.holds_kept m smooth held.claim off held.holds
    untaken := by rw [stays]; exact held.untaken
    unsent := (m.sent_kept unoffered).1 held.unsent }

/-- A worker that goes on keeps the row. -/
theorem step_of_told (agree : Agree workers registry due.maxAttempts) {r : Reading} {phase : Phase}
    {a : (phase.request (workers i)).Answer} (told : f.post i = .told phase a)
    (smooth : r.cancelled = false) (drawn : f.Draws (.resume i r)) :
    (f.place i (.of ((workers i).resume (f.read r) phase a).progress)).Held due x i c := by
  have hand := h.hand i
  obtain ⟨has, claim, holds, untaken, unsent⟩ := held
  rw [told] at hand has claim untaken
  have new : (Post.told phase a : Post (workers i)).draws → ∀ y row, f.table.find? y = some row →
      row.claimedBy ≠ some (Claim.ofInstance (workers i).tuning.instanceName r.claimId) :=
    fun draws y row there => (drawn (by rw [told]; exact draws)).2 row (Table.mem_of_find? there)
  obtain ⟨hand', same, awaiting⟩ :=
    hand.resume (r := f.read r) (agree i).1 h.clock (agree i).2 smooth new
  refine ⟨?_, ?_, holds, ?_, unsent⟩
  · rw [post_place_self, same]
    exact has.imp_left fun opening => (awaiting opening).1
  · rw [post_place_self]
    rcases has with opening | mem
    · rw [(awaiting opening).2, claim]
    · obtain ⟨c', claim', holds'⟩ := hand'.held x (by rw [same]; exact mem)
      rw [claim', holds'.claim_eq holds]
  · rw [post_place_self]
    exact fun row taken => untaken row (Post.taken_goes ((workers i).goes _ phase a) taken)

/-- A worker that is served keeps the row, or the broker takes it, or it is poisoned because the
registry refuses it. -/
theorem step_of_asking (h' : (f.served i (.ok ()) phase).Steady registry due)
    (asking : f.post i = .asking phase) :
    (f.served i (.ok ()) phase).Underway registry due x := by
  have hand := h.hand i
  obtain ⟨has, claim, holds, untaken, unsent⟩ := held
  rw [asking] at hand has claim untaken
  -- a row that the worker has still no outcome of goes on being held
  have still : ((f.served i (.ok ()) phase).post i).claim = some c →
      x ∈ ((f.served i (.ok ()) phase).post i).pending →
      (∀ row, ((f.served i (.ok ()) phase).post i).taken = some row → row.id ≠ x) →
      (f.served i (.ok ()) phase).Unsent x →
        (f.served i (.ok ()) phase).Underway registry due x := by
    intro claim' mem untaken' unsent'
    obtain ⟨c', same, holds'⟩ := (h'.hand i).held x mem
    obtain rfl := Option.some.inj (claim'.symm.trans same)
    exact .held i c ⟨Or.inr mem, claim', holds', untaken', unsent'⟩
  have unsent' : phase.offers (.ok ()) = [] → (f.served i (.ok ()) phase).Unsent x := by
    intro none_offered o mem
    refine unsent o ?_
    have offers : (f.served i (.ok ()) phase).offers = f.offers ++ phase.offers (.ok ()) := rfl
    rwa [offers, none_offered, List.append_nil] at mem
  cases phase with
  | checking | selecting | claiming => rcases has with opening | mem <;> contradiction
  | fetching d count now =>
    cases claim
    obtain ⟨rfl, -⟩ := hand.regular
    have heard : (f.served i (.ok ()) (.fetching c count due.now)).post i =
        .told (.fetching c count due.now) (f.table.answer (.fetchClaimed c due.now)).2 := by
      rw [post_served_self, hand.serve_eq h.works rfl]
      rfl
    obtain ⟨r, there, alive, own⟩ := holds
    rw [heard] at still
    exact still rfl ((Post.mem_fetched h.keyed).2 ⟨r, there, own⟩)
      (fun row' taken => by cases taken) (unsent' rfl)
  | reading b id =>
    have heard : (f.served i (.ok ()) (.reading b id)).post i =
        .told (.reading b id) (f.table.answer (.get id)).2 := by
      rw [post_served_self, hand.serve_eq h.works rfl]
      rfl
    rw [heard] at still
    have waits := has.resolve_left fun e => by cases e
    exact still claim waits (fun row' taken => by cases taken) (unsent' rfl)
  | publishing b row span =>
    have heard : (f.served i (.ok ()) (.publishing b row span)).post i =
        .told (.publishing b row span) (.ok ()) := f.post_served_self i _ _
    have offers : (f.served i (.ok ()) (.publishing b row span)).offers =
        f.offers ++ [⟨row.id, row.message span, .ok ()⟩] := rfl
    by_cases mine : row.id = x
    · refine .taken i row (by rw [heard]; rfl) mine ?_
      rw [Fleet.deliveries, offers, List.countP_append, List.countP_singleton, ← Fleet.deliveries,
        unsent.deliveries]
      simp [mine, Offer.isAccepted, Except.isOk, Except.toBool]
    · have waits := has.resolve_left fun e => by cases e
      rw [heard] at still
      refine still claim waits (fun row' taken => ?_) fun o mem => ?_
      · cases taken
        exact mine
      · rw [offers, List.mem_append, List.mem_singleton] at mem
        rcases mem with mem | rfl
        · exact unsent o mem
        · exact mine
  | completing b row span now =>
    have heard : (f.served i (.ok ()) (.completing b row span now)).post i =
        .told (.completing b row span now) (f.table.answer (.markProcessed row.id now)).2 := by
      rw [post_served_self, hand.serve_eq h.works rfl]
      rfl
    -- the row in the worker's hands is one that the broker has taken
    have listed := has.resolve_left fun e => by cases e
    have waits : x ∈ b.waiting :=
      (List.mem_cons.1 listed).resolve_left fun e => untaken row rfl e.symm
    rw [heard] at still
    exact still claim waits (fun row' taken => by cases taken) (unsent' rfl)
  | poisoning b row span reason detail =>
    have heard : (f.served i (.ok ()) (.poisoning b row span reason detail)).post i =
        .told (.poisoning b row span reason detail)
          (f.table.answer (.markPoisoned row.id detail)).2 := by
      rw [post_served_self, hand.serve_eq h.works rfl]
      rfl
    have listed := has.resolve_left fun e => by cases e
    rcases List.mem_cons.1 listed with rfl | waits
    · obtain ⟨there, refused⟩ := hand.regular
      obtain ⟨r, there', alive, -⟩ := holds
      obtain rfl := Option.some.inj (there.symm.trans there')
      have poisoned : (Call.markPoisoned row.id detail).effect row =
          { row with poisoned := true, lastError := some detail } := if_pos ⟨rfl, alive⟩
      have found : (f.served i (.ok ()) (.poisoning b row span reason detail)).table.find? row.id =
          some { row with poisoned := true, lastError := some detail } := by
        show (f.table.respond (.markPoisoned row.id detail)).1.find? row.id = _
        rw [Table.respond_eq_answer h.works (by simp), Table.find?_answer there, poisoned]
      exact .refused _ found (fun accepted => refused (accepted.of_origin rfl)) rfl (unsent' rfl)
    · rw [heard] at still
      exact still claim waits (fun row' taken => by cases taken) (unsent' rfl)
  | failing => exact hand.regular.elim

end Held

namespace Underway

/-- A row that the broker has taken is processed next. -/
theorem step_of_taken (h : f.Steady registry due) (m : f.Moves u g) (smooth : u.IsSmooth)
    {row : Row} (taken : (f.post i).taken = some row) (sent : f.deliveries row.id = 1) :
    g.Underway registry due row.id := by
  obtain ⟨there, accepted, c, claim, holds⟩ := h.holds_taken taken
  have unoffered : ∀ j, u.actor = some j → ∀ b row' span,
      f.post j = .asking (.publishing b row' span) → row'.id ≠ row.id := by
    intro j _ b row' span asking
    refine h.unoffered_of_holds claim holds ?_ b row' span asking
    rintro rfl
    rw [asking] at taken
    cases taken
  have sent' : g.deliveries row.id = 1 := ((m.sent_kept unoffered).2).trans sent
  rcases m.post i with ⟨stays, -⟩ | acts
  · exact .taken i row (by rw [stays, taken]) rfl sent'
  · cases acts with
    | starts r resting =>
      rw [resting] at taken
      cases taken
    | fails => exact smooth.elim
    | serves reply phase asking =>
      rw [asking] at taken
      cases phase with
      | completing b row' span now =>
        cases taken
        obtain ⟨r, there', alive, -⟩ := holds
        obtain rfl := Option.some.inj (there.symm.trans there')
        have marked : (Call.markProcessed row.id now).effect row =
            { row with processed := some now } := if_pos ⟨rfl, alive⟩
        have found : (f.served i reply (.completing b row span now)).table.find? row.id =
            some { row with processed := some now } := by
          show (f.table.respond (.markProcessed row.id now)).1.find? row.id = _
          rw [Table.respond_eq_answer h.works (by simp), Table.find?_answer there, marked]
        exact .relayed _ found (accepted.of_origin rfl) rfl sent'
      | checking | selecting | claiming | fetching | reading | publishing | poisoning | failing =>
        cases taken
    | resumes r phase a told =>
      rw [told] at taken
      cases phase with
      | publishing b row' span =>
        rcases a with refusal | ⟨⟩
        · cases taken
        · cases taken
          exact .taken i row (by rw [post_place_self]; rfl) rfl sent'
      | checking | selecting | claiming | fetching | reading | completing | poisoning | failing =>
        cases taken

/-- **A row that is underway** stays underway. -/
theorem step (underway : f.Underway registry due x) (h : f.Steady registry due)
    (h' : g.Steady registry due) (agree : Agree workers registry due.maxAttempts)
    (m : f.Moves u g) (smooth : u.IsSmooth) (drawn : f.Draws u) : g.Underway registry due x := by
  -- a row that is settled is held by nobody
  have settled : ∀ s, f.table.find? x = some s → s.isTerminal → g.table.find? x = some s ∧
      (f.Unsent x → g.Unsent x) ∧ g.deliveries x = f.deliveries x := by
    intro s there terminal
    have free : ∀ i c, (f.post i).claim = some c → ¬ f.table.Holds due.now c x :=
      fun _ _ _ => not_holds_of_isDue there (Or.inr terminal)
    exact ⟨h.find?_kept m smooth there (s.not_isDue_of_isTerminal terminal due) free,
      m.sent_kept fun i _ => h.unoffered_of_free free i⟩
  cases underway with
  | relayed s there accepted processed sent =>
    obtain ⟨there', -, same⟩ := settled s there (Row.isTerminal_of_processed processed)
    exact .relayed s there' accepted processed (same.trans sent)
  | refused s there refused poisoned unsent =>
    obtain ⟨there', unsent', -⟩ := settled s there (Row.isTerminal_of_poisoned poisoned)
    exact .refused s there' refused poisoned (unsent' unsent)
  | taken i row taken id sent =>
    subst id
    exact step_of_taken h m smooth taken sent
  | held i c held =>
    by_cases on : u.actor = some i
    · rcases m.post i with ⟨-, same⟩ | acts
      · rw [same on]
        exact .held i c held
      · cases acts with
        | starts r resting =>
          have claim := held.claim
          rw [resting] at claim
          cases claim
        | fails => exact smooth.elim
        | serves reply phase asking =>
          rcases reply with refusal | ⟨⟩
          · cases smooth
          · exact held.step_of_asking h h' asking
        | resumes r phase a told =>
          exact .held i c (held.step_of_told h agree told smooth drawn)
    · exact .held i c (held.step_of_off h m smooth on)

end Underway

/-- A row that is not due and that no worker has claimed. -/
structure Aside (due : Due) (f : Fleet workers) (x : Uuid) (r : Row) : Prop where
  there : f.table.find? x = some r
  rests : r.isDue due = false
  free : ∀ i c, (f.post i).claim = some c → r.claimedBy ≠ some c
  unsent : f.Unsent x

theorem Aside.step {r : Row} (aside : f.Aside due x r) (h : f.Steady registry due)
    (m : f.Moves u g) (smooth : u.IsSmooth) (drawn : f.Draws u) : g.Aside due x r := by
  obtain ⟨there, rests, free, unsent⟩ := aside
  have unheld : ∀ i c, (f.post i).claim = some c → ¬ f.table.Holds due.now c x := by
    rintro i c claim ⟨r', there', -, own⟩
    obtain rfl := Option.some.inj (there.symm.trans there')
    simp only [Row.isClaimedBy, Bool.and_eq_true, decide_eq_true_eq] at own
    exact free i c claim own.1
  refine ⟨h.find?_kept m smooth there rests unheld, rests, fun i c claim => ?_,
    (m.sent_kept fun i _ => h.unoffered_of_free unheld i).1 unsent⟩
  rcases m.claim claim with claim | ⟨reading, rfl, draws, rfl, -⟩
  · exact free i c claim
  · exact (drawn draws).2 r (Table.mem_of_find? there)

/-! ## Runs -/

/-- A run that nothing disturbs and whose new claims are nobody's. -/
def IsCalm (f : Fleet workers) (turns : List (Turn ι)) : Prop :=
  Along (fun f u _ => u.IsSmooth ∧ f.Draws u) f turns

instance [Fintype ι] (f : Fleet workers) (turns : List (Turn ι)) : Decidable (f.IsCalm turns) :=
  inferInstanceAs (Decidable (Along _ f turns))

/-- A worker's last iteration found nothing due, and the worker has stopped. -/
def Stops (f : Fleet workers) (turns : List (Turn ι)) (i : ι) : Prop :=
  ∃ earlier r later, turns = earlier ++ .resume i r :: later ∧
    (f.run earlier).outcome (.resume i r) = some .idle ∧ ∀ u ∈ later, u.actor ≠ some i

variable {turns : List (Turn ι)}

theorem Steady.run (h : f.Steady registry due) (agree : Agree workers registry due.maxAttempts)
    (calm : f.IsCalm turns) : (f.run turns).Steady registry due :=
  run_keeps (fun _ _ _ h calm m => h.step agree m calm.1 calm.2) h calm

theorem Underway.run (underway : f.Underway registry due x) (h : f.Steady registry due)
    (agree : Agree workers registry due.maxAttempts) (calm : f.IsCalm turns) :
    (f.run turns).Underway registry due x := by
  refine (run_keeps (I := fun f => f.Steady registry due ∧ f.Underway registry due x) ?_
    ⟨h, underway⟩ calm).2
  rintro f u g ⟨h, underway⟩ ⟨smooth, drawn⟩ m
  have h' := h.step agree m smooth drawn
  exact ⟨h', underway.step h h' agree m smooth drawn⟩

theorem Waits.run (waits : f.Waits due x) (h : f.Steady registry due)
    (agree : Agree workers registry due.maxAttempts) (calm : f.IsCalm turns) :
    (f.run turns).Waits due x ∨ (f.run turns).Underway registry due x := by
  refine (run_keeps (I := fun f => f.Steady registry due ∧
    (f.Waits due x ∨ f.Underway registry due x)) ?_ ⟨h, Or.inl waits⟩ calm).2
  rintro f u g ⟨h, waits | underway⟩ ⟨smooth, drawn⟩ m
  · have h' := h.step agree m smooth drawn
    exact ⟨h', waits.step h h' m smooth⟩
  · have h' := h.step agree m smooth drawn
    exact ⟨h', Or.inr (underway.step h h' agree m smooth drawn)⟩

theorem Aside.run {r : Row} (aside : f.Aside due x r) (h : f.Steady registry due)
    (agree : Agree workers registry due.maxAttempts) (calm : f.IsCalm turns) :
    (f.run turns).Aside due x r := by
  refine (run_keeps (I := fun f => f.Steady registry due ∧ f.Aside due x r) ?_ ⟨h, aside⟩ calm).2
  rintro f u g ⟨h, aside⟩ ⟨smooth, drawn⟩ m
  exact ⟨h.step agree m smooth drawn, aside.step h m smooth drawn⟩

/-! ## Workers that find nothing due -/

omit [DecidableEq ι] in
theorem told_of_idle {r : Reading} (h : f.outcome (.resume i r) = some .idle) :
    ∃ d, f.post i = .told (.checking d) (.ok false) := by
  unfold outcome at h
  dsimp only at h
  split at h
  · rename_i phase answer told
    split at h
    · rename_i ended progress
      cases h
      obtain ⟨d, e⟩ := Worker.eq_checking_of_idle progress
      exact ⟨d, told.trans e⟩
    · cases h
  · cases h

/-- A worker that has no turn stays where it is. -/
theorem post_run_of_off (h : ∀ u ∈ turns, u.actor ≠ some i) (f : Fleet workers) :
    (f.run turns).post i = f.post i := by
  by_contra moved
  obtain ⟨earlier, u, later, rfl, acts, -⟩ := exists_acts f turns moved
  exact h u (by simp) acts.actor

theorem Stops.resting (h : f.Stops turns i) : (f.run turns).post i = .resting := by
  obtain ⟨earlier, r, later, rfl, idle, off⟩ := h
  obtain ⟨d, told⟩ := told_of_idle idle
  rw [run_append, run_cons, post_run_of_off off]
  simp only [turn, told, post_place_self]
  rfl

theorem table_broken_run (h : f.table.broken) (turns : List (Turn ι)) :
    (f.run turns).table.broken :=
  run_keeps (P := fun _ _ _ => True) (I := fun f => f.table.broken = true)
    (fun _ _ _ h _ m => m.broken h) h (along_of_forall (fun _ _ => trivial) f)

/-- A worker that stops has been told at some time that nothing was due. -/
theorem Stops.exists_checking (h : f.Stops turns i) (rests : f.post i = .resting) :
    ∃ earlier later d, turns = earlier ++ later ∧ (f.run earlier).post i = .asking (.checking d) ∧
      (f.run earlier).table.broken = false ∧
      ∀ row ∈ (f.run earlier).table.rows, row.isDue d = false := by
  obtain ⟨earlier, r, later, rfl, idle, -⟩ := h
  obtain ⟨d, told⟩ := told_of_idle idle
  have answered : ∀ e, ((Phase.checking d).request (workers i)).failure e ≠ some (.ok false) := by
    intro e failure
    cases failure
  obtain ⟨before, reply, between, rfl, asking, given⟩ := exists_serving rests told answered
  have given : ((f.run before).table.respond (.hasDue d)).2 = some (.ok false) := given
  refine ⟨before, .serve i reply :: between ++ .resume i r :: later, d, by simp, asking, ?_⟩
  cases works : (f.run before).table.broken with
  | true => simp [Table.respond, works] at given
  | false =>
    rw [Table.respond_eq_answer works (by simp)] at given
    simpa [Table.answer] using given

/-- **Drained rows are settled.** Workers that agree on what there is to do share a table whose rows
have ids of their own, the clock stands still and the broker takes everything. When all of them have
found nothing due and stopped, whatever the order of the turns: a row that was due and that the
registry accepts was taken by the broker exactly once and is processed; a row that was due and that
the registry does not accept was never offered to the broker and is poisoned; and a row that was not
due was never offered to the broker and is as it was. -/
theorem drained_rows_are_settled [Nonempty ι] (fresh : f.Fresh) (keyed : f.table.Keyed)
    {attempts : UInt32} (agree : Agree workers registry attempts) (calm : f.IsCalm turns)
    (stops : ∀ i, f.Stops turns i) {r : Row} (there : f.table.find? x = some r) :
    (r.isDue ⟨f.clock, attempts⟩ → registry.Accepts r → (f.run turns).deliveries x = 1 ∧
      ∃ s, (f.run turns).table.find? x = some s ∧ s.processed.isSome) ∧
    (r.isDue ⟨f.clock, attempts⟩ → ¬ registry.Accepts r → (f.run turns).Unsent x ∧
      ∃ s, (f.run turns).table.find? x = some s ∧ s.poisoned) ∧
    (r.isDue ⟨f.clock, attempts⟩ = false → (f.run turns).Unsent x ∧
      (f.run turns).table.find? x = some r) := by
  -- some worker was told that nothing was due
  obtain ⟨i⟩ := ‹Nonempty ι›
  obtain ⟨earlier, later, d, rfl, asking, works', nothing⟩ :=
    (stops i).exists_checking (fresh.resting i)
  have works : f.table.broken = false := by
    by_contra broken
    rw [table_broken_run (by simpa using broken) earlier] at works'
    cases works'
  have steady : f.Steady registry ⟨f.clock, attempts⟩ := fresh.steady works keyed attempts
  have steady' := steady.run agree (along_left calm)
  have calm' : (f.run earlier).IsCalm later := along_right calm
  obtain rfl : d = ⟨f.clock, attempts⟩ := by
    have hand := steady'.hand i
    rw [asking] at hand
    exact hand.regular
  have underway : r.isDue ⟨f.clock, attempts⟩ →
      (f.run (earlier ++ later)).Underway registry ⟨f.clock, attempts⟩ x := by
    intro isDue
    rw [run_append]
    rcases Waits.run ⟨r, there, isDue, fresh.unsent x⟩ steady agree (along_left calm) with
      ⟨s, there', isDue', -⟩ | underway
    · rw [nothing s (Table.mem_of_find? there')] at isDue'
      cases isDue'
    · exact underway.run steady' agree calm'
  -- workers that rest hold nothing
  have settled : r.isDue ⟨f.clock, attempts⟩ → ∃ s,
      (f.run (earlier ++ later)).table.find? x = some s ∧
      (registry.Accepts s ∧ s.processed.isSome ∧ (f.run (earlier ++ later)).deliveries x = 1 ∨
        ¬ registry.Accepts s ∧ s.poisoned ∧ (f.run (earlier ++ later)).Unsent x) := by
    intro isDue
    cases underway isDue with
    | held j c held =>
      have has := held.has
      rw [(stops j).resting] at has
      rcases has with opening | mem
      · cases opening
      · cases mem
    | taken j row taken =>
      rw [(stops j).resting] at taken
      cases taken
    | relayed s there' accepted processed sent =>
      exact ⟨s, there', Or.inl ⟨accepted, processed, sent⟩⟩
    | refused s there' refused poisoned unsent =>
      exact ⟨s, there', Or.inr ⟨refused, poisoned, unsent⟩⟩
  -- the registry says the same of a row as long as it is stored
  have same : ∀ s, (f.run (earlier ++ later)).table.find? x = some s →
      (registry.Accepts s ↔ registry.Accepts r) := by
    intro s there'
    obtain ⟨s', there'', origin⟩ := run_origin (earlier ++ later) there
    obtain rfl := Option.some.inj (there'.symm.trans there'')
    exact ⟨fun h => h.of_origin origin, fun h => h.of_origin origin.symm⟩
  refine ⟨fun isDue accepted => ?_, fun isDue refused => ?_, fun rests => ?_⟩
  · obtain ⟨s, there', ⟨-, processed, sent⟩ | ⟨refused, -, -⟩⟩ := settled isDue
    · exact ⟨sent, s, there', processed⟩
    · exact absurd ((same s there').2 accepted) refused
  · obtain ⟨s, there', ⟨accepted, -, -⟩ | ⟨-, poisoned, unsent⟩⟩ := settled isDue
    · exact absurd ((same s there').1 accepted) refused
    · exact ⟨unsent, s, there', poisoned⟩
  · have aside : f.Aside ⟨f.clock, attempts⟩ x r := by
      refine ⟨there, rests, fun j c claim => ?_, fresh.unsent x⟩
      rw [fresh.resting j] at claim
      cases claim
    have aside' := aside.run steady agree calm
    exact ⟨aside'.unsent, aside'.there⟩

end Fleet

/-! ## Two couriers -/

namespace Office

/-- A row that was relayed before. -/
def done : Row := { Row.sample 2 with processed := some .epoch }

/-- Two couriers, a row that is due and one that is not. -/
def pair : Fleet fun _ : Bool => courier where
  table := { rows := [known, done] }
  clock := .epoch
  post _ := .resting

theorem fresh_pair : pair.Fresh := ⟨fun _ => rfl, rfl⟩

/-- Both couriers see the same row, one of them claims it, and the other one looks again and finds
nothing. -/
def contest : List (Fleet.Turn Bool) :=
  [.start false reading, .start true reading, .serve false (.ok ()), .serve true (.ok ()),
    .resume false reading, .resume true reading, .serve false (.ok ()), .serve true (.ok ()),
    .resume false { reading with claimId := .ofNat 1 },
    .resume true { reading with claimId := .ofNat 2 }, .serve false (.ok ()), .serve true (.ok ()),
    .resume false reading, .resume true reading, .start true reading, .serve true (.ok ())]

/-- The courier that has the row sees to it, looks again and finds nothing. -/
def solo : List (Fleet.Turn Bool) :=
  [.serve false (.ok ()), .resume false reading, .serve false (.ok ()), .resume false reading,
    .serve false (.ok ()), .resume false reading, .serve false (.ok ()), .resume false reading,
    .start false reading, .serve false (.ok ())]

end Office

namespace Fleet

open Office in
/-- The row that was due is taken once and processed, and the other one is as it was. -/
theorem drained_rows_are_settled_pair :
    let turns := contest ++ .resume true reading :: (solo ++ [.resume false reading])
    ((pair.run turns).deliveries known.id = 1 ∧
        ∃ s, (pair.run turns).table.find? known.id = some s ∧ s.processed.isSome) ∧
      (pair.run turns).Unsent done.id ∧ (pair.run turns).table.find? done.id = some done := by
  intro turns
  have keyed : pair.table.Keyed := by
    unfold Table.Keyed
    decide
  have agree : Agree (fun _ : Bool => courier) courier.registry 10 := fun _ => ⟨rfl, rfl⟩
  have calm : pair.IsCalm turns := by decide +kernel
  have stops : ∀ i, pair.Stops turns i := by
    intro i
    cases i with
    | true =>
      refine ⟨contest, reading, solo ++ [.resume false reading], rfl, by decide +kernel, ?_⟩
      simp [solo, Turn.actor]
    | false =>
      refine ⟨contest ++ .resume true reading :: solo, reading, [], ?_, by decide +kernel, ?_⟩
      · simp [turns]
      · simp
  have settled := fun {x} {r : Row} (there : pair.table.find? x = some r) =>
    drained_rows_are_settled fresh_pair keyed agree calm stops there
  have accepted : courier.registry.Accepts known := accepts_known.of_origin rfl
  exact ⟨(settled rfl).1 (by decide) accepted, (settled rfl).2.2 (by decide)⟩

end Fleet

end Relay
