import Relay.Proofs.Table.Effect
import Relay.Proofs.Worker.Progress

/-!
# Where a worker stands

A `Post` says where a worker stands: it rests, waits for the answer to a request, or has the answer
and has not gone on yet. What matters about it to others is the copy of a row that the worker acts
on (`Post.flight`), whether it is offering that copy to the broker (`Post.offering`) or the broker
has taken it (`Post.taken`), and the claim it works under (`Post.claim`). The lemmas follow these
through the three things that can happen to a post: its request is served, its call to the store
fails, and the worker goes on.
-/

namespace Relay

/-- Where a worker stands. -/
inductive Post (w : Worker) where
  /-- The worker is between two iterations. -/
  | resting
  | asking (phase : Phase)
  /-- The request has been answered, and the worker has not gone on yet. -/
  | told (phase : Phase) (answer : (phase.request w).Answer)
  /-- The worker broke off. -/
  | gone

/-- The claim that a phase works under. -/
def Phase.claim : Phase → Option Claim
  | .checking _ | .selecting _ => none
  | .claiming _ _ c _ | .fetching c _ _ => some c
  | .reading b _ | .publishing b _ _ | .completing b _ _ _ | .poisoning b _ _ _ _
  | .failing b _ _ _ _ _ => some b.claim

/-- Serves a request from a table and a broker that replies so; none if the caller breaks off. -/
def Request.serve (t : Table) (reply : Except Refusal Unit) :
    (q : Request) → Table × Option q.Answer
  | .store c => t.respond c
  | .publish _ => (t, some reply)

/-- The answer when a call to the store fails. -/
def Request.failure (e : StoreError) : (q : Request) → Option q.Answer
  | .store c => some (.error (ε := StoreError) (α := c.Result) e)
  | .publish _ => none

namespace Post

variable {w : Worker}

/-- Where a worker stands after a step. -/
def of : Progress → Post w
  | .waiting phase => .asking phase
  | .finished _ => .resting

/-- Where a worker stands after its request was served. -/
def hearing (phase : Phase) : Option (phase.request w).Answer → Post w
  | some answer => .told phase answer
  | none => .gone

/-- The claim that a worker works under. -/
def claim : Post w → Option Claim
  | .asking phase | .told phase _ => phase.claim
  | .resting | .gone => none

/-- Whether the worker makes a claim when it goes on. -/
def draws : Post w → Bool
  | .told (.selecting _) _ => true
  | _ => false

/-- The copy of a row that a worker is about to act on: one that was read again, and was alive and
the worker's own then. The worker is done with the copy once an outcome is recorded. -/
def flight : Post w → Option Row
  | .told (.reading b _) (.ok (some row)) =>
    if row.isTerminal || row.claimedBy ≠ some b.claim then none else some row
  | .asking (.publishing _ row _) | .told (.publishing _ row _) _ | .asking (.completing _ row _ _)
  | .asking (.poisoning _ row _ _ _) | .asking (.failing _ row _ _ _ _) => some row
  | _ => none

/-- The copy that a worker is offering to the broker. -/
def offering : Post w → Option Row
  | .asking (.publishing _ row _) => some row
  | _ => none

/-- The copy that the broker has taken, while that is not recorded yet. -/
def taken : Post w → Option Row
  | .told (.publishing _ row _) (.ok ()) | .asking (.completing _ row _ _) => some row
  | _ => none

variable {p : Post w} {phase : Phase} {row : Row}

theorem flight_of_taken (h : p.taken = some row) : p.flight = some row := by
  unfold taken at h
  split at h
  · exact h
  · exact h
  · cases h

theorem offering_eq_some :
    p.offering = some row ↔ ∃ b span, p = .asking (.publishing b row span) := by
  constructor
  · intro h
    unfold offering at h
    split at h
    · rename_i b row' span
      cases h
      exact ⟨b, span, rfl⟩
    · cases h
  · rintro ⟨b, span, rfl⟩
    rfl

theorem flight_of_offering (h : p.offering = some row) : p.flight = some row := by
  obtain ⟨b, span, rfl⟩ := offering_eq_some.1 h
  rfl

/-- A worker with a copy works under a claim. -/
theorem claim_of_flight (h : p.flight = some row) : ∃ c, p.claim = some c := by
  unfold flight at h
  split at h
  all_goals first
    | exact ⟨_, rfl⟩
    | cases h

/-- Of a second reading, a worker keeps a copy that is alive and its own. -/
theorem flight_reading {b : Batch} {id : Uuid} {a : Except StoreError (Option Row)} :
    (told (.reading b id) a : Post w).flight = some row ↔
      a = .ok (some row) ∧ row.isTerminal = false ∧ row.claimedBy = some b.claim := by
  rcases a with e | (_ | row')
  · simp [flight]
  · simp [flight]
  · by_cases own : row'.isTerminal = false ∧ row'.claimedBy = some b.claim
    · simp only [flight, own.1, own.2, ne_eq, not_true, decide_false, Bool.or_self]
      constructor
      · rintro ⟨⟩
        exact ⟨rfl, own⟩
      · rintro ⟨⟨⟩, -⟩
        rfl
    · have : (row'.isTerminal || decide (row'.claimedBy ≠ some b.claim)) = true := by
        by_contra h
        exact own (by simpa using h)
      simp only [flight, this, if_true]
      constructor
      · rintro ⟨⟩
      · rintro ⟨⟨⟩, h⟩
        exact absurd h own

/-! ## A request is served -/

/-- Only a second reading gives a worker a copy, and only publishing lets it keep one. -/
theorem flight_hearing {t : Table} {reply : Except Refusal Unit}
    (h : (hearing phase ((phase.request w).serve t reply).2).flight = some row) :
    (∃ b span, phase = .publishing b row span) ∨
      ∃ b id, phase = .reading b id ∧ t.broken = false ∧ t.find? id = some row ∧
        row.isTerminal = false ∧ row.claimedBy = some b.claim := by
  cases phase with
  | publishing b row' span =>
    cases h
    exact Or.inl ⟨b, span, rfl⟩
  | reading b id =>
    refine Or.inr ⟨b, id, rfl, ?_⟩
    simp only [Request.serve, Table.respond_get, hearing, flight_reading] at h
    obtain ⟨read, own⟩ := h
    split at read
    · cases read
    · rename_i works
      exact ⟨by simpa using works, Except.ok.inj read, own⟩
  | checking | selecting | claiming | fetching | completing | poisoning | failing =>
    unfold hearing at h
    split at h <;> cases h

theorem taken_hearing {t : Table} {reply : Except Refusal Unit}
    (h : (hearing phase ((phase.request w).serve t reply).2).taken = some row) :
    reply = .ok () ∧ ∃ b span, phase = .publishing b row span := by
  cases phase with
  | publishing b row' span =>
    rcases reply with e | u
    · cases h
    · cases h
      exact ⟨rfl, b, span, rfl⟩
  | checking | selecting | claiming | fetching | reading | completing | poisoning | failing =>
    unfold hearing at h
    split at h <;> cases h

theorem offering_hearing (answer : Option (phase.request w).Answer) :
    (hearing phase answer).offering = none := by
  cases answer <;> rfl

/-- A worker that has been served waits no more. -/
theorem hearing_ne_asking (answer : Option (phase.request w).Answer) {phase' : Phase} :
    hearing phase answer ≠ .asking phase' := by
  cases answer <;> nofun

/-- A worker that has been served has the answer to what it asked. -/
theorem hearing_eq_told {heard : Option (phase.request w).Answer} {phase' : Phase}
    {answer : (phase'.request w).Answer} (h : hearing phase heard = .told phase' answer) :
    ∃ e : phase' = phase, heard = some (e ▸ answer) := by
  cases heard with
  | none => cases h
  | some a =>
    cases h
    exact ⟨rfl, rfl⟩

/-- A worker is gone when it gets no answer. -/
theorem hearing_eq_gone {heard : Option (phase.request w).Answer} :
    hearing phase heard = .gone ↔ heard = none := by
  cases heard with
  | none => exact iff_of_true rfl rfl
  | some a => exact iff_of_false nofun nofun

/-- A worker that has gone on is there. -/
theorem of_ne_gone (progress : Progress) : (of progress : Post w) ≠ .gone := by
  cases progress <;> nofun

/-- A worker that has gone on has no answer yet. -/
theorem of_ne_told (progress : Progress) {answer : (phase.request w).Answer} :
    (of progress : Post w) ≠ .told phase answer := by
  cases progress <;> nofun

theorem claim_hearing {answer : Option (phase.request w).Answer} {c : Claim}
    (h : (hearing phase answer).claim = some c) : phase.claim = some c := by
  cases answer with
  | none => cases h
  | some a => exact h

/-! ## A call fails -/

/-- A worker whose call failed has no copy to act on. -/
theorem flight_failure {e : StoreError} {answer : (phase.request w).Answer}
    (h : (phase.request w).failure e = some answer) : (told phase answer).flight = none := by
  cases phase with
  | publishing => cases h
  | reading =>
    cases h
    rfl
  | checking | selecting | claiming | fetching | completing | poisoning | failing => rfl

/-! ## The worker goes on -/

variable {r : Reading} {a : (phase.request w).Answer} {progress : Progress}

/-- Going on, a worker acts on no copy that it had not already. -/
theorem flight_goes (h : w.Goes r phase a progress)
    (copy : (of progress : Post w).flight = some row) : (told phase a).flight = some row := by
  cases h with
  | ends | selects | claims | fetches | opens | proceeds => cases copy
  | offers b id row' span alive own =>
    cases copy
    exact flight_reading.2 ⟨rfl, alive, own⟩
  | refuses b id row' span reason detail alive own =>
    cases copy
    exact flight_reading.2 ⟨rfl, alive, own⟩
  | completes | poisons | fails => exact copy

/-- A worker offers only what its registry accepts. -/
theorem accepts_of_goes (h : w.Goes r phase a progress)
    (copy : (of progress : Post w).offering = some row) : w.registry.Accepts row := by
  cases h with
  | offers b id row' span alive own accepted =>
    cases copy
    exact accepted
  | ends | selects | claims | fetches | opens | proceeds | refuses | completes | poisons | fails =>
    cases copy

/-- A worker that goes on keeps its claim, or makes a new one. -/
theorem claim_goes {c : Claim} (h : w.Goes r phase a progress)
    (claimed : (of progress : Post w).claim = some c) :
    phase.claim = some c ∨ (told phase a).draws ∧
      c = Claim.ofInstance w.tuning.instanceName r.claimId ∧
      (of progress : Post w).flight = none := by
  cases h with
  | ends | selects => cases claimed
  | claims =>
    cases claimed
    exact Or.inr ⟨rfl, rfl, rfl⟩
  | proceeds p a b hp =>
    cases claimed
    refine Or.inl ?_
    cases phase <;> cases hp <;> rfl
  | fetches | opens | offers | refuses | completes | poisons | fails => exact Or.inl claimed

theorem taken_goes (h : w.Goes r phase a progress)
    (copy : (of progress : Post w).taken = some row) : (told phase a).taken = some row := by
  cases h with
  | completes => exact copy
  | ends | selects | claims | fetches | opens | proceeds | offers | refuses | poisons | fails =>
    cases copy

end Post

end Relay
