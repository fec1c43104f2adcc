import Mathlib.Logic.Function.Iterate
import Relay.Proofs.Fleet.Basic

/-!
# An iteration that nobody interferes with

A `Solo` is one iteration of a worker that has a table for itself. All that it meets is fixed
beforehand by its `Surroundings`: a reading for every place where the worker reads, a reply of the
broker for every message, and the calls to the store that fail. `Solo.step` serves the request of
the worker and lets it go on; beside where the worker stands it keeps what the broker was offered,
the calls that were made and what became of the rows.

An iteration never waits twice in one place for one row, so that one reading for every place is as
good as one for every step. `Solo.Leads` is any number of steps and `Worker.Ends` a whole iteration,
of which there is only one (`Worker.Ends.unique`). `Worker.resume_eq_settle` says that the outcomes
that are kept are those that the worker counts in its report, and `Solo.step_eq_run` that a step is
made of turns of a fleet of one.
-/

namespace Relay

/-- What an iteration meets. -/
structure Surroundings where
  /-- Before the look for due rows. -/
  start : Reading
  /-- After it. -/
  checked : Reading
  /-- After the selection. -/
  selected : Reading
  /-- After the claim. -/
  claimed : Reading
  /-- After the claimed rows were read. -/
  fetched : Reading
  /-- After the row of an id was read again. -/
  reread : Uuid → Reading
  /-- After it was offered to the broker. -/
  published : Uuid → Reading
  /-- After the outcome was recorded. -/
  recorded : Uuid → Reading
  /-- What the broker replies to a message. -/
  reply : Message → Except Refusal Unit
  /-- The calls to the store that fail, without effect. -/
  failure : Call → Option StoreError := fun _ => none

namespace Surroundings

variable (c : Surroundings)

/-- What the worker reads when it has the answer that a phase waits for. -/
def reading : Phase → Reading
  | .checking _ => c.checked
  | .selecting _ => c.selected
  | .claiming _ _ _ _ => c.claimed
  | .fetching _ _ _ => c.fetched
  | .reading _ id => c.reread id
  | .publishing _ row _ => c.published row.id
  | .completing _ row _ _ | .poisoning _ row _ _ _ | .failing _ row _ _ _ _ => c.recorded row.id

/-- Serves a request; there is no answer if the caller breaks off. -/
def serve (t : Table) : (q : Request) → Table × Option q.Answer
  | .store call =>
    match c.failure call with
    | some e => (t, some (.error e))
    | none => t.respond call
  | .publish m => (t, some (c.reply m))

theorem serve_failed {c : Surroundings} {call : Call} {e : StoreError}
    (h : c.failure call = some e) (t : Table) :
    c.serve t (.store call) = (t, some (.error e)) := by
  simp only [serve, h]

theorem serve_responds {c : Surroundings} {call : Call} (h : c.failure call = none) (t : Table) :
    c.serve t (.store call) = t.respond call := by
  simp only [serve, h]

/-- What a phase offers to the broker. -/
def offers : Phase → List Offer
  | .publishing _ row span => [⟨row.id, row.message span, c.reply (row.message span)⟩]
  | _ => []

/-- Nobody tells the worker to stop. -/
def Uncancelled : Prop := ∀ p, (c.reading p).cancelled = false

/-- No call to the store fails. -/
def Faultless : Prop := ∀ call, c.failure call = none

end Surroundings

/-- The call that a request makes to the store. -/
def Request.calls : Request → List Call
  | .store call => [call]
  | .publish _ => []

/-! ## What is counted -/

namespace Worker

/-- The row that a step is done with, and what is counted of it. -/
def settles (w : Worker) (r : Reading) :
    (p : Phase) → (p.request w).Answer → Option (Uuid × RowOutcome)
  | .checking _, _ | .selecting _, _ | .claiming _ _ _ _, _ | .fetching _ _ _, _ => none
  | .reading b id, a =>
    match (a : Except StoreError (Option Row)) with
    | .error _ => some (id, .storeError)
    | .ok none => some (id, .skipped)
    | .ok (some row) =>
      if row.isTerminal || row.claimedBy ≠ some b.claim then some (id, .skipped) else none
  | .publishing _ row _, a =>
    match (a : Except Refusal Unit) with
    | .error (.transient _) => if r.cancelled then some (row.id, .abandoned) else none
    | _ => none
  | .completing _ row _ _, a =>
    match (a : Except StoreError Bool) with
    | .ok _ => some (row.id, .processed)
    | .error _ => some (row.id, .storeError)
  | .poisoning _ row _ reason _, a =>
    match (a : Except StoreError Bool) with
    | .ok true => some (row.id, .poisoned reason)
    | .ok false => some (row.id, .skipped)
    | .error _ => some (row.id, .storeError)
  | .failing _ row _ attempt retryAt _, a =>
    match (a : Except StoreError Bool) with
    | .ok true =>
      some (row.id, if attempt.exhausted then .poisoned .attemptsExhausted
        else .failed (nextAttempt row) retryAt)
    | .ok false => some (row.id, .skipped)
    | .error _ => some (row.id, .storeError)

variable {w : Worker} {r : Reading}

/-- **What is kept is what is counted.** A step that is done with a row counts the outcome in the
report of its batch, and goes on from there. -/
theorem resume_eq_settle {p : Phase} {a : (p.request w).Answer} {id : Uuid} {o : RowOutcome}
    (h : w.settles r p a = some (id, o)) :
    ∃ b acts, p.batch = some b ∧ w.resume r p a = settle acts b o r := by
  cases p with
  | checking | selecting | claiming | fetching => cases h
  | reading b x =>
    rcases a with e | (_ | row)
    · cases h
      exact ⟨b, _, rfl, rfl⟩
    · cases h
      exact ⟨b, _, rfl, rfl⟩
    · simp only [settles] at h
      split at h
      · rename_i lost
        cases h
        exact ⟨b, _, rfl, if_pos lost⟩
      · cases h
  | publishing b row span =>
    rcases a with (reason | reason) | ⟨⟩
    · cases h
    · simp only [settles] at h
      split at h
      · rename_i cancelled
        cases h
        exact ⟨b, _, rfl, if_pos cancelled⟩
      · cases h
    · cases h
  | completing b row span now =>
    rcases a with e | applied <;> cases h <;> exact ⟨b, _, rfl, rfl⟩
  | poisoning b row span reason detail =>
    rcases a with e | (_ | _) <;> cases h <;> exact ⟨b, _, rfl, rfl⟩
  | failing b row span attempt retryAt reason =>
    rcases a with e | (_ | _)
    · cases h
      exact ⟨b, _, rfl, rfl⟩
    · cases h
      exact ⟨b, _, rfl, rfl⟩
    · cases exhausted : attempt.exhausted <;> simp only [settles, exhausted] at h <;> cases h
      · exact ⟨b, _, rfl, by simp only [resume, failed, exhausted]; rfl⟩
      · exact ⟨b, _, rfl, by simp only [resume, failed, exhausted]; rfl⟩

end Worker

/-! ## Steps -/

/-- An iteration that has a table for itself. -/
structure Solo where
  table : Table
  /-- Where the worker stands; none if it broke off. -/
  progress : Option Progress
  /-- What the broker was offered, in order. -/
  offers : List Offer := []
  /-- The calls that were made to the store, in order. -/
  calls : List Call := []
  /-- What became of the rows that the worker is done with, in order. -/
  outcomes : List (Uuid × RowOutcome) := []

namespace Solo

variable (w : Worker) (c : Surroundings)

/-- An iteration that begins. -/
def begin (t : Table) : Solo := { table := t, progress := some (.waiting (w.start c.start)) }

/-- The worker's request is served and it goes on, unless it is done. -/
def step (s : Solo) : Solo :=
  match s.progress with
  | some (.waiting phase) =>
    let (table, answer) := c.serve s.table (phase.request w)
    { table
      progress := answer.map fun a => (w.resume (c.reading phase) phase a).progress
      offers := s.offers ++ c.offers phase
      calls := s.calls ++ (phase.request w).calls
      outcomes := s.outcomes ++ (answer.bind (w.settles (c.reading phase) phase)).toList }
  | some (.finished _) | none => s

/-- Steps lead from one state to another. -/
def Leads (s s' : Solo) : Prop := ∃ n, (step w c)^[n] s = s'

variable {w c} {s s' s'' : Solo}

theorem Leads.refl (s : Solo) : Leads w c s s := ⟨0, rfl⟩

theorem Leads.trans (h : Leads w c s s') (h' : Leads w c s' s'') : Leads w c s s'' := by
  obtain ⟨n, rfl⟩ := h
  obtain ⟨m, rfl⟩ := h'
  exact ⟨m + n, Function.iterate_add_apply _ m n s⟩

/-- A request that is answered leads on. -/
theorem leads_answered {t t' : Table} {p : Phase} {a : (p.request w).Answer} {progress : Progress}
    {os os' : List Offer} {cs cs' : List Call} {us us' : List (Uuid × RowOutcome)}
    (served : c.serve t (p.request w) = (t', some a))
    (goes : (w.resume (c.reading p) p a).progress = progress) (offered : os ++ c.offers p = os')
    (called : cs ++ (p.request w).calls = cs')
    (counted : us ++ (w.settles (c.reading p) p a).toList = us') :
    Leads w c ⟨t, some (.waiting p), os, cs, us⟩ ⟨t', some progress, os', cs', us'⟩ := by
  subst goes offered called counted
  refine ⟨1, ?_⟩
  simp only [Function.iterate_one, step, served, Option.map_some, Option.bind_some]

/-- An iteration that is over stays as it is. -/
theorem iterate_finished {outcome : Outcome} (ended : s.progress = some (.finished outcome))
    (n : Nat) : (step w c)^[n] s = s :=
  Function.iterate_fixed (by simp only [step, ended]) n

end Solo

/-! ## Whole iterations -/

/-- How an iteration ended, and what it did on the way. -/
structure Ending where
  table : Table
  outcome : Outcome
  offers : List Offer
  calls : List Call
  outcomes : List (Uuid × RowOutcome)

/-- The iteration at its end. -/
def Ending.solo (e : Ending) : Solo :=
  ⟨e.table, some (.finished e.outcome), e.offers, e.calls, e.outcomes⟩

/-- An iteration of a worker ends so. -/
def Worker.Ends (w : Worker) (c : Surroundings) (t : Table) (e : Ending) : Prop :=
  Solo.Leads w c (.begin w c t) e.solo

/-- **An iteration ends in one way only.** -/
theorem Worker.Ends.unique {w : Worker} {c : Surroundings} {t : Table} {e e' : Ending}
    (h : w.Ends c t e) (h' : w.Ends c t e') : e = e' := by
  obtain ⟨n, hn⟩ := h
  obtain ⟨m, hm⟩ := h'
  have same : e.solo = e'.solo := by
    -- both are reached by the longer of the two runs
    rcases Nat.le_total n m with le | le
    · obtain ⟨k, rfl⟩ := Nat.exists_eq_add_of_le' le
      rw [Function.iterate_add_apply, hn, Solo.iterate_finished rfl] at hm
      exact hm
    · obtain ⟨k, rfl⟩ := Nat.exists_eq_add_of_le' le
      rw [Function.iterate_add_apply, hm, Solo.iterate_finished rfl] at hn
      exact hn.symm
  cases e
  cases e'
  simpa [Ending.solo] using same

/-! ## A fleet of one -/

namespace Solo

variable {w : Worker} {c : Surroundings}

/-- An iteration as a fleet of one. -/
def fleet (w : Worker) (s : Solo) (clock : Instant) : Fleet fun _ : Unit => w where
  table := s.table
  clock
  post _ := s.progress.elim .gone .of
  offers := s.offers

/-- The turn in which the request of a phase is served, or fails. -/
def answering (w : Worker) (c : Surroundings) (p : Phase) : Fleet.Turn Unit :=
  match p.request w with
  | .store call => (c.failure call).elim (.serve () (.ok ())) (.fail ())
  | .publish m => .serve () (c.reply m)

/-- A worker of a fleet of one moves. -/
theorem place_unit (f : Fleet fun _ : Unit => w) (p : Post w) :
    f.place () p = { f with post := fun _ => p } := by
  simp only [Fleet.place, Function.update_eq_const_of_subsingleton]
  rfl

theorem turn_answering {t : Table} {clock : Instant} {os : List Offer} (p : Phase) :
    (⟨t, clock, fun _ => .asking p, os⟩ : Fleet fun _ : Unit => w).turn (answering w c p) =
      ⟨(c.serve t (p.request w)).1, clock, fun _ => .hearing p (c.serve t (p.request w)).2,
        os ++ c.offers p⟩ := by
  cases p with
  | publishing b row span =>
    simp only [answering, Fleet.turn, Fleet.served, place_unit]
    rfl
  | checking | selecting | claiming | fetching | reading | completing | poisoning | failing =>
    simp only [answering, Surroundings.serve]
    cases c.failure _ with
    | none =>
      simp only [Option.elim_none, Fleet.turn, Fleet.served, place_unit]
      rfl
    | some e =>
      simp only [Option.elim_some, Fleet.turn, Request.failure, place_unit]
      simp [Surroundings.offers]
      rfl

/-- **A step is made of turns**: the clock is set, the request is answered, and the worker goes on.
-/
theorem step_eq_run {s : Solo} {p : Phase} (h : s.progress = some (.waiting p)) (clock : Instant) :
    (s.fleet w clock).run [.tick (c.reading p).now, answering w c p, .resume () (c.reading p)] =
      (step w c s).fleet w (c.reading p).now := by
  have asking : s.fleet w clock = ⟨s.table, clock, fun _ => .asking p, s.offers⟩ := by
    simp only [fleet, h]
    rfl
  rw [asking]
  show (((⟨s.table, (c.reading p).now, fun _ => .asking p, s.offers⟩ :
    Fleet fun _ : Unit => w).turn (answering w c p)).turn (.resume () (c.reading p))) = _
  rw [turn_answering]
  simp only [fleet, step, h]
  cases (c.serve s.table (p.request w)).2 with
  | none => rfl
  | some a =>
    simp only [Fleet.turn, Post.hearing, place_unit]
    rfl

end Solo

end Relay
