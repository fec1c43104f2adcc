import Relay.Proofs.Fleet.Attempts
import Relay.Proofs.Fleet.Lease

/-!
# Attempts never overflow

The table adds one to the attempts of a row without looking whether there is such a number; a caller
for whom there is none breaks off and leaves the table poisoned. That never happens to a worker,
whatever limits the workers have, with however many attempts rows come in, and however late a worker
records what became of its copy (`Fleet.attempts_never_overflow`).

A row has room if it is terminal or one more attempt of it can be counted (`Row.HasRoom`). Whatever
changes a row leaves room in it (`Operation.hasRoom_effect`): a row that is claimed has attempts
left, a requeue gives them back, and the last number there is is the last attempt by every limit. So
a row without room is as it came in (`Table.hasRoom_after`). New claims are on no row, hence a row
without room is under no worker's claim, and no worker has a copy of one (`Fleet.Roomy`).
-/

namespace Relay

/-! ## Room for one more -/

/-- There is room in a row that is terminal or of which one more attempt can be counted. -/
def Row.HasRoom (r : Row) : Prop := r.isTerminal = false → r.attempts.toNat + 1 < 1 <<< 32

/-- A row that is due has attempts left by some limit. -/
theorem Row.hasRoom_of_isDue {r : Row} {due : Due} (isDue : r.isDue due) : r.HasRoom := by
  intro _
  obtain ⟨-, -, -, left⟩ := Row.isDue_iff.1 isDue
  have less := UInt32.lt_iff_toNat_lt.1 left
  have bound := due.maxAttempts.toNat_lt
  omega

/-- A row that is alive after a failed attempt has attempts left by the limit that the attempt
fits. -/
theorem Table.hasRoom_failed {a : Attempt} {limit : UInt32} (fits : a.Fits limit) (r : Row) :
    (failed a r).HasRoom := by
  intro alive
  have more : a.exhausted = false := (Bool.or_eq_false_iff.1 alive).2
  have less : a.previous.toNat + 1 < limit.toNat := by
    rw [fits, decide_eq_false_iff_not] at more
    omega
  have bound := limit.toNat_lt
  have count : (failed a r).attempts.toNat = a.previous.toNat + 1 := by
    simp only [failed, UInt32.toNat_add, UInt32.toNat_one]
    exact Nat.mod_eq_of_lt (by omega)
  omega

/-- What is recorded of a row is the last attempt by some limit or leaves attempts by it. -/
def Operation.IsLimited (op : Operation) : Prop :=
  ∀ id a, op = .call (.recordFailure id a) → ∃ limit, a.Fits limit

/-- **Whatever changes a row leaves room in it.** -/
theorem Operation.hasRoom_effect {op : Operation} (limited : op.IsLimited) (r : Row) :
    (op.effect r).HasRoom ∨ op.effect r = r := by
  cases op with
  | commit w => exact Or.inr rfl
  | call c =>
    cases c with
    | claim ids due claim expiry =>
      simp only [effect, Call.effect]
      split
      · rename_i taken
        have room := Row.hasRoom_of_isDue taken.2
        exact Or.inl room
      · exact Or.inr rfl
    | recordFailure id a =>
      obtain ⟨limit, fits⟩ := limited id a rfl
      simp only [effect, Call.effect]
      split
      · exact Or.inl (Table.hasRoom_failed fits r)
      · exact Or.inr rfl
    | requeue id =>
      simp only [effect, Call.effect]
      split
      · exact Or.inl fun _ => (by decide : (0 : UInt32).toNat + 1 < 1 <<< 32)
      · exact Or.inr rfl
    | markProcessed id now =>
      simp only [effect, Call.effect]
      split
      · refine Or.inl fun alive => ?_
        simp [Row.isTerminal] at alive
      · exact Or.inr rfl
    | markPoisoned id reason =>
      simp only [effect, Call.effect]
      split
      · refine Or.inl fun alive => ?_
        simp [Row.isTerminal] at alive
      · exact Or.inr rfl
    | insert | hasDue | selectDue | fetchClaimed | get | stats => exact Or.inr rfl

namespace Table

variable {t : Table} {op : Operation} {id : Uuid} {r : Row}

/-- A row without room is as it was before, or has just come in. -/
theorem hasRoom_after (limited : op.IsLimited) (there : (t.after op).find? id = some r) :
    r.HasRoom ∨ t.find? id = some r ∨ r ∈ op.inserted := by
  rcases find?_of_after there with before | ⟨s, before, rfl⟩ | new
  · exact Or.inr (Or.inl before)
  · rcases op.hasRoom_effect limited s with room | same
    · exact Or.inl room
    · exact Or.inr (Or.inl (before.trans (congrArg some same.symm)))
  · exact Or.inr (Or.inr new)

end Table

/-- A request that gets no answer is a call that breaks off. -/
theorem Request.breaksOff_of_unserved {t : Table} {reply : Except Refusal Unit} {q : Request}
    (unserved : (q.serve t reply).2 = none) : ∃ c, q = .store c ∧ t.BreaksOff c := by
  cases q with
  | store c => exact ⟨c, rfl, Table.breaksOff_of_unanswered unserved⟩
  | publish message => cases unserved

namespace Fleet

variable {ι : Type} {workers : ι → Worker} {f g : Fleet workers} {u : Turn ι} {id : Uuid}
  {a : Attempt} {op : Operation}

/-- Rows without room are under no worker's claim, and in every copy that a worker acts on there is
room. -/
structure Roomy (f : Fleet workers) : Prop where
  drafts : f.Drafts
  claimed : ∀ i c id r, (f.post i).claim = some c → f.table.find? id = some r →
    r.claimedBy = some c → r.HasRoom
  copied : ∀ i r, (f.post i).flight = some r → r.attempts.toNat + 1 < 1 <<< 32

theorem Fresh.roomy (fresh : f.Fresh) : f.Roomy where
  drafts := fresh.drafts
  claimed i c id r working := by
    rw [fresh.resting i] at working
    cases working
  copied i r copy := by
    rw [fresh.resting i] at copy
    cases copy

/-- Whoever records a failure counts on from a copy. -/
theorem Drafts.recording (h : f.Drafts) (drawn : f.Draws u)
    (does : f.Does u (.call (.recordFailure id a))) : ∃ i row, (f.post i).flight = some row ∧
      a.CountsOn row (workers i).tuning.maxAttempts := by
  cases does with
  | outside => cases drawn.1
  | calls i reply phase c asking hc =>
    cases phase with
    | failing b row span attempt retryAt reason =>
      cases hc
      exact ⟨i, row, by rw [asking]; rfl, h i b row span a retryAt reason asking⟩
    | checking | selecting | claiming | fetching | reading | completing | poisoning
    | publishing => cases hc

theorem Drafts.isLimited (h : f.Drafts) (drawn : f.Draws u) (does : f.Does u op) :
    op.IsLimited := by
  rintro id a rfl
  obtain ⟨i, row, -, counts⟩ := h.recording drawn does
  exact ⟨_, counts.fits⟩

/-- Whatever failure is recorded, there is a number for it. -/
theorem Roomy.previous_lt (h : f.Roomy) (drawn : f.Draws u)
    (does : f.Does u (.call (.recordFailure id a))) : a.previous.toNat + 1 < 1 <<< 32 := by
  obtain ⟨i, row, copy, counts⟩ := h.drafts.recording drawn does
  rw [counts.previous]
  exact h.copied i row copy

theorem Roomy.not_breaksOff (h : f.Roomy) (drawn : f.Draws u) {c : Call}
    (does : f.Does u (.call c)) : ¬ f.table.BreaksOff c :=
  Table.not_breaksOff_of_counts fun _ _ e => h.previous_lt drawn (e ▸ does)

variable [DecidableEq ι]

/-- A worker is gone because it was before, or because a call of its has just broken off. -/
theorem Moves.gone (m : f.Moves u g) {i : ι} (gone : g.post i = .gone) :
    f.post i = .gone ∨ ∃ c, f.Does u (.call c) ∧ f.table.BreaksOff c := by
  rcases m.post i with ⟨same, -⟩ | acts
  · exact Or.inl (same ▸ gone)
  · refine Or.inr ?_
    cases acts with
    | starts | fails =>
      rw [post_place_self] at gone
      cases gone
    | resumes reading phase answer told =>
      rw [post_place_self] at gone
      exact absurd gone (Post.of_ne_gone _)
    | serves reply phase asking =>
      rw [post_served_self, Post.hearing_eq_gone] at gone
      obtain ⟨c, hc, breaksOff⟩ := Request.breaksOff_of_unserved gone
      exact ⟨c, .calls i reply phase c asking hc, breaksOff⟩

namespace Roomy

variable (h : f.Roomy) (m : f.Moves u g) (drawn : f.Draws u)

include h m

theorem copied_step (i : ι) (r : Row) (copy : (g.post i).flight = some r) :
    r.attempts.toNat + 1 < 1 <<< 32 := by
  obtain ⟨-, before | ⟨reply, b, id, -, asking, -, found, alive, own⟩⟩ := m.flight copy
  · exact h.copied i r before
  · have working : (f.post i).claim = some b.claim := by
      rw [asking]
      rfl
    exact h.claimed i b.claim id r working found own alive

include drawn

theorem claimed_step (i : ι) (c : Claim) (id : Uuid) (r : Row)
    (working : (g.post i).claim = some c) (there : g.table.find? id = some r)
    (own : r.claimedBy = some c) : r.HasRoom := by
  rcases m.claim working with before | ⟨reading, rfl, draws, rfl, -⟩
  · rcases m.table with same | ⟨op, does, after⟩
    · exact h.claimed i c id r before (same ▸ there) own
    · rw [after] at there
      rcases Table.hasRoom_after (h.drafts.isLimited drawn does) there with room | stays | new
      · exact room
      · exact h.claimed i c id r before stays own
      · -- nobody puts a row in under the claim of a worker
        obtain rfl := does.outside_of_inserted new
        rcases drawn.2 r new with free | other
        · rw [free] at own
          cases own
        · exact absurd (own.trans before.symm) (other i)
  · -- a new claim is on no row yet
    rcases m.table with same | ⟨op, does, -⟩
    · rw [same] at there
      exact absurd own ((drawn draws).2 r (Table.mem_of_find? there))
    · cases does

theorem step : g.Roomy where
  drafts := h.drafts.step m
  claimed := h.claimed_step m drawn
  copied := h.copied_step m

/-- Nobody leaves the table poisoned. -/
theorem broken_step : g.table.broken = f.table.broken := by
  rcases m.table with same | ⟨op, does, after⟩
  · rw [same]
  · rw [after]
    exact Table.broken_after fun c e => h.not_breaksOff drawn (e ▸ does)

theorem gone_step (there : ∀ i, f.post i ≠ .gone) (i : ι) : g.post i ≠ .gone := by
  intro gone
  rcases m.gone gone with before | ⟨c, does, breaksOff⟩
  · exact there i before
  · exact h.not_breaksOff drawn does breaksOff

end Roomy

/-- **Attempts never overflow.** Workers, each with a limit of its own, begin to take turns with one
another and with callers who put in rows with any number of attempts and requeue them. If new claims
are nobody's and rows come in under no worker's claim, then however the turns are ordered, with
whatever failures, and however the clock is set: whenever the table is asked to count an attempt,
there is a number for it; no call leaves the table poisoned, and no worker breaks off. -/
theorem attempts_never_overflow (fresh : f.Fresh) {turns : List (Turn ι)}
    (drawn : Along (fun f u _ => f.Draws u) f turns) :
    (∀ id a, .call (.recordFailure id a) ∈ f.operations turns → a.previous.toNat + 1 < 1 <<< 32) ∧
      (f.run turns).table.broken = f.table.broken ∧ ∀ i, (f.run turns).post i ≠ .gone := by
  constructor
  · intro id a mem
    refine forall_operations (I := Roomy) (P := fun f u _ => f.Draws u)
      (Q := fun op => ∀ id a, op = .call (.recordFailure id a) → a.previous.toNat + 1 < 1 <<< 32)
      (fun _ _ _ h drawn m => h.step m drawn) ?_ fresh.roomy drawn _ mem id a rfl
    rintro f u - op h drawn does id a rfl
    exact h.previous_lt drawn does
  · have start : f.Roomy ∧ f.table.broken = f.table.broken ∧ ∀ i, f.post i ≠ .gone := by
      refine ⟨fresh.roomy, rfl, fun i gone => ?_⟩
      rw [fresh.resting i] at gone
      cases gone
    refine (run_keeps (P := fun f u _ => f.Draws u)
      (I := fun g => g.Roomy ∧ g.table.broken = f.table.broken ∧ ∀ i, g.post i ≠ .gone)
      ?_ start drawn).2
    rintro g u g' ⟨h, works, there⟩ drawn m
    exact ⟨h.step m drawn, (h.broken_step m drawn).trans works, h.gone_step m drawn there⟩

end Fleet

/-! ## Two couriers that hardly give up -/

namespace Office

/-- Couriers with different limits, the highest and the one below it. -/
def stalwart : Bool → Worker
  | false => { courier with tuning := { courier.tuning with maxAttempts := 4294967295 } }
  | true => { courier with tuning := { courier.tuning with maxAttempts := 4294967294 } }

/-- A row with one attempt left by the lower limit. -/
def weary : Row := { known with attempts := 4294967293 }

/-- A row that is alive and has no attempts left by any limit. -/
def spent : Row := { unknown with attempts := 4294967295 }

/-- The last attempt at a row that there can be. -/
def lastAttempt : Attempt :=
  ⟨4294967294, none, "attempts exhausted after 4294967295: down", true⟩

/-- The couriers, and nothing done yet. -/
def stalwarts : Fleet stalwart where
  table := { rows := [weary, spent] }
  clock := .epoch
  post _ := .resting

/-- The lease of the first courier runs out and the second one claims the row. Before that one has
read the row again, the first one records a failure. -/
def interference : List (Fleet.Turn Bool) :=
  pickup false 1 ++ .tick late :: approach true 2 ++ setback false

/-- The second courier fails as well. -/
def resignation : List (Fleet.Turn Bool) := .serve true (.ok ()) :: setback true

end Office

namespace Fleet

open Office in
/-- The row that the second courier reads again has used up that courier's limit and is alive. The
courier records the last attempt that there can be. Nobody touches the row that has none left. -/
theorem attempts_never_overflow_stalwarts :
    let f := stalwarts.run interference
    let g := stalwarts.run (interference ++ resignation)
    (f.table.find? known.id).map (fun r => (r.attempts, r.isTerminal, r.claimedBy)) =
        some (4294967294, false, some (.ofInstance "courier" (.ofNat 2))) ∧
      .call (.recordFailure known.id lastAttempt) ∈
        stalwarts.operations (interference ++ resignation) ∧
      lastAttempt.previous.toNat + 1 < 1 <<< 32 ∧ g.table.attempts known.id = 4294967295 ∧
      g.table.find? unknown.id = some spent ∧ g.table.broken = false ∧ ∀ i, g.post i ≠ .gone := by
  intro f g
  have ⟨drawn, last, tried, full, same⟩ :
      Along (fun f u _ => f.Draws u) stalwarts (interference ++ resignation) ∧
      .call (.recordFailure known.id lastAttempt) ∈
        stalwarts.operations (interference ++ resignation) ∧
      (f.table.find? known.id).map (fun r => (r.attempts, r.isTerminal, r.claimedBy)) =
        some (4294967294, false, some (.ofInstance "courier" (.ofNat 2))) ∧
      g.table.attempts known.id = 4294967295 ∧ g.table.find? unknown.id = some spent := by
    decide +kernel
  obtain ⟨counts, works, there⟩ := attempts_never_overflow ⟨fun _ => rfl, rfl⟩ drawn
  exact ⟨tried, last, counts known.id lastAttempt last, full, same, works, there⟩

end Fleet

end Relay
