import Mathlib.Algebra.BigOperators.Group.Finset.Basic
import Mathlib.Algebra.GroupWithZero.Nat
import Relay.Proofs.Fleet.Drain
import Relay.Proofs.Fleet.Report
import Relay.Proofs.Table.Granted

/-!
# The accounts of a fleet

Counts of what became of rows are kept in three places: in the reports of iterations, in what is
measured, and in the calls that the table has granted. `Fleet.accounts_agree` says that they agree
once all iterations are over, whatever the order of the turns and whatever failed on the way.

In between they differ by what the workers have in hand: an iteration that goes on has counted rows
in a report that it has not given yet (`Post.draft`), and a worker that was told of a change has not
counted it yet (`Post.verdict`). A turn moves counts from one place to the other
(`Fleet.counts_kept`), so the totals over all workers are kept by a run, and workers that rest have
nothing in hand (`Fleet.Ledger.balance`).
-/

namespace Relay

/-- What became of a row when a call was granted. To mark a row processed is counted whether it is
granted or not. -/
def Call.verdict : Call → Option Verdict
  | .markPoisoned _ _ => some .poisoned
  | .recordFailure _ attempt => some (if attempt.exhausted then .poisoned else .failed)
  | .insert _ | .hasDue _ | .selectDue _ _ | .claim _ _ _ _ | .fetchClaimed _ _ | .get _
  | .markProcessed _ _ | .stats _ | .requeue _ => none

/-- The call of a request to the store. -/
def Request.call : Request → Option Call
  | .store c => some c
  | .publish _ => none

/-- A worker that is answered learns of a verdict exactly when its call is granted. -/
theorem Phase.verdict_iff_granted {w : Worker} {p : Phase} {t : Table} {reply : Except Refusal Unit}
    {a : (p.request w).Answer} (given : ((p.request w).serve t reply).2 = some a) {v : Verdict}
    (other : v ≠ .processed) :
    (((p.request w).call.filter t.grants).toList.countP fun c => c.verdict = some v) =
      if p.verdict w a = some v then 1 else 0 := by
  have uncounted : ∀ c : Call, c.verdict = none →
      (((some c).filter t.grants).toList.countP fun c => c.verdict = some v) = 0 := by
    intro c none
    cases granted : t.grants c <;> simp [Option.filter, granted, none]
  cases p with
  | poisoning b row span reason detail =>
    have grants : t.grants (.markPoisoned row.id detail) = Call.isYes _ (some a) :=
      congrArg (Call.isYes (.markPoisoned row.id detail)) given
    rcases a with e | (_ | _) <;>
      simp [Request.call, Option.filter, grants, Call.isYes, Phase.verdict, Call.verdict]
  | failing b row span attempt retryAt reason =>
    have grants : t.grants (.recordFailure row.id attempt) = Call.isYes _ (some a) :=
      congrArg (Call.isYes (.recordFailure row.id attempt)) given
    rcases a with e | (_ | _) <;>
      simp [Request.call, Option.filter, grants, Call.isYes, Phase.verdict, Call.verdict]
  | completing b row span now =>
    have unmeant : (Phase.completing b row span now).verdict w a ≠ some v := by
      rcases a with e | yes
      · exact (Option.some_ne_none v).symm
      · exact fun processed => other (Option.some.inj processed).symm
    rw [if_neg unmeant]
    exact uncounted _ rfl
  | checking | selecting | claiming | fetching | reading => exact uncounted _ rfl
  | publishing => rfl

namespace Post

variable {w : Worker}

instance : (p : Post w) → Decidable (p = .resting)
  | .resting => isTrue rfl
  | .asking _ | .told _ _ | .gone => isFalse nofun

/-- The report of the iteration so far. -/
def draft : Post w → Option Report
  | .asking phase | .told phase _ => phase.batch.map Batch.report
  | .resting | .gone => none

/-- What a worker was told of the row in hand. -/
def verdict : Post w → Option Verdict
  | .told phase answer => phase.verdict w answer
  | .resting | .asking _ | .gone => none

/-- The number of rows that the worker has counted so far. -/
def counted (p : Post w) (v : Verdict) : Nat := Report.countIn p.draft v

/-- The same, and the row in hand if the worker was told of it. -/
def known (p : Post w) (v : Verdict) : Nat := p.counted v + if p.verdict = some v then 1 else 0

/-- The report adds up so far. -/
def Balanced : Post w → Prop
  | .asking phase | .told phase _ => phase.Balanced
  | .resting | .gone => True

theorem draft_of (progress : Progress) : (of progress : Post w).draft = progress.draft := by
  cases progress <;> rfl

theorem verdict_of (progress : Progress) : (of progress : Post w).verdict = none := by
  cases progress <;> rfl

/-- A worker whose call failed was told nothing of the row. -/
theorem verdict_failure {phase : Phase} {e : StoreError} {answer : (phase.request w).Answer}
    (failure : (phase.request w).failure e = some answer) :
    (told phase answer).verdict = none := by
  cases phase with
  | publishing => cases failure
  | checking | selecting | claiming | fetching | reading | completing | poisoning | failing =>
    cases failure
    rfl

theorem balanced_of {progress : Progress} (balanced : progress.Balanced) :
    (of progress : Post w).Balanced := by
  cases progress with
  | waiting phase => exact balanced
  | finished outcome => trivial

theorem balanced_hearing {phase : Phase} (balanced : phase.Balanced)
    (answer : Option (phase.request w).Answer) : (hearing phase answer).Balanced := by
  cases answer with
  | none => trivial
  | some a => exact balanced

end Post

namespace Fleet

variable {ι : Type} {workers : ι → Worker}

/-- The report of the iteration that a turn brings to an end. -/
def reported (f : Fleet workers) (u : Turn ι) : List Report :=
  ((f.outcome u).bind Outcome.report).toList

/-- The call of a worker that the table grants in a turn. -/
def granted (f : Fleet workers) : Turn ι → List Call
  | .serve i _ =>
    match f.post i with
    | .asking phase => ((phase.request (workers i)).call.filter f.table.grants).toList
    | _ => []
  | .start _ _ | .fail _ _ | .resume _ _ | .outside _ | .tick _ => []

theorem granted_serve (f : Fleet workers) (reply : Except Refusal Unit) {i : ι} {phase : Phase}
    (asking : f.post i = .asking phase) :
    f.granted (.serve i reply) =
      ((phase.request (workers i)).call.filter f.table.grants).toList := by
  simp only [granted, asking]

theorem measured_resume (f : Fleet workers) {i : ι} {r : Reading} {phase : Phase}
    {answer : (phase.request (workers i)).Answer} (told : f.post i = .told phase answer) :
    f.measured (.resume i r) = ((workers i).resume (f.read r) phase answer).measured := by
  simp only [measured, told]

theorem reported_resume (f : Fleet workers) {i : ι} {r : Reading} {phase : Phase}
    {answer : (phase.request (workers i)).Answer} (told : f.post i = .told phase answer) :
    f.reported (.resume i r) =
      ((workers i).resume (f.read r) phase answer).progress.report.toList := by
  simp only [reported, outcome, told]
  cases ((workers i).resume (f.read r) phase answer).progress <;> rfl

theorem mem_reported {f : Fleet workers} {u : Turn ι} {report : Report}
    (mem : report ∈ f.reported u) : ∃ i r phase answer, f.post i = .told phase answer ∧
      ((workers i).resume (f.read r) phase answer).progress = .finished (.dispatched report) := by
  cases u with
  | start | serve | fail | outside | tick => cases mem
  | resume i r =>
    cases told : f.post i with
    | resting | asking | gone => simp [reported, outcome, told] at mem
    | told phase answer =>
      rw [f.reported_resume told, Option.mem_toList] at mem
      refine ⟨i, r, phase, answer, told, ?_⟩
      cases stands : ((workers i).resume (f.read r) phase answer).progress with
      | waiting next =>
        rw [stands] at mem
        cases mem
      | finished outcome =>
        rw [stands] at mem
        cases outcome with
        | dispatched report' => rw [Option.some.inj mem]
        | idle | lostRace | failed => cases mem

/-- Others measure, report and are granted nothing. -/
theorem unaccounted {f : Fleet workers} {u : Turn ι} (others : u.actor = none) :
    f.measured u = [] ∧ f.reported u = [] ∧ f.granted u = [] := by
  cases u with
  | outside | tick => exact ⟨rfl, rfl, rfl⟩
  | start | serve | fail | resume => cases others

variable [DecidableEq ι]

/-- What is gathered along a run. -/
def gather {α : Type} (q : Fleet workers → Turn ι → List α) :
    Fleet workers → List (Turn ι) → List α
  | _, [] => []
  | f, u :: turns => q f u ++ gather q (f.turn u) turns

/-- The reports of all iterations that came to an end. -/
def reports : Fleet workers → List (Turn ι) → List Report := gather reported

/-- All that was measured. -/
def measurements : Fleet workers → List (Turn ι) → List Measurement := gather measured

/-- All calls of workers that were granted. -/
def grants : Fleet workers → List (Turn ι) → List Call := gather granted

variable {f : Fleet workers} {i : ι}

/-! ## Whose turn it is -/

theorem post_turn_of_ne {u : Turn ι} (other : u.actor ≠ some i) :
    (f.turn u).post i = f.post i := by
  rcases (f.moves u).post i with ⟨stays, -⟩ | acts
  · exact stays
  · exact absurd acts.actor other

/-- A worker that broke off is gone for good. -/
theorem gone_run (gone : f.post i = .gone) (turns : List (Turn ι)) :
    (f.run turns).post i = .gone := by
  induction turns generalizing f with
  | nil => exact gone
  | cons u turns ih =>
    refine ih ?_
    rcases (f.moves u).post i with ⟨stays, -⟩ | acts
    · rw [stays, gone]
    · generalize f.turn u = g at acts
      cases acts with
      | starts reading h | serves reply phase h | fails e phase answer h
      | resumes reading phase answer h =>
        rw [gone] at h
        cases h

/-- What a worker does in its turn, which is nothing if the turn does not apply. -/
theorem acts_or_rests (f : Fleet workers) {u : Turn ι} (actor : u.actor = some i) :
    f.Acts i u (f.turn u) ∨
      f.turn u = f ∧ f.measured u = [] ∧ f.reported u = [] ∧ f.granted u = [] := by
  cases u with
  | outside | tick => cases actor
  | start i' r =>
    obtain rfl := Option.some.inj actor
    cases h : f.post i' with
    | resting =>
      simp only [turn, h]
      exact .inl (.starts r h)
    | asking | told | gone => exact .inr ⟨by simp [turn, h], rfl, rfl, rfl⟩
  | serve i' reply =>
    obtain rfl := Option.some.inj actor
    cases h : f.post i' with
    | asking phase =>
      simp only [turn, h]
      exact .inl (.serves reply phase h)
    | resting | told | gone => exact .inr ⟨by simp [turn, h], rfl, rfl, by simp [granted, h]⟩
  | fail i' e =>
    obtain rfl := Option.some.inj actor
    cases h : f.post i' with
    | asking phase =>
      cases failure : (phase.request (workers i')).failure e with
      | none => exact .inr ⟨by simp [turn, h, failure], rfl, rfl, rfl⟩
      | some answer =>
        simp only [turn, h, failure]
        exact .inl (.fails e phase answer h failure)
    | resting | told | gone => exact .inr ⟨by simp [turn, h], rfl, rfl, rfl⟩
  | resume i' r =>
    obtain rfl := Option.some.inj actor
    cases h : f.post i' with
    | told phase answer =>
      simp only [turn, h]
      exact .inl (.resumes r phase answer h)
    | resting | asking | gone =>
      exact .inr ⟨by simp [turn, h], by simp [measured, h], by simp [reported, outcome, h], rfl⟩

/-! ## What is in hand -/

/-- What is measured is put into a report, or kept for one; so is what is granted, once the worker
was told. -/
theorem counts_kept (f : Fleet workers) (v : Verdict) {u : Turn ι} (actor : u.actor = some i)
    (stays : (f.turn u).post i ≠ .gone) :
    (f.post i).counted v + (f.measured u).countP (fun m => m.verdict = some v) =
        ((f.turn u).post i).counted v + ((f.reported u).map (Report.count · v)).sum ∧
      (v ≠ .processed →
        (f.post i).known v + (f.granted u).countP (fun c => c.verdict = some v) =
          ((f.turn u).post i).known v + ((f.reported u).map (Report.count · v)).sum) := by
  rcases f.acts_or_rests actor with acts | ⟨same, measured, reported, granted⟩
  · generalize f.turn u = g at acts stays
    cases acts with
    | starts r resting =>
      rw [post_place_self, resting]
      exact ⟨rfl, fun _ => rfl⟩
    | serves reply phase asking =>
      rw [post_served_self] at stays ⊢
      rw [asking, f.granted_serve reply asking]
      cases given : ((phase.request (workers i)).serve f.table reply).2 with
      | none =>
        rw [given] at stays
        exact absurd rfl stays
      | some answer => exact ⟨rfl, fun other => by rw [Phase.verdict_iff_granted given other]; rfl⟩
    | fails e phase answer asking failure =>
      rw [post_place_self, asking]
      refine ⟨rfl, fun _ => ?_⟩
      rw [Post.known, Post.known, Post.verdict_failure failure]
      rfl
    | resumes r phase answer told =>
      have counts := (workers i).count_resume (f.read r) phase answer v
      have account : ((f.reported (.resume i r)).map (Report.count · v)).sum +
          (Post.of ((workers i).resume (f.read r) phase answer).progress : Post (workers i)).counted
            v = (Post.told phase answer : Post (workers i)).known v := by
        rw [f.reported_resume told, Post.counted, Post.draft_of]
        refine Eq.trans ?_ counts
        congr 1
        cases ((workers i).resume (f.read r) phase answer).progress.report <;> simp [Report.countIn]
      rw [post_place_self, told, f.measured_resume told, Worker.countP_measured]
      have unheard : (Post.of ((workers i).resume (f.read r) phase answer).progress :
          Post (workers i)).verdict = none := Post.verdict_of _
      refine ⟨?_, fun _ => ?_⟩
      · rw [Nat.add_comm _ (List.sum _), account]
        rfl
      · have nothing : f.granted (.resume i r) = [] := rfl
        rw [← account, Post.known, unheard, nothing, List.countP_nil,
          if_neg (Option.some_ne_none v).symm, Nat.add_zero, Nat.add_zero, Nat.add_comm]
  · rw [same, measured, reported, granted]
    exact ⟨rfl, fun _ => rfl⟩

/-! ## All workers -/

variable {α : Type}

theorem mem_gather {q : Fleet workers → Turn ι → List α} {turns : List (Turn ι)} {a : α}
    (h : a ∈ gather q f turns) :
    ∃ earlier u later, turns = earlier ++ u :: later ∧ a ∈ q (f.run earlier) u := by
  induction turns generalizing f with
  | nil => cases h
  | cons u turns ih =>
    rcases List.mem_append.mp h with h | h
    · exact ⟨[], u, turns, rfl, h⟩
    · obtain ⟨earlier, u', later, rfl, mem⟩ := ih h
      exact ⟨u :: earlier, u', later, rfl, mem⟩

/-- Something that workers take in and that is due in their reports. Each turn keeps the difference
in the hands of the worker whose turn it is, unless the worker breaks off. -/
structure Ledger (workers : ι → Worker) (v : Verdict) (α : Type) where
  /-- What a worker has in hand. -/
  held : (i : ι) → Post (workers i) → Nat
  income : Fleet workers → Turn ι → List α
  counts : α → Bool
  empty : ∀ i, held i .resting = 0
  idle : ∀ f u, u.actor = none → income f u = []
  kept : ∀ f u i, u.actor = some i → (f.turn u).post i ≠ .gone →
    held i (f.post i) + (income f u).countP counts =
      held i ((f.turn u).post i) + ((f.reported u).map (Report.count · v)).sum

namespace Ledger

variable {v : Verdict} (l : Ledger workers v α)

/-- What a turn keeps of the worker whose turn it is, it keeps of all workers. -/
theorem sum_turn {u : Turn ι} {s : Finset ι} (named : ∀ i, u.actor = some i → i ∈ s)
    (stays : ∀ i, (f.turn u).post i ≠ .gone) :
    (∑ i ∈ s, l.held i (f.post i)) + (l.income f u).countP l.counts =
      (∑ i ∈ s, l.held i ((f.turn u).post i)) + ((f.reported u).map (Report.count · v)).sum := by
  have still : ∀ j, u.actor ≠ some j → l.held j (f.post j) = l.held j ((f.turn u).post j) :=
    fun j other => by rw [post_turn_of_ne other]
  cases actor : u.actor with
  | none =>
    have same := Finset.sum_congr (rfl : s = s) fun j _ => still j (by
      rw [actor]
      exact (Option.some_ne_none j).symm)
    rw [same, l.idle f u actor, (unaccounted actor).2.1]
    rfl
  | some i =>
    have others := Finset.sum_congr (rfl : s.erase i = s.erase i) fun j mem => still j fun own =>
      Finset.ne_of_mem_erase mem (Option.some.inj (own.symm.trans actor))
    have kept := l.kept f u i actor (stays i)
    rw [← Finset.add_sum_erase s _ (named i actor), ← Finset.add_sum_erase s _ (named i actor),
      others]
    omega

theorem sum_run {turns : List (Turn ι)} {s : Finset ι}
    (named : ∀ u ∈ turns, ∀ i, u.actor = some i → i ∈ s)
    (stay : ∀ i, (f.run turns).post i ≠ .gone) :
    (∑ i ∈ s, l.held i (f.post i)) + (gather l.income f turns).countP l.counts =
      (∑ i ∈ s, l.held i ((f.run turns).post i)) +
        ((f.reports turns).map (Report.count · v)).sum := by
  induction turns generalizing f with
  | nil => rfl
  | cons u turns ih =>
    have later := ih (fun u' mem => named u' (.tail u mem)) stay
    have step := l.sum_turn (named u (.head _)) fun i gone => stay i (gone_run gone turns)
    have split : (f.reports (u :: turns)).map (Report.count · v) =
        (f.reported u).map (Report.count · v) ++
          ((f.turn u).reports turns).map (Report.count · v) := List.map_append
    rw [gather, List.countP_append, split, List.sum_append, run_cons]
    omega

/-- **Ledgers balance** between two times when all workers rest. -/
theorem balance (begins : ∀ i, f.post i = .resting) {turns : List (Turn ι)}
    (ended : ∀ i, (f.run turns).post i = .resting) :
    (gather l.income f turns).countP l.counts =
      ((f.reports turns).map (Report.count · v)).sum := by
  have named : ∀ u ∈ turns, ∀ i, u.actor = some i → i ∈ (turns.filterMap Turn.actor).toFinset :=
    fun u mem i actor => List.mem_toFinset.mpr (List.mem_filterMap.mpr ⟨u, mem, actor⟩)
  have kept := l.sum_run named fun i gone => by
    rw [ended i] at gone
    cases gone
  have before : ∀ i ∈ (turns.filterMap Turn.actor).toFinset, l.held i (f.post i) = 0 :=
    fun i _ => by rw [begins i, l.empty]
  have after : ∀ i ∈ (turns.filterMap Turn.actor).toFinset,
      l.held i ((f.run turns).post i) = 0 := fun i _ => by rw [ended i, l.empty]
  rwa [Finset.sum_eq_zero before, Finset.sum_eq_zero after, Nat.zero_add, Nat.zero_add] at kept

/-- What is measured of a verdict. Workers have in hand what they have counted. -/
def ofMeasured (workers : ι → Worker) (v : Verdict) : Ledger workers v Measurement where
  held _ p := p.counted v
  income := measured
  counts m := m.verdict = some v
  empty _ := rfl
  idle _ _ others := (unaccounted others).1
  kept f _ _ actor stays := (f.counts_kept v actor stays).1

/-- The calls of a verdict that are granted. Workers have in hand what they have counted, and what
they were told and have not counted yet. -/
def ofGranted (workers : ι → Worker) {v : Verdict} (other : v ≠ .processed) :
    Ledger workers v Call where
  held _ p := p.known v
  income := granted
  counts c := c.verdict = some v
  empty _ := rfl
  idle _ _ others := (unaccounted others).2.2
  kept f _ _ actor stays := (f.counts_kept v actor stays).2 other

end Ledger

/-! ## Reports add up -/

/-- The reports of all workers add up so far. -/
theorem balanced_run (begins : ∀ i, f.post i = .resting) (turns : List (Turn ι)) :
    ∀ i, ((f.run turns).post i).Balanced := by
  refine run_keeps (P := fun _ _ _ => True) (I := fun f => ∀ i, (f.post i).Balanced)
    (fun f u g balanced _ m i => ?_) (fun i => ?_) (along_of_forall (fun _ _ => trivial) f)
  · rcases m.post i with ⟨stays, -⟩ | acts
    · rw [stays]
      exact balanced i
    · have before := balanced i
      cases acts with
      | starts r resting =>
        rw [post_place_self]
        exact nofun
      | serves reply phase asking =>
        rw [asking] at before
        rw [post_served_self]
        exact Post.balanced_hearing before _
      | fails e phase answer asking =>
        rw [asking] at before
        rw [post_place_self]
        exact before
      | resumes r phase answer told =>
        rw [told] at before
        rw [post_place_self]
        exact Post.balanced_of ((workers i).balanced_resume (f.read r) phase answer before)
  · rw [begins i]
    trivial

/-- Every report that is given adds up. -/
theorem claimed_eq_total (begins : ∀ i, f.post i = .resting) {turns : List (Turn ι)}
    {report : Report} (reported : report ∈ f.reports turns) : report.claimed = report.total := by
  obtain ⟨earlier, u, later, -, mem⟩ := mem_gather reported
  obtain ⟨i, r, phase, answer, told, finished⟩ := mem_reported mem
  have before := balanced_run begins earlier i
  rw [told] at before
  have balanced := (workers i).balanced_resume ((f.run earlier).read r) phase answer before
  rw [finished] at balanced
  exact balanced report rfl

/-- Iterations are measured as they are reported. -/
theorem claimed_measurements (f : Fleet workers) (turns : List (Turn ι)) :
    (f.measurements turns).filterMap Measurement.claimed =
      (f.reports turns).map Report.claimed := by
  have step : ∀ (f : Fleet workers) (u : Turn ι),
      (f.measured u).filterMap Measurement.claimed = (f.reported u).map Report.claimed := by
    intro f u
    cases u with
    | start | serve | fail | outside | tick => rfl
    | resume i r =>
      cases told : f.post i with
      | resting | asking | gone => simp [measured, reported, outcome, told]
      | told phase answer =>
        rw [f.measured_resume told, f.reported_resume told, Worker.claimed_measured,
          Option.toList_map]
  induction turns generalizing f with
  | nil => rfl
  | cons u turns ih =>
    show (f.measured u ++ (f.turn u).measurements turns).filterMap Measurement.claimed =
      (f.reported u ++ (f.turn u).reports turns).map Report.claimed
    rw [List.filterMap_append, List.map_append, step, ih]

end Fleet

/-! ## Tallies -/

namespace Tally

/-- The counter of a verdict. -/
def count (t : Tally) : Verdict → UInt64
  | .processed => t.processed
  | .poisoned => t.poisoned
  | .failed => t.failed

theorem count_foldl_record (ms : List Measurement) (t : Tally) (v : Verdict) :
    (ms.foldl record t).count v =
      t.count v + UInt64.ofNat (ms.countP fun m => m.verdict = some v) := by
  induction ms generalizing t with
  | nil => simp
  | cons m ms ih =>
    rw [List.foldl_cons, ih, List.countP_cons, UInt64.ofNat_add]
    cases m <;> cases v <;> simp [record, count, Measurement.verdict] <;> ac_rfl

/-- Iterations are counted, and the rows that they claimed. -/
theorem foldl_record_claimed (ms : List Measurement) (t : Tally) :
    (ms.foldl record t).iterations =
        t.iterations + UInt64.ofNat (ms.filterMap Measurement.claimed).length ∧
      (ms.foldl record t).claimed =
        t.claimed + UInt64.ofNat (ms.filterMap Measurement.claimed).sum := by
  induction ms generalizing t with
  | nil => simp
  | cons m ms ih =>
    rw [List.foldl_cons, (ih _).1, (ih _).2]
    cases m with
    | iteration claimed =>
      simp [record, Measurement.claimed, UInt64.ofNat_add]
      constructor <;> ac_rfl
    | processed | poisoned | failed => exact ⟨rfl, rfl⟩

end Tally

/-! ## The three accounts -/

namespace Fleet

variable {ι : Type} [DecidableEq ι] {workers : ι → Worker} {f : Fleet workers}

/-- **The accounts agree.** Let any number of workers begin at rest and share a table and a tally,
and let turns be taken in any order, with calls that fail, replies and cancellations of any kind,
until all workers rest again. Then every report adds up to the rows that were claimed. The tally has
the sums of the reports and their number. As many poisonings were granted, failures that exhausted
their rows among them, as the reports have poisoned rows, and as many other failures as they have
failed ones. -/
theorem accounts_agree (begins : ∀ i, f.post i = .resting) (turns : List (Turn ι))
    (ended : ∀ i, (f.run turns).post i = .resting) :
    let reports := f.reports turns
    let tally := (f.measurements turns).foldl Tally.record {}
    (∀ r ∈ reports, r.claimed =
      r.processed + r.poisoned + r.failed + r.skipped + r.abandoned + r.storeErrors) ∧
    tally.iterations = UInt64.ofNat reports.length ∧
    tally.claimed = UInt64.ofNat (reports.map Report.claimed).sum ∧
    tally.processed = UInt64.ofNat (reports.map Report.processed).sum ∧
    tally.poisoned = UInt64.ofNat (reports.map Report.poisoned).sum ∧
    tally.failed = UInt64.ofNat (reports.map Report.failed).sum ∧
    ((f.grants turns).countP fun c => c.verdict = some .poisoned) =
      (reports.map Report.poisoned).sum ∧
    ((f.grants turns).countP fun c => c.verdict = some .failed) =
      (reports.map Report.failed).sum := by
  intro reports tally
  have measured : ∀ v, ((f.measurements turns).countP fun m => m.verdict = some v) =
      (reports.map (Report.count · v)).sum := fun v =>
    (Ledger.ofMeasured workers v).balance begins ended
  have granted : ∀ v ≠ .processed, ((f.grants turns).countP fun c => c.verdict = some v) =
      (reports.map (Report.count · v)).sum := fun v other =>
    (Ledger.ofGranted workers other).balance begins ended
  have tallied : ∀ v, tally.count v = UInt64.ofNat (reports.map (Report.count · v)).sum := by
    intro v
    rw [← measured v]
    refine (Tally.count_foldl_record _ {} v).trans ?_
    cases v <;> exact UInt64.zero_add _
  obtain ⟨iterations, claimed⟩ := Tally.foldl_record_claimed (f.measurements turns) {}
  rw [claimed_measurements, List.length_map] at iterations
  rw [claimed_measurements] at claimed
  exact ⟨fun r mem => claimed_eq_total begins mem, iterations.trans (UInt64.zero_add _),
    claimed.trans (UInt64.zero_add _), tallied .processed, tallied .poisoned, tallied .failed,
    granted .poisoned (by decide), granted .failed (by decide)⟩

open Office in
/-- A courier fails to publish a row, and another finds nothing to do. -/
theorem accounts_agree_staff :
    let turns := pickup false 1 ++ setback false ++ [.resume false reading, .start true reading,
      .serve true (.ok ()), .resume true reading]
    (∀ i, ((staff Bool).run turns).post i = .resting) ∧
      ((staff Bool).reports turns).map Report.failed = [1] ∧
      (((staff Bool).measurements turns).foldl Tally.record {}).failed = 1 ∧
      (((staff Bool).grants turns).countP fun c => c.verdict = some .failed) = 1 := by
  intro turns
  have ended : ∀ i, ((staff Bool).run turns).post i = .resting := by decide +kernel
  have reported : ((staff Bool).reports turns).map Report.failed = [1] := by decide +kernel
  obtain ⟨-, -, -, -, -, failed, -, granted⟩ := accounts_agree (fun _ => rfl) turns ended
  rw [reported] at failed granted
  exact ⟨ended, reported, failed, granted⟩

end Fleet

end Relay
