import Relay.Proofs.Database.Dialogue
import Relay.Proofs.Event.Catalog
import Relay.Simulation.Serving

/-!
# What is left of a service that did not start

A start is over when the first thing goes wrong (`startAfter_left`); the workers that were started
before are not told. `Backend.goOn` lets the workers that are left take turns with a database and a
stream server that answer as they like. Where nothing was started nothing is sent any more, and a
worker that nobody tells to stop never does (`goOn_runs`). So a failed start leaves nothing running
unless it was the table of the second outbox that could not be created: then the worker of the first
runs on, and claims rows (`domain_worker_outlives_start`).
-/

namespace Relay.Service

variable {σ : Type}

/-! ## Workers that take turns -/

/-- The servers that the workers of a service turn to. -/
structure Backend (σ : Type) where
  /-- The database answers a query. -/
  answer : σ → Query → σ × Reply
  /-- The stream server takes a command. -/
  add : σ → List String → σ × Stream.Outcome

/-- A worker that was started, and where it stands. -/
structure Task where
  worker : Worker
  loop : Loop

/-- A worker starts to run. -/
def Task.begin (r : Reading) (w : Worker) : Task := ⟨w, (w.run r).2⟩

/-- The workers that a start leaves. -/
def Startup.tasks (left : Startup) (r : Reading) : List Task := left.running.map (Task.begin r)

namespace Backend

variable (b : Backend σ) (p : Stream.Publisher)

/-- A message is published by somebody who is not told to stop. -/
def publish (s : σ) (m : Message) : σ × Except Refusal Unit :=
  match p.deliver false m with
  | .withheld r => (s, .error r)
  | .sent arguments => ((b.add s arguments).1, (b.add s arguments).2.verdict)

/-- A request of a worker is served. -/
def serve (o : Outbox) (s : σ) : (q : Request) → σ × q.Answer
  | .store c => (Database.respond o c).outcome b.answer s
  | .publish m => b.publish p s m

/-- A worker has a turn: its request is served and it goes on, or it wakes up. -/
def turn (r : Reading) (s : σ) (t : Task) : σ × Task :=
  match t.loop with
  | .stopped => (s, t)
  | .sleeping _ => (s, { t with loop := (t.worker.wake r).2 })
  | .iterating phase =>
    let (s, a) := b.serve p t.worker.outbox s (phase.request t.worker)
    (s, { t with loop := (t.worker.advance r phase a).2 })

/-- One of several workers has a turn, if it is there. -/
def turnOf : σ × List Task → Nat × Reading → σ × List Task
  | (s, ts), (i, r) =>
    match ts[i]? with
    | none => (s, ts)
    | some t => ((b.turn p r s t).1, ts.set i (b.turn p r s t).2)

/-- Workers have turns, each with what it reads then. -/
def goOn (turns : List (Nat × Reading)) (start : σ × List Task) : σ × List Task :=
  turns.foldl (b.turnOf p) start

end Backend

/-! ## Turns in the simulation -/

open Simulation

/-- The scripted servers as a backend. -/
def scripted : Backend Servers := ⟨Servers.answer, Servers.add⟩

theorem servers_noteAll (s : Site) (notes : List Journal.Note) :
    (s.noteAll notes).servers = s.servers := rfl

theorem servers_carryOut (s : Site) (o : Outbox) (acts : List Act) :
    (s.carryOut o acts).servers = s.servers := by
  unfold Site.carryOut
  induction acts generalizing s with
  | nil => rfl
  | cons act acts ih =>
    rw [List.foldl_cons, ih]
    rcases act with (_ | _ | _) | _ <;> rfl

theorem serve_scripted (s : Site) (p : Stream.Publisher) (o : Outbox) (q : Request) :
    ((s.serve p o q).1.servers, (s.serve p o q).2) = scripted.serve p o s.servers q := by
  cases q with
  | store c => rfl
  | publish m =>
    simp only [Site.serve, Site.publish, Backend.serve, Backend.publish]
    cases p.deliver false m <;> rfl

/-- A simulated worker goes on in turns in which nobody tells it to stop. -/
theorem attend_turns (stamp : Stamp) (p : Stream.Publisher) (w : Worker) (fuel : Nat) (s : Site)
    (loop : Loop) :
    ∃ turns : List (Nat × Reading), (∀ u ∈ turns, u.2.cancelled = false) ∧
      scripted.goOn p turns (s.servers, [⟨w, loop⟩]) =
        ((Site.attend stamp p w fuel s loop).1.servers,
          [⟨w, (Site.attend stamp p w fuel s loop).2⟩]) := by
  induction fuel generalizing s loop with
  | zero => exact ⟨[], by simp, rfl⟩
  | succ fuel ih =>
    cases loop with
    | stopped => exact ⟨[], by simp, rfl⟩
    | sleeping pause =>
      unfold Site.attend
      dsimp only
      split
      · exact ⟨[], by simp, rfl⟩
      · obtain ⟨turns, going, h⟩ := ih (s.carryOut w.outbox
          (w.wake (s.reading stamp w.outbox false)).1) (w.wake (s.reading stamp w.outbox false)).2
        refine ⟨(0, s.reading stamp w.outbox false) :: turns,
          List.forall_mem_cons.mpr ⟨rfl, going⟩, ?_⟩
        rw [servers_carryOut] at h
        exact h
    | iterating phase =>
      obtain ⟨turns, going, h⟩ := ih
        ((s.serve p w.outbox (phase.request w)).1.carryOut w.outbox
          (w.advance ((s.serve p w.outbox (phase.request w)).1.reading stamp w.outbox false) phase
            (s.serve p w.outbox (phase.request w)).2).1)
        (w.advance ((s.serve p w.outbox (phase.request w)).1.reading stamp w.outbox false) phase
          (s.serve p w.outbox (phase.request w)).2).2
      refine ⟨(0, (s.serve p w.outbox (phase.request w)).1.reading stamp w.outbox false) :: turns,
        List.forall_mem_cons.mpr ⟨rfl, going⟩, ?_⟩
      rw [servers_carryOut] at h
      refine Eq.trans ?_ h
      have served := serve_scripted s p w.outbox (phase.request w)
      show scripted.goOn p turns (scripted.turnOf p _ _) = _
      simp only [Backend.turnOf, Backend.turn, List.getElem?_cons_zero, ← served,
        List.set_cons_zero]

/-- A simulated service fails as its start does. -/
theorem serve_failure (stamp : Stamp) (near : Database.Location) (settings : Settings)
    (tuning : Tuning) (servers : Servers) :
    ∃ fault, (Simulation.serve stamp near settings tuning servers).2 =
      ((start (stamp.host near) settings tuning).outcome Servers.answer
        { servers with fault }).2.failure := by
  cases planned : plan (stamp.host near) settings tuning with
  | error e =>
    refine ⟨none, ?_⟩
    simp only [Simulation.serve, start, planned]
    rfl
  | ok p =>
    refine ⟨streamFault stamp p.streams, ?_⟩
    simp only [Simulation.serve, start, planned, Site.hold, servers_noteAll]
    split
    · rename_i failed
      exact failed.symm
    · rename_i unfailed
      exact unfailed.symm

/-! ## Workers that nobody tells to stop -/

theorem again_runs (w : Worker) (acts : List Act) {r : Reading} (going : r.cancelled = false) :
    (w.again acts r).2 ≠ .stopped := by
  simp [Worker.again, going]

theorem advance_runs (w : Worker) {r : Reading} (going : r.cancelled = false) (phase : Phase)
    (a : (phase.request w).Answer) : (w.advance r phase a).2 ≠ .stopped := by
  unfold Worker.advance
  dsimp only
  split
  · exact Loop.noConfusion
  · unfold Worker.afterIteration
    split
    · exact Loop.noConfusion
    · exact again_runs w _ going
    · exact again_runs w _ going
    · exact Loop.noConfusion

namespace Backend

variable (b : Backend σ) (p : Stream.Publisher)

theorem turn_worker (r : Reading) (s : σ) (t : Task) : (b.turn p r s t).2.worker = t.worker := by
  unfold turn
  split <;> rfl

theorem turn_runs {r : Reading} (going : r.cancelled = false) (s : σ) {t : Task}
    (runs : t.loop ≠ .stopped) : (b.turn p r s t).2.loop ≠ .stopped := by
  unfold turn
  split
  · exact runs
  · exact again_runs _ _ going
  · exact advance_runs _ going _ _

/-- The workers of tasks are these, and none of them has stopped. -/
def Runs (ws : List Worker) (ts : List Task) : Prop :=
  ts.map Task.worker = ws ∧ ∀ t ∈ ts, t.loop ≠ .stopped

theorem runs_begin (left : Startup) {r : Reading} (going : r.cancelled = false) :
    Runs left.running (left.tasks r) := by
  constructor
  · rw [Startup.tasks, List.map_map]
    exact List.map_id _
  · intro t mem
    obtain ⟨w, -, rfl⟩ := List.mem_map.mp mem
    exact again_runs w _ going

theorem turnOf_runs {ws : List Worker} {s : σ} {ts : List Task} (runs : Runs ws ts)
    {u : Nat × Reading} (going : u.2.cancelled = false) : Runs ws (b.turnOf p (s, ts) u).2 := by
  obtain ⟨i, r⟩ := u
  obtain ⟨same, live⟩ := runs
  simp only [turnOf]
  cases found : ts[i]? with
  | none => exact ⟨same, live⟩
  | some t =>
    obtain ⟨lt, rfl⟩ := List.getElem?_eq_some_iff.mp found
    constructor
    · rw [List.map_set, turn_worker, ← same,
        ← List.getElem_map Task.worker (h := by simpa using lt), List.set_getElem_self]
    · intro t' mem
      rcases List.mem_or_eq_of_mem_set mem with old | rfl
      · exact live t' old
      · exact b.turn_runs p going s (live _ (List.getElem_mem lt))

/-- **Nobody stops untold.** Workers that are not told to stop never do, however they are answered
and in whatever order they go on. -/
theorem goOn_runs {ws : List Worker} (turns : List (Nat × Reading))
    (going : ∀ u ∈ turns, u.2.cancelled = false) (s : σ) {ts : List Task} (runs : Runs ws ts) :
    Runs ws (b.goOn p turns (s, ts)).2 := by
  induction turns generalizing s ts with
  | nil => exact runs
  | cons u turns ih =>
    exact ih (fun v mem => going v (.tail _ mem)) _ (b.turnOf_runs p runs (going u (.head _)))

/-- Where no worker was started, nothing happens. -/
theorem goOn_nil (turns : List (Nat × Reading)) (s : σ) : b.goOn p turns (s, []) = (s, []) := by
  induction turns with
  | nil => rfl
  | cons u turns ih => exact ih

end Backend

/-! ## Where a start ends -/

/-- A start ends with the workers before the first one whose table could not be created. -/
theorem startAfter_left (answer : σ → Query → σ × Reply) (s : σ) (running ws : List Worker) :
    ∃ begun rest, ws = begun ++ rest ∧
      ((startAfter running ws).outcome answer s).2.running = running ++ begun ∧
      ((rest = [] ∧ ((startAfter running ws).outcome answer s).2.failure = none) ∨
        ∃ w e, rest.head? = some w ∧
          ((startAfter running ws).outcome answer s).2.failure = some (.table w.outbox e)) := by
  induction ws generalizing running s with
  | nil => exact ⟨[], [], rfl, by simp [startAfter], .inl ⟨rfl, rfl⟩⟩
  | cons w ws ih =>
    simp only [startAfter, Dialogue.outcome_bind]
    cases ((Database.createSchema w.outbox).outcome answer s).2 with
    | error e => exact ⟨[], w :: ws, rfl, by simp, .inr ⟨w, e, rfl, rfl⟩⟩
    | ok _ =>
      obtain ⟨begun, rest, rfl, running', failure⟩ := ih
        ((Database.createSchema w.outbox).outcome answer s).1 (running ++ [w])
      exact ⟨w :: begun, rest, rfl, by simpa using running', failure⟩

theorem table_ne_of_silence {host : Host} {settings : Settings} {f : Failure}
    (h : host.silence settings = some f) (o : Outbox) (e : StoreError) : f ≠ .table o e := by
  obtain ⟨a, -, h⟩ := Option.bind_eq_some_iff.mp h
  obtain ⟨reason, -, rfl⟩ := Option.map_eq_some_iff.mp h
  exact Failure.noConfusion

/-- A plan has a worker for every outbox, and no table is created before there is one. -/
theorem plan_cases (host : Host) (settings : Settings) (tuning : Tuning) :
    (∃ p, plan host settings tuning = .ok p ∧
      p.workers = outboxes.map (worker ⟨Catalog.types⟩ tuning)) ∨
      ∃ f, plan host settings tuning = .error f ∧ ∀ o e, f ≠ .table o e := by
  unfold plan
  rw [Catalog.registry_eq]
  cases silent : host.silence settings with
  | some f => exact .inr ⟨f, rfl, table_ne_of_silence silent⟩
  | none =>
    cases (host.near.withUrl settings.database).1 with
    | error e => exact .inr ⟨.database e, rfl, fun _ _ => Failure.noConfusion⟩
    | ok location =>
      cases reached : host.connect location with
      | some e =>
        exact .inr ⟨.database e, by simp [reached, proceed, bind, Except.bind, Except.mapError],
          fun _ _ => Failure.noConfusion⟩
      | none =>
        cases Stream.Location.ofUrl settings.streams with
        | error e =>
          exact .inr ⟨.streams e, by simp [reached, proceed, bind, Except.bind, Except.mapError],
            fun _ _ => Failure.noConfusion⟩
        | ok streams =>
          exact .inl ⟨
            { publisher := { keyPrefix := settings.streamPrefix }
              streams
              workers := outboxes.map (worker ⟨Catalog.types⟩ tuning) },
            by simp [reached, proceed, bind, Except.bind, Except.mapError], rfl⟩

/-- The worker that relays the domain outbox in a service. -/
def domainWorker (tuning : Tuning) : Worker := worker ⟨Catalog.types⟩ tuning .domain

/-- **Where a failed start ends.** Before the table of the integration outbox nothing was started,
and when that could not be created the worker of the domain outbox was. -/
theorem running_of_failure {host : Host} {settings : Settings} {tuning : Tuning}
    {answer : σ → Query → σ × Reply} {s : σ} {f : Failure}
    (failed : ((start host settings tuning).outcome answer s).2.failure = some f) :
    (((start host settings tuning).outcome answer s).2.running = [] ∧
      ∀ e, f ≠ .table .integration e) ∨
      (((start host settings tuning).outcome answer s).2.running = [domainWorker tuning] ∧
        ∃ e, f = .table .integration e) := by
  unfold start at failed ⊢
  rcases plan_cases host settings tuning with ⟨p, planned, workers⟩ | ⟨g, planned, other⟩
  · simp only [planned, Plan.start, workers] at failed ⊢
    obtain ⟨begun, rest, split, running, ended⟩ := startAfter_left answer s []
      (outboxes.map (worker ⟨Catalog.types⟩ tuning))
    rw [running, List.nil_append]
    rw [failed] at ended
    obtain ⟨-, none⟩ | ⟨w, e, head, table⟩ := ended
    · cases none
    · cases table
      match begun, split with
      | [], split =>
        subst split
        cases head
        exact .inl ⟨rfl, fun e => by simp [worker]⟩
      | [_], split =>
        obtain ⟨rfl, rfl⟩ := List.cons_eq_cons.mp split
        cases head
        exact .inr ⟨rfl, e, rfl⟩
      | [_, _], split =>
        obtain ⟨rfl, rest⟩ := List.cons_eq_cons.mp split
        obtain ⟨rfl, rfl⟩ := List.cons_eq_cons.mp rest
        cases head
  · simp only [planned] at failed ⊢
    cases failed
    exact .inl ⟨rfl, other .integration⟩

/-- The first turn of a worker is a look for due rows. -/
theorem turn_begin (b : Backend σ) (p : Stream.Publisher) (s : σ) (w : Worker) {r : Reading}
    (going : r.cancelled = false) (r' : Reading) :
    (b.turn p r' s (Task.begin r w)).1 =
      (b.answer s (Database.query w.outbox (.hasDue (w.due r.now)))).1 := by
  have begun : Task.begin r w = ⟨w, .iterating (w.start r)⟩ := by
    simp [Task.begin, Worker.run, Worker.again, going]
  rw [begun]
  rfl

/-- **What a failed start leaves.** Unless the table of the integration outbox could not be created
nothing was started, and whatever turns come nothing is sent any more. Otherwise the worker of the
domain outbox runs on: it first looks for due rows, and as nobody can tell it to stop it never does.
-/
theorem failed_start (b : Backend σ) (p : Stream.Publisher) (host : Host) (settings : Settings)
    (tuning : Tuning) (s : σ) (f : Failure) (r : Reading) (going : r.cancelled = false)
    (failed : ((start host settings tuning).outcome b.answer s).2.failure = some f) :
    (((start host settings tuning).outcome b.answer s).2.running = [] ↔
      ∀ e, f ≠ .table .integration e) ∧
    ((∀ e, f ≠ .table .integration e) → ∀ turns after,
      b.goOn p turns (after, ((start host settings tuning).outcome b.answer s).2.tasks r) =
        (after, [])) ∧
    ∀ e, f = .table .integration e →
      ((start host settings tuning).outcome b.answer s).2.tasks r =
        [.begin r (domainWorker tuning)] ∧
      (∀ r' after, (b.turn p r' after (.begin r (domainWorker tuning))).1 =
        (b.answer after (Database.query .domain (.hasDue ((domainWorker tuning).due r.now)))).1) ∧
      ∀ turns after, (∀ u ∈ turns, u.2.cancelled = false) →
        Backend.Runs [domainWorker tuning]
          (b.goOn p turns (after, [.begin r (domainWorker tuning)])).2 := by
  rcases running_of_failure failed with ⟨none, other⟩ | ⟨one, e, rfl⟩
  · refine ⟨iff_of_true none other, fun _ turns after => ?_, fun e table => absurd table (other e)⟩
    rw [Startup.tasks, none]
    exact b.goOn_nil p turns after
  · have tasks : ((start host settings tuning).outcome b.answer s).2.tasks r =
        [.begin r (domainWorker tuning)] := by
      rw [Startup.tasks, one]
      rfl
    refine ⟨iff_of_false (by simp [one]) (fun other => other e rfl),
      fun other => absurd rfl (other e), fun _ _ => ⟨tasks, fun r' after => ?_, ?_⟩⟩
    · exact turn_begin b p after _ going r'
    · intro turns after goes
      have runs := Backend.runs_begin
        ((start host settings tuning).outcome b.answer s).2 going
      rw [one, tasks] at runs
      exact b.goOn_runs p turns goes after runs

/-! ## A start that fails -/

/-- A database that refuses every query about one outbox; about the other it says that a row is due.
It keeps what it is asked. -/
def reluctant (refused : Outbox) : Backend (List Query) where
  answer asked q :=
    (asked ++ [q],
      if q.outbox = refused then .refused "42501" "denied"
      else match q.statement with
        | .exists _ => .returned [⟨[("exists", .boolean)], [.boolean true]⟩]
        | .select _ _ _ => .returned [⟨[("id", .uuid)], [.uuid (.ofNat 1)]⟩]
        | _ => .changed 1)
  add asked _ := (asked, .lost "closed")

namespace Sample

/-- A host where everything is reached. -/
def host : Host := ⟨.standard, fun _ => none, fun _ => none⟩

def settings : Settings := ⟨"postgres:///outbox", "redis://streams", "brushwork", none⟩

def tuning : Tuning := .standard "w1"

def publisher : Stream.Publisher := { keyPrefix := "brushwork" }

def reading : Reading :=
  ⟨.epoch, false, .ofNat 7, 0, ⟨5, 6, by decide, by decide, by decide, by decide⟩⟩

/-- The failure of a start whose table was refused. -/
def denied (o : Outbox) : Failure :=
  .table o (.storage "database error in init_schema: denied")

/-- The statement with which the worker of the domain outbox claims a row. -/
def claiming : Query :=
  Database.query .domain
    (.claim [.ofNat 1] ⟨.epoch, 10⟩ (Claim.ofInstance "w1" (.ofNat 7))
      (Instant.epoch.after (.ofSeconds 300)))

end Sample

open Sample

theorem failed_start_domain_denied :
    ((start host settings tuning).outcome (reluctant .domain).answer []).2.failure =
      some (denied .domain) ∧
    ((start host settings tuning).outcome (reluctant .domain).answer []).2.running = [] := by
  have failed : ((start host settings tuning).outcome (reluctant .domain).answer []).2.failure =
      some (denied .domain) := by decide +kernel
  exact ⟨failed, (failed_start (reluctant .domain) publisher host settings tuning [] _ reading rfl
    failed).1.mpr fun _ => by simp [denied]⟩

/-- **A start that fails and leaves a worker.** The table of the integration outbox is refused, and
after the start has failed the worker of the domain outbox claims a row in its third turn. -/
theorem domain_worker_outlives_start :
    ((start host settings tuning).outcome (reluctant .integration).answer []).2.failure =
      some (denied .integration) ∧
    claiming ∉ ((start host settings tuning).outcome (reluctant .integration).answer []).1 ∧
    claiming ∈ ((reluctant .integration).goOn publisher
      [(0, reading), (0, reading), (0, reading)]
      (((start host settings tuning).outcome (reluctant .integration).answer []).1,
        ((start host settings tuning).outcome (reluctant .integration).answer []).2.tasks
          reading)).1 := by
  decide +kernel

end Relay.Service
