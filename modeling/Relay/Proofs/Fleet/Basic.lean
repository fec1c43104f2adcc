import Mathlib.Data.List.Induction
import Mathlib.Logic.Function.Basic
import Relay.Event.Catalog
import Relay.Proofs.Fleet.Post

/-!
# Fleets

A `Fleet` is any number of workers that share a table, a broker and a clock. Each worker has a
`Post`: it rests, waits for the answer to a request, or has the answer and has not gone on yet. A
`Fleet.Turn` is the least that can happen: one worker starts, is served or goes on, one call to the
store fails, somebody else does something to the table, or the clock is set. A run is any list of
turns, so between the call and the return of a request, and between that and the worker's next
request, everybody else may have turns; a worker that gets none any more has stopped for good.

What a turn does is said once, by `Fleet.moves`, and read off from there for the table
(`Fleet.Moves.find?`), for what the broker was offered (`Fleet.Moves.offers`) and for everybody
whose turn it is not (`Fleet.Moves.post`). `Fleet.run_keeps` is the induction over a run.
-/

namespace Relay

/-- What is done to a table by those who put events in. -/
def Operation.fromProducer : Operation → Bool
  | .call (.insert _) | .call (.hasDue _) | .call (.selectDue _ _) | .call (.fetchClaimed _ _)
  | .call (.get _) | .call (.stats _) | .commit _ => true
  | .call (.claim _ _ _ _) | .call (.markProcessed _ _) | .call (.markPoisoned _ _)
  | .call (.recordFailure _ _) | .call (.requeue _) => false

/-- What is done to a table by those who put events in or look after them. -/
def Operation.fromCaller : Operation → Bool
  | .call (.requeue _) => true
  | op => op.fromProducer

/-- A row that was offered to the broker, and the broker's reply. -/
structure Offer where
  row : Uuid
  message : Message
  reply : Except Refusal Unit

/-- Whether the broker took the message. -/
def Offer.isAccepted (o : Offer) : Bool := o.reply.isOk

/-- What a phase offers to a broker that replies so. -/
def Phase.offers (reply : Except Refusal Unit) : Phase → List Offer
  | .publishing _ row span => [⟨row.id, row.message span, reply⟩]
  | _ => []

variable {ι : Type} {workers : ι → Worker}

/-- Workers and what they share. -/
structure Fleet (workers : ι → Worker) where
  table : Table
  clock : Instant
  post : (i : ι) → Post (workers i)
  /-- What the broker was offered, in order. -/
  offers : List Offer := []

namespace Fleet

/-- The least that can happen. -/
inductive Turn (ι : Type) where
  /-- A worker that rests begins an iteration. -/
  | start (i : ι) (r : Reading)
  /-- A worker's request is served; the reply is the broker's, if the request is for it. -/
  | serve (i : ι) (reply : Except Refusal Unit)
  /-- A worker's call to the store fails without effect. -/
  | fail (i : ι) (e : StoreError)
  /-- A worker goes on with the answer to its request. -/
  | resume (i : ι) (r : Reading)
  /-- Something is done to the table by somebody who is not in the fleet. -/
  | outside (op : Operation)
  /-- The clock is set. -/
  | tick (now : Instant)

/-- Whose turn it is. -/
def Turn.actor : Turn ι → Option ι
  | .start i _ | .serve i _ | .fail i _ | .resume i _ => some i
  | .outside _ | .tick _ => none

/-- Readings are taken off the common clock. -/
def read (f : Fleet workers) (r : Reading) : Reading := { r with now := f.clock }

/-- The operation that a turn carries out. -/
inductive Does (f : Fleet workers) : Turn ι → Operation → Prop
  | calls (i : ι) (reply : Except Refusal Unit) (phase : Phase) (c : Call)
    (h : f.post i = .asking phase) (hc : phase.request (workers i) = .store c) :
    f.Does (.serve i reply) (.call c)
  | outside (op : Operation) : f.Does (.outside op) op

theorem Does.outside_of_inserted {f : Fleet workers} {u : Turn ι} {op : Operation} {row : Row}
    (h : f.Does u op) (new : row ∈ op.inserted) : u = .outside op := by
  cases h with
  | outside => rfl
  | calls i reply phase c _ hc =>
    cases phase <;> cases hc <;> simp [Operation.inserted] at new

/-- Everybody rests, and nothing has been offered to the broker. -/
structure Fresh (f : Fleet workers) : Prop where
  resting : ∀ i, f.post i = .resting
  unoffered : f.offers = []

variable [DecidableEq ι]

/-- Moves a worker. -/
def place (f : Fleet workers) (i : ι) (p : Post (workers i)) : Fleet workers :=
  { f with post := Function.update f.post i p }

/-- A worker's request is served. -/
def served (f : Fleet workers) (i : ι) (reply : Except Refusal Unit) (phase : Phase) :
    Fleet workers :=
  let (table, answer) := (phase.request (workers i)).serve f.table reply
  { f.place i (.hearing phase answer) with table, offers := f.offers ++ phase.offers reply }

/-- The fleet after a turn. A turn that does not apply changes nothing. -/
def turn (f : Fleet workers) : Turn ι → Fleet workers
  | .start i r =>
    match f.post i with
    | .resting => f.place i (.asking ((workers i).start (f.read r)))
    | _ => f
  | .serve i reply =>
    match f.post i with
    | .asking phase => f.served i reply phase
    | _ => f
  | .fail i e =>
    match f.post i with
    | .asking phase =>
      match (phase.request (workers i)).failure e with
      | some answer => f.place i (.told phase answer)
      | none => f
    | _ => f
  | .resume i r =>
    match f.post i with
    | .told phase answer => f.place i (.of ((workers i).resume (f.read r) phase answer).progress)
    | _ => f
  | .outside op => { f with table := f.table.after op }
  | .tick now => { f with clock := now }

/-- The fleet after one turn after another. -/
def run (f : Fleet workers) (turns : List (Turn ι)) : Fleet workers := turns.foldl turn f

@[simp] theorem run_nil (f : Fleet workers) : f.run [] = f := rfl

@[simp] theorem run_cons (f : Fleet workers) (u : Turn ι) (turns : List (Turn ι)) :
    f.run (u :: turns) = (f.turn u).run turns := rfl

theorem run_append (f : Fleet workers) (turns turns' : List (Turn ι)) :
    f.run (turns ++ turns') = (f.run turns).run turns' := List.foldl_append

/-! ## What a turn does -/

variable {f : Fleet workers} {i j : ι}

@[simp] theorem post_place_self (f : Fleet workers) (i : ι) (p : Post (workers i)) :
    (f.place i p).post i = p := by
  simp [place]

theorem post_place_of_ne (f : Fleet workers) (p : Post (workers i)) (h : j ≠ i) :
    (f.place i p).post j = f.post j := by
  simp [place, h]

@[simp] theorem post_served_self (f : Fleet workers) (i : ι) (reply : Except Refusal Unit)
    (phase : Phase) :
    (f.served i reply phase).post i =
      .hearing phase ((phase.request (workers i)).serve f.table reply).2 :=
  f.post_place_self i _

theorem post_served_of_ne (f : Fleet workers) (reply : Except Refusal Unit) (phase : Phase)
    (h : j ≠ i) : (f.served i reply phase).post j = f.post j := f.post_place_of_ne _ h

/-- What a worker does in its turn. -/
inductive Acts (f : Fleet workers) (i : ι) : Turn ι → Fleet workers → Prop
  | starts (r : Reading) (h : f.post i = .resting) :
    f.Acts i (.start i r) (f.place i (.asking ((workers i).start (f.read r))))
  | serves (reply : Except Refusal Unit) (phase : Phase) (h : f.post i = .asking phase) :
    f.Acts i (.serve i reply) (f.served i reply phase)
  | fails (e : StoreError) (phase : Phase) (answer : (phase.request (workers i)).Answer)
    (h : f.post i = .asking phase)
    (failure : (phase.request (workers i)).failure e = some answer) :
    f.Acts i (.fail i e) (f.place i (.told phase answer))
  | resumes (r : Reading) (phase : Phase) (answer : (phase.request (workers i)).Answer)
    (h : f.post i = .told phase answer) :
    f.Acts i (.resume i r) (f.place i (.of ((workers i).resume (f.read r) phase answer).progress))

/-- The ways in which a turn can go. -/
inductive Moves (f : Fleet workers) : Turn ι → Fleet workers → Prop
  /-- The turn does not apply. -/
  | rests (u : Turn ι) : f.Moves u f
  | acts (i : ι) (u : Turn ι) (g : Fleet workers) (h : f.Acts i u g) : f.Moves u g
  | outside (op : Operation) : f.Moves (.outside op) { f with table := f.table.after op }
  | ticks (now : Instant) : f.Moves (.tick now) { f with clock := now }

theorem moves (f : Fleet workers) (u : Turn ι) : f.Moves u (f.turn u) := by
  cases u with
  | start i r =>
    unfold turn
    dsimp only
    split
    · rename_i h
      exact .acts i _ _ (.starts r h)
    · exact .rests _
  | serve i reply =>
    unfold turn
    dsimp only
    split
    · rename_i phase h
      exact .acts i _ _ (.serves reply phase h)
    · exact .rests _
  | fail i e =>
    unfold turn
    dsimp only
    split
    · rename_i phase h
      split
      · rename_i answer failure
        exact .acts i _ _ (.fails e phase answer h failure)
      · exact .rests _
    · exact .rests _
  | resume i r =>
    unfold turn
    dsimp only
    split
    · rename_i phase answer h
      exact .acts i _ _ (.resumes r phase answer h)
    · exact .rests _
  | outside op => exact .outside op
  | tick now => exact .ticks now

variable {g : Fleet workers} {u : Turn ι} {x : Uuid} {r : Row}

theorem Acts.actor (h : f.Acts i u g) : u.actor = some i := by
  cases h <;> rfl

theorem Acts.post_of_ne (h : f.Acts i u g) (ne : j ≠ i) : g.post j = f.post j := by
  cases h with
  | starts | fails | resumes => exact f.post_place_of_ne _ ne
  | serves reply phase => exact f.post_served_of_ne reply phase ne

/-- A worker comes to wait for an answer, if it is not the first one of an iteration, by going on
from another. -/
theorem Acts.asking (h : f.Acts j u g) {phase : Phase} (asks : g.post j = .asking phase)
    (goesOn : ∀ due, phase ≠ .checking due) : ∃ reading told answer, u = .resume j reading ∧
      f.post j = .told told answer ∧ g.table = f.table ∧
      ((workers j).resume (f.read reading) told answer).progress = .waiting phase := by
  cases h with
  | starts reading resting =>
    rw [post_place_self] at asks
    cases asks
    exact absurd rfl (goesOn _)
  | serves reply phase' asking =>
    rw [post_served_self] at asks
    exact absurd asks (Post.hearing_ne_asking _)
  | fails e phase' answer asking =>
    rw [post_place_self] at asks
    cases asks
  | resumes reading told answer heard =>
    rw [post_place_self] at asks
    refine ⟨reading, told, answer, rfl, heard, rfl, ?_⟩
    cases next : ((workers j).resume (f.read reading) told answer).progress with
    | finished outcome =>
      rw [next] at asks
      cases asks
    | waiting phase' =>
      rw [next] at asks
      cases asks
      rfl

/-- A worker comes to claim rows by going on from a selection: under a claim that it has just made,
rows that are due at the time, for as long as it leases rows. -/
theorem Acts.claiming (h : f.Acts j u g) {ids : List Uuid} {due : Due} {c : Claim}
    {expiry : Instant} (asks : g.post j = .asking (.claiming ids due c expiry)) :
    ∃ reading, u = .resume j reading ∧ (f.post j).draws ∧
      c = Claim.ofInstance (workers j).tuning.instanceName reading.claimId ∧
      due.now = f.clock ∧ expiry = f.clock.after (workers j).tuning.claimDuration ∧
      g.table = f.table := by
  obtain ⟨reading, told, answer, rfl, heard, same, next⟩ := h.asking asks (by simp)
  have goes := (workers j).goes (f.read reading) told answer
  rw [next] at goes
  cases goes with
  | claims => exact ⟨reading, rfl, by rw [heard]; rfl, rfl, rfl, rfl, same⟩

namespace Moves

/-- A worker is where it was, or it is its turn. -/
theorem post (m : f.Moves u g) (j : ι) :
    (g.post j = f.post j ∧ (u.actor = some j → g = f)) ∨ f.Acts j u g := by
  cases m with
  | rests => exact Or.inl ⟨rfl, fun _ => rfl⟩
  | acts i u g h =>
    by_cases e : j = i
    · exact Or.inr (e ▸ h)
    · exact Or.inl ⟨h.post_of_ne e, fun on => absurd (Option.some.inj (on.symm.trans h.actor)) e⟩
  | outside | ticks => exact Or.inl ⟨rfl, nofun⟩

/-! ## What workers share -/

theorem table (m : f.Moves u g) :
    g.table = f.table ∨ ∃ op, f.Does u op ∧ g.table = f.table.after op := by
  cases m with
  | rests | ticks => exact Or.inl rfl
  | outside op => exact Or.inr ⟨op, .outside op, rfl⟩
  | acts i u g h =>
    cases h with
    | starts | fails | resumes => exact Or.inl rfl
    | serves reply phase h =>
      have e : (f.served i reply phase).table =
          ((phase.request (workers i)).serve f.table reply).1 := rfl
      rw [e]
      cases hc : phase.request (workers i) with
      | publish message => exact Or.inl rfl
      | store c => exact Or.inr ⟨.call c, .calls i reply phase c h hc, rfl⟩

theorem offers (m : f.Moves u g) :
    g.offers = f.offers ∨ ∃ i reply b row span, u = .serve i reply ∧
      f.post i = .asking (.publishing b row span) ∧
      g.post i = .told (.publishing b row span) reply ∧
      g.offers = f.offers ++ [⟨row.id, row.message span, reply⟩] := by
  cases m with
  | rests | outside | ticks => exact Or.inl rfl
  | acts i u g h =>
    cases h with
    | starts | fails | resumes => exact Or.inl rfl
    | serves reply phase h =>
      have e : (f.served i reply phase).offers = f.offers ++ phase.offers reply := rfl
      cases phase with
      | publishing b row span =>
        exact Or.inr ⟨i, reply, b, row, span, rfl, h, f.post_served_self i reply _, e⟩
      | _ => exact Or.inl (e.trans (List.append_nil f.offers))

/-- Offers are never taken back. -/
theorem mem_offers (m : f.Moves u g) {o : Offer} (h : o ∈ f.offers) : o ∈ g.offers := by
  rcases m.offers with e | ⟨i, reply, b, row, span, -, -, -, e⟩
  · rwa [e]
  · rw [e]
    exact List.mem_append_left _ h

theorem find? (m : f.Moves u g) (there : f.table.find? x = some r) :
    g.table.find? x = some r ∨ ∃ op, f.Does u op ∧ g.table.find? x = some (op.effect r) := by
  rcases m.table with e | ⟨op, does, e⟩
  · exact Or.inl (by rw [e]; exact there)
  · rcases Table.find?_after there op with h | h
    · exact Or.inl (by rw [e]; exact h)
    · exact Or.inr ⟨op, does, by rw [e]; exact h⟩

/-- Workers add no rows. -/
theorem find?_none (m : f.Moves u g) (absent : f.table.find? x = none) :
    g.table.find? x = none ∨ ∃ op, u = .outside op ∧
      ∃ row ∈ op.inserted, row.id = x ∧ g.table.find? x = some row := by
  rcases m.table with e | ⟨op, does, e⟩
  · exact Or.inl (by rw [e]; exact absent)
  · rcases Table.find?_after_none absent op with h | ⟨row, new, id, h⟩
    · exact Or.inl (by rw [e]; exact h)
    · exact Or.inr ⟨op, does.outside_of_inserted new, row, new, id, by rw [e]; exact h⟩

/-! ## What a worker has in hand -/

/-- A copy that a worker acts on was there before, or has just been read again. A worker that keeps
or gets a copy does nothing to the table. -/
theorem flight (m : f.Moves u g) (h : (g.post j).flight = some r) :
    (u.actor = some j → g.table = f.table) ∧
      ((f.post j).flight = some r ∨ ∃ reply b id, u = .serve j reply ∧
        f.post j = .asking (.reading b id) ∧ f.table.broken = false ∧
        f.table.find? id = some r ∧ r.isTerminal = false ∧ r.claimedBy = some b.claim) := by
  rcases m.post j with ⟨e, same⟩ | acts
  · exact ⟨fun on => by rw [same on], Or.inl (e ▸ h)⟩
  · cases acts with
    | starts reading resting =>
      rw [post_place_self] at h
      cases h
    | serves reply phase asking =>
      rw [post_served_self] at h
      rcases Post.flight_hearing h with ⟨b, span, rfl⟩ | ⟨b, id, rfl, found⟩
      · exact ⟨fun _ => rfl, Or.inl (by rw [asking]; rfl)⟩
      · refine ⟨fun _ => ?_, Or.inr ⟨reply, b, id, rfl, asking, found⟩⟩
        show (f.table.respond (.get id)).1 = f.table
        rw [Table.respond_get]
    | fails e phase answer asking failure =>
      rw [post_place_self, Post.flight_failure failure] at h
      cases h
    | resumes reading phase answer told =>
      rw [post_place_self] at h
      refine ⟨fun _ => rfl, Or.inl ?_⟩
      rw [told]
      exact Post.flight_goes (Worker.goes _ _ phase answer) h

/-- A copy that a worker offers was accepted by its registry. -/
theorem offering (m : f.Moves u g) (h : (g.post j).offering = some r) :
    (f.post j).offering = some r ∨ (workers j).registry.Accepts r := by
  rcases m.post j with ⟨e, -⟩ | acts
  · exact Or.inl (e ▸ h)
  · cases acts with
    | starts reading resting =>
      rw [post_place_self] at h
      cases h
    | serves reply phase asking =>
      rw [post_served_self, Post.offering_hearing] at h
      cases h
    | fails e phase answer asking failure =>
      rw [post_place_self] at h
      cases h
    | resumes reading phase answer told =>
      rw [post_place_self] at h
      exact Or.inr (Post.accepts_of_goes (Worker.goes _ _ phase answer) h)

/-- A copy that the broker has taken was taken before, or has just been. -/
theorem taken (m : f.Moves u g) (h : (g.post j).taken = some r) :
    (f.post j).taken = some r ∨ ∃ b span, u = .serve j (.ok ()) ∧
      f.post j = .asking (.publishing b r span) ∧
      g.offers = f.offers ++ [⟨r.id, r.message span, .ok ()⟩] := by
  rcases m.post j with ⟨e, -⟩ | acts
  · exact Or.inl (e ▸ h)
  · cases acts with
    | starts reading resting =>
      rw [post_place_self] at h
      cases h
    | serves reply phase asking =>
      rw [post_served_self] at h
      obtain ⟨rfl, b, span, rfl⟩ := Post.taken_hearing h
      exact Or.inr ⟨b, span, rfl, asking, rfl⟩
    | fails e phase answer asking failure =>
      rw [post_place_self] at h
      have copy := Post.flight_of_taken h
      rw [Post.flight_failure failure] at copy
      cases copy
    | resumes reading phase answer told =>
      rw [post_place_self] at h
      rw [told]
      exact Or.inl (Post.taken_goes (Worker.goes _ _ phase answer) h)

end Moves

/-! ## Runs -/

/-- Every turn of a run is as `P` says of the fleet before it, of the turn, and of the fleet
afterwards. -/
def Along (P : Fleet workers → Turn ι → Fleet workers → Prop) :
    Fleet workers → List (Turn ι) → Prop
  | _, [] => True
  | f, u :: turns => P f u (f.turn u) ∧ Along P (f.turn u) turns

instance decidableAlong (P : Fleet workers → Turn ι → Fleet workers → Prop)
    [∀ f u g, Decidable (P f u g)] : ∀ f turns, Decidable (Along P f turns)
  | _, [] => isTrue trivial
  | f, u :: turns =>
    have := decidableAlong P (f.turn u) turns
    inferInstanceAs (Decidable (P f u (f.turn u) ∧ Along P (f.turn u) turns))

theorem along_append {P : Fleet workers → Turn ι → Fleet workers → Prop}
    {turns turns' : List (Turn ι)} (h : Along P f turns) (h' : Along P (f.run turns) turns') :
    Along P f (turns ++ turns') := by
  induction turns generalizing f with
  | nil => exact h'
  | cons u turns ih => exact ⟨h.1, ih h.2 h'⟩

theorem along_left {P : Fleet workers → Turn ι → Fleet workers → Prop}
    {turns turns' : List (Turn ι)} (h : Along P f (turns ++ turns')) : Along P f turns := by
  induction turns generalizing f with
  | nil => trivial
  | cons u turns ih => exact ⟨h.1, ih h.2⟩

theorem along_right {P : Fleet workers → Turn ι → Fleet workers → Prop}
    {turns turns' : List (Turn ι)} (h : Along P f (turns ++ turns')) :
    Along P (f.run turns) turns' := by
  induction turns generalizing f with
  | nil => exact h
  | cons u turns ih => exact ih h.2

theorem run_keeps {P : Fleet workers → Turn ι → Fleet workers → Prop} {I : Fleet workers → Prop}
    (keeps : ∀ f u g, I f → P f u g → f.Moves u g → I g) {turns : List (Turn ι)}
    (start : I f) (h : Along P f turns) : I (f.run turns) := by
  induction turns generalizing f with
  | nil => exact start
  | cons u turns ih => exact ih (keeps f u _ start h.1 (f.moves u)) h.2

theorem along_of_forall {P : Turn ι → Prop} {turns : List (Turn ι)} (h : ∀ u ∈ turns, P u)
    (f : Fleet workers) : Along (fun _ u _ => P u) f turns := by
  induction turns generalizing f with
  | nil => trivial
  | cons u turns ih =>
    exact ⟨h u List.mem_cons_self, ih (fun u mem => h u (List.mem_cons_of_mem _ mem)) _⟩

/-- Where a worker stands, it came to in a turn of its own, and has stood since. -/
theorem exists_acts (f : Fleet workers) (turns : List (Turn ι))
    (moved : (f.run turns).post i ≠ f.post i) :
    ∃ earlier u later, turns = earlier ++ u :: later ∧
      (f.run earlier).Acts i u ((f.run earlier).turn u) ∧
      ((f.run earlier).turn u).post i = (f.run turns).post i := by
  induction turns using List.reverseRecOn with
  | nil => exact absurd rfl moved
  | append_singleton turns u ih =>
    rw [run_append, run_cons, run_nil] at moved ⊢
    rcases ((f.run turns).moves u).post i with ⟨stays, -⟩ | acts
    · rw [stays] at moved ⊢
      obtain ⟨earlier, u', later, rfl, acts, stands⟩ := ih moved
      exact ⟨earlier, u', later ++ [u], by simp, acts, stands⟩
    · exact ⟨turns, u, [], rfl, acts, rfl⟩

/-- An answer that a worker has, other than that its call failed, it was given in a turn of its own
when it asked for it. -/
theorem exists_serving (rests : f.post i = .resting) {turns : List (Turn ι)} {phase : Phase}
    {answer : (phase.request (workers i)).Answer}
    (told : (f.run turns).post i = .told phase answer)
    (answered : ∀ e, (phase.request (workers i)).failure e ≠ some answer) :
    ∃ earlier reply later, turns = earlier ++ .serve i reply :: later ∧
      (f.run earlier).post i = .asking phase ∧
      ((phase.request (workers i)).serve (f.run earlier).table reply).2 = some answer := by
  have moved : (f.run turns).post i ≠ f.post i := by
    rw [told, rests]
    exact nofun
  obtain ⟨earlier, u, later, rfl, acts, stands⟩ := exists_acts f turns moved
  rw [told] at stands
  generalize (f.run earlier).turn u = g at acts stands
  cases acts with
  | starts reading resting =>
    rw [post_place_self] at stands
    cases stands
  | serves reply phase' asking =>
    rw [post_served_self] at stands
    obtain ⟨rfl, given⟩ := Post.hearing_eq_told stands
    exact ⟨earlier, reply, later, rfl, asking, given⟩
  | fails e phase' answer' asking failure =>
    rw [post_place_self] at stands
    cases stands
    exact absurd failure (answered e)
  | resumes reading phase' answer' heard =>
    rw [post_place_self] at stands
    exact absurd stands (Post.of_ne_told _)

end Fleet

/-! ## A fleet for examples -/

namespace Office

/-- A worker that knows one type of events. -/
def courier : Worker := ⟨.domain, ⟨[Catalog.tenantCreated]⟩, .standard "courier", .off⟩

/-- The courier alone, while the clock stands still. -/
def fleet (t : Table) (p : Post courier) (offers : List Offer) : Fleet fun _ : Unit => courier :=
  ⟨t, .epoch, fun _ => p, offers⟩

def reading : Reading :=
  ⟨.epoch, false, .ofNat 7, 0, ⟨1, 1, by decide, by decide, by decide, by decide⟩⟩

def claim : Claim := Claim.ofInstance "courier" (.ofNat 7)

def due : Due := ⟨.epoch, 10⟩

def known : Row := .sample 1

def unknown : Row := { Row.sample 2 with name := "Unheard" }

/-- A row while the courier holds it. -/
def held (r : Row) : Row := r.heldBy claim (Instant.epoch.after (.ofSeconds 300))

def relayed : Row := { held known with processed := some .epoch }

def rejected : Row :=
  { held unknown with poisoned := true, lastError := some "unknown event type Unheard.v1" }

/-- The courier finds two rows and has them selected. -/
def search : List (Fleet.Turn Unit) :=
  [.start () reading, .serve () (.ok ()), .resume () reading, .serve () (.ok ())]

/-- It claims them and has them read. -/
def capture : List (Fleet.Turn Unit) :=
  [.resume () reading, .serve () (.ok ()), .resume () reading, .serve () (.ok ())]

/-- One is published and processed, the other poisoned. -/
def delivery : List (Fleet.Turn Unit) :=
  [.resume () reading, .serve () (.ok ()), .resume () reading, .serve () (.ok ()),
    .resume () reading, .serve () (.ok ()), .resume () reading, .serve () (.ok ()),
    .resume () reading, .serve () (.ok ()), .resume () reading]

/-- What the broker is offered. -/
def offer : Offer := ⟨known.id, (held known).message ⟨none, [], none⟩, .ok ()⟩

theorem oldestFirst_pair {a b : Row} (h : b.precedes a = false) :
    Table.oldestFirst [a, b] = [a, b] :=
  List.mergeSort_of_pairwise (by simp [h])

theorem run_search :
    (fleet { rows := [known, unknown] } .resting []).run search =
    fleet { rows := [known, unknown] }
      (.told (.selecting due) (.ok [known.id, unknown.id])) [] := by
  have sorted : Table.oldestFirst [known, unknown] = [known, unknown] :=
    oldestFirst_pair (by decide)
  show fleet { rows := [known, unknown] }
    (.told (.selecting due)
      (.ok (((Table.oldestFirst [known, unknown]).take 50).map Row.id))) [] = _
  rw [sorted]
  rfl

theorem run_capture :
    (fleet { rows := [known, unknown] }
      (.told (.selecting due) (.ok [known.id, unknown.id])) []).run capture =
    fleet { rows := [held known, held unknown] }
      (.told (.fetching claim 2 .epoch) (.ok [held known, held unknown])) [] := by
  have sorted : Table.oldestFirst [held known, held unknown] = [held known, held unknown] :=
    oldestFirst_pair (by decide)
  show fleet { rows := [held known, held unknown] }
    (.told (.fetching claim 2 .epoch)
      (.ok (Table.oldestFirst [held known, held unknown]))) [] = _
  rw [sorted]

theorem accepts_known : courier.registry.Accepts (held known) := by
  refine ⟨Catalog.tenantCreated, rfl, ?_⟩
  have valid : (Catalog.tenantCreated.validate (held known).payload).isOk := by decide +kernel
  cases h : Catalog.tenantCreated.validate (held known).payload with
  | ok u => rfl
  | error e =>
    rw [h] at valid
    cases valid

theorem run_delivery :
    (fleet { rows := [held known, held unknown] }
      (.told (.fetching claim 2 .epoch) (.ok [held known, held unknown])) []).run delivery =
    fleet { rows := [relayed, rejected] } .resting [offer] := by
  have goes := courier.dispatch_progress ⟨claim, { claimed := 2 }, [unknown.id]⟩ (held known)
    ⟨none, [], none⟩
  obtain ⟨-, published⟩ | ⟨refused, -⟩ := goes
  · show ((fleet { rows := [held known, held unknown] } (.of
      (courier.dispatch ⟨claim, { claimed := 2 }, [unknown.id]⟩ (held known)
        ⟨none, [], none⟩).progress) []).run (delivery.drop 3)) = _
    rw [published]
    rfl
  · exact absurd accepts_known refused

/-- The courier is about to begin. -/
def start : Fleet fun _ : Unit => courier := fleet { rows := [known, unknown] } .resting []

theorem fresh_start : start.Fresh := ⟨fun _ => rfl, rfl⟩

/-- One iteration. -/
def shift : List (Fleet.Turn Unit) := search ++ (capture ++ delivery)

theorem run_shift : start.run shift = fleet { rows := [relayed, rejected] } .resting [offer] := by
  rw [shift, Fleet.run_append, Fleet.run_append, start, run_search, run_capture, run_delivery]

/-! ### Couriers for one row -/

/-- Couriers, one row, and nothing done yet. -/
def staff (ι : Type) : Fleet fun _ : ι => courier where
  table := { rows := [known] }
  clock := .epoch
  post _ := .resting

theorem fresh_staff {ι : Type} : (staff ι).Fresh := ⟨fun _ => rfl, rfl⟩

/-- The row in the hands of the first courier. -/
def copied : Row :=
  known.heldBy (Claim.ofInstance "courier" (.ofNat 1)) (Instant.epoch.after (.ofSeconds 300))

/-- When the lease of the first courier has run out. -/
def late : Instant := Instant.epoch.after (.ofSeconds 301)

variable {ι : Type}

/-- A courier claims the row and asks for it again. -/
def approach (i : ι) (claim : Nat) : List (Fleet.Turn ι) :=
  [.start i reading, .serve i (.ok ()), .resume i reading, .serve i (.ok ()),
    .resume i { reading with claimId := .ofNat claim }, .serve i (.ok ()), .resume i reading,
    .serve i (.ok ()), .resume i reading]

/-- A courier claims the row and reads it again. -/
def pickup (i : ι) (claim : Nat) : List (Fleet.Turn ι) := approach i claim ++ [.serve i (.ok ())]

/-- The broker takes the row, and that is recorded. -/
def success (i : ι) : List (Fleet.Turn ι) :=
  [.resume i reading, .serve i (.ok ()), .resume i reading, .serve i (.ok ())]

/-- The broker is down, and that is recorded. -/
def setback (i : ι) : List (Fleet.Turn ι) :=
  [.resume i reading, .serve i (.error (.transient "down")), .resume i reading,
    .serve i (.ok ())]

end Office

end Relay
