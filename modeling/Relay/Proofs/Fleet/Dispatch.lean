import Relay.Proofs.Event.Catalog
import Relay.Proofs.Fleet.Delivery

/-!
# What the application enqueues is dispatched

Whatever event of the catalog is put into an outbox, one row is written, the registry of the catalog
knows its type and reads the event back from its payload, and no worker with that registry ever
poisons the row of its own accord; what the broker is offered under the row's id is its payload
(`Catalog.enqueued_events_are_dispatchable`). An event in a leap second within a minute is read back
at another time (`Catalog.offbeat_event_reads_back_changed`), which does not keep it from being
dispatched.

A worker poisons a row that the broker has not rejected just if its registry does not accept the
copy that it has read, and the copy has the origin of the stored row (`Fleet.Faithful`).
-/

namespace Relay

namespace Fleet

variable {ι : Type} {workers : ι → Worker}

/-- Workers act on copies of stored rows, and poison of their own accord only what their registry
does not accept; what was offered to the broker conveys stored rows. -/
structure Faithful (f : Fleet workers) : Prop where
  copied : ∀ i row, (f.post i).flight = some row → f.table.Knows row
  poisons : ∀ i b row span reason detail,
    f.post i = .asking (.poisoning b row span reason detail) →
      reason = .rejected ∨ ¬ (workers i).registry.Accepts row
  offered : ∀ o ∈ f.offers, ∃ r, f.table.find? o.row = some r ∧ o.message.Conveys r

theorem Fresh.faithful {f : Fleet workers} (fresh : f.Fresh) : f.Faithful where
  copied i row h := by
    rw [fresh.resting i] at h
    cases h
  poisons i b row span reason detail h := by
    rw [fresh.resting i] at h
    cases h
  offered o h := by
    rw [fresh.unoffered] at h
    cases h

/-- Workers of a registry that come to poison a row were told by the broker to do so, and whatever
the broker was offered under the row's id is the row's payload. -/
structure Dispatches (f : Fleet workers) (registry : Registry) (r : Row) : Prop where
  poisons : ∀ i b copy span reason detail, (workers i).registry = registry →
    f.post i = .asking (.poisoning b copy span reason detail) → copy.id = r.id →
      reason = .rejected
  offers : ∀ o ∈ f.offers, o.row = r.id → o.message.payload = r.payload

/-- A row that is stored, and that a registry accepts, is dispatched. -/
theorem Faithful.dispatches {f : Fleet workers} {r : Row} (h : f.Faithful) {registry : Registry}
    (known : f.table.Knows r) (accepted : registry.Accepts r) : f.Dispatches registry r where
  poisons i b copy span reason detail same asks id := by
    obtain rejected | refused := h.poisons i b copy span reason detail asks
    · exact rejected
    · obtain ⟨s, there, e⟩ := known
      obtain ⟨s', there', e'⟩ := h.copied i copy (by rw [asks]; rfl)
      rw [id, there] at there'
      cases there'
      exact absurd (same ▸ accepted.of_origin (e.symm.trans e')) refused
  offers o mem id := by
    obtain ⟨s, there, e⟩ := known
    obtain ⟨s', there', conveys⟩ := h.offered o mem
    rw [id, there] at there'
    cases there'
    exact (conveys.of_origin e).payload

variable [DecidableEq ι] {f g : Fleet workers} {u : Turn ι}

/-- A worker comes to poison a row that the broker has rejected, or that its registry does not
accept. -/
theorem Acts.poisons {i : ι} (h : f.Acts i u g) {b : Batch} {row : Row} {span : PublishSpan}
    {reason : PoisonReason} {detail : String}
    (asks : g.post i = .asking (.poisoning b row span reason detail)) :
    reason = .rejected ∨ ¬ (workers i).registry.Accepts row := by
  obtain ⟨reading, told, answer, -, -, -, next⟩ := h.asking asks (fun _ e => by cases e)
  have goes := (workers i).goes (f.read reading) told answer
  rw [next] at goes
  cases goes with
  | refuses _ _ _ _ _ _ _ _ refused => exact .inr refused
  | poisons => exact .inl rfl

theorem Faithful.step (h : f.Faithful) (m : f.Moves u g) : g.Faithful where
  copied i row copy := m.copied (h.copied i) copy
  poisons i b row span reason detail asks := by
    rcases m.post i with ⟨same, -⟩ | acts
    · exact h.poisons i b row span reason detail (same ▸ asks)
    · exact acts.poisons asks
  offered o mem := by
    have before : ∀ o ∈ f.offers, ∃ r, f.table.find? o.row = some r ∧ True ∧ o.message.Conveys r :=
      fun o mem => (h.offered o mem).imp fun r ⟨there, conveys⟩ => ⟨there, trivial, conveys⟩
    obtain ⟨r, there, -, conveys⟩ := m.conveyed (P := fun _ => True) (fun _ _ => trivial) before
      (fun i row copy => ⟨h.copied i row (Post.flight_of_offering copy), trivial⟩) o mem
    exact ⟨r, there, conveys⟩

theorem Fresh.faithful_run (fresh : f.Fresh) (turns : List (Turn ι)) : (f.run turns).Faithful :=
  run_keeps (P := fun _ _ _ => True) (fun _ _ _ h _ m => h.step m) fresh.faithful
    (along_of_forall (fun _ _ => trivial) f)

end Fleet

/-- A row of a new id is put behind the others. -/
theorem Table.answer_insert {t : Table} {r : Row} (works : t.broken = false)
    (absent : t.find? r.id = none) :
    t.answer (.insert r) = ({ t with rows := t.rows ++ [r] }, .ok ()) := by
  have new : t.contains r.id = false := (t.contains_eq_false r.id).2 absent
  simp [answer, insertAll, works, new, put]

/-! ## The catalog -/

namespace Catalog

open Fleet

/-- The row of an event of the catalog has the event as its payload. -/
theorem row_eq {s : Schema} (known : s ∈ types) (e : Envelope s) (id : Uuid) (now : Instant)
    (sink : Sink) (ambient : Ambient) :
    e.row id now sink ambient =
      .ok (.ofEnvelope e id (Json.render s.fields e.event) now (sink.capture ambient)) := by
  rw [Envelope.row, (isPlain s known).encode_eq]

/-- **Whatever the application enqueues can be dispatched.** For every event of the catalog, however
it is enqueued, one row is handed to the writer, and nothing goes wrong unless the writer refuses
it; a unit of work refuses no row, and a table none whose id is new. The catalog has a registry,
which resolves the type of the row. Reading the payload succeeds, and yields the event at the time
that its text names, which is its own time unless this lies in a leap second that does not follow
the last second of a minute. Once the row is stored, workers with the registry of the catalog poison
it only when the broker rejects it, and the broker is handed the payload. -/
theorem enqueued_events_are_dispatchable {s : Schema} (known : s ∈ types) (e : Envelope s)
    (id : Uuid) (now : Instant) (sink : Sink) (ambient : Ambient) :
    ∃ (registry : Registry) (row : Row), Catalog.registry = .ok registry ∧ row.id = id ∧
      (∀ {σ : Type} (write : σ → Row → σ × Except StoreError Unit) (w w' : σ),
        write w row = (w', .ok ()) →
          enqueue write w e id now sink ambient = (w', .ok id, [enqueued s id])) ∧
      (∀ w : Work, enqueue (fun w r => (w.write r, .ok ())) w e id now sink ambient =
        (⟨w.staged ++ [row]⟩, .ok id, [enqueued s id])) ∧
      (∀ t : Table, t.broken = false → t.find? id = none →
        enqueue (fun t r => t.answer (.insert r)) t e id now sink ambient =
          ({ t with rows := t.rows ++ [row] }, .ok id, [enqueued s id])) ∧
      registry.resolve row.name row.version = some s ∧
      s.decode row.payload =
        .ok (s.withOccurred e.event (s.occurredAt e.event).asWritten) ∧
      (s.decode row.payload = .ok e.event ↔ (s.occurredAt e.event).IsLegible) ∧
      ∀ {ι : Type} [DecidableEq ι] {workers : ι → Worker} (f : Fleet workers)
        (earlier later : List (Turn ι)), f.Fresh → (f.run earlier).table.find? id = some row →
          (f.run (earlier ++ later)).Dispatches registry row := by
  have row := row_eq known e id now sink ambient
  generalize made : Row.ofEnvelope e id (Json.render s.fields e.event) now (sink.capture ambient) =
    r at row
  have ids : r.id = id := by rw [← made]; rfl
  have resolves : (⟨types⟩ : Registry).resolve r.name r.version = some s := by
    rw [← made]
    exact Registry.resolve_of_mem keys_nodup known
  have payload : r.payload = Json.render s.fields e.event := by rw [← made]; rfl
  have reads := (isPlain s known).decode_render e.event
  have same := (isPlain s known).decode_render_eq_iff e.event
  rw [← payload] at reads same
  have accepted : (⟨types⟩ : Registry).Accepts r := by
    refine ⟨s, resolves, ?_⟩
    rw [Schema.validate, reads]
    rfl
  have writes : ∀ {σ : Type} (write : σ → Row → σ × Except StoreError Unit) (w w' : σ),
      write w r = (w', .ok ()) →
        enqueue write w e id now sink ambient = (w', .ok id, [enqueued s id]) := by
    intro σ write w w' taken
    simp only [enqueue, row, taken, ids]
  refine ⟨⟨types⟩, r, registry_eq, ids, writes, fun w => writes _ _ _ rfl, ?_, resolves, reads,
    same, ?_⟩
  · intro t works absent
    exact writes _ _ _ (Table.answer_insert works (ids ▸ absent))
  · intro ι _ workers f earlier later fresh there
    obtain ⟨r', there', e⟩ := run_origin later there
    rw [← run_append] at there'
    exact (fresh.faithful_run _).dispatches ⟨r', ids ▸ there', e⟩ accepted

/-- A color whose name needs escapes, at the last leap second there is. -/
def midnight : Envelope paintColorCreatedV2 where
  tenant := .ofNat 1
  username := "ada"
  occurred := .epoch
  correlation := none
  causation := some "cmd-7"
  event :=
    (Uuid.ofNat 2, Uuid.ofNat 3, "\"Midnight\"\n\x00", "#191970", Fin.last 4,
      (Instant.ofParts lastSecond 1_999_999_999).getD .last, ())

/-- A worker with the registry of the catalog. -/
def clerk (registry : Registry) : Worker := ⟨.integration, registry, .standard "clerk", .tracing⟩

/-- Two clerks who rest, and an outbox without rows. -/
def desks (registry : Registry) : Fleet fun _ : Bool => clerk registry :=
  ⟨{}, .epoch, fun _ => .resting, []⟩

theorem enqueued_events_are_dispatchable_midnight :
    ∃ (registry : Registry) (row : Row), Catalog.registry = .ok registry ∧
      enqueue (fun w r => (w.write r, .ok ())) (⟨[]⟩ : Work) midnight (.ofNat 9) .epoch .off [] =
        (⟨[row]⟩, .ok (.ofNat 9), [enqueued paintColorCreatedV2 (.ofNat 9)]) ∧
      enqueue (fun t r => t.answer (.insert r)) ({} : Table) midnight (.ofNat 9) .epoch .off [] =
        ({ rows := [row] }, .ok (.ofNat 9), [enqueued paintColorCreatedV2 (.ofNat 9)]) ∧
      paintColorCreatedV2.decode row.payload = .ok midnight.event ∧
      ∀ later, ((desks registry).run (.outside (.call (.insert row)) :: later)).Dispatches
        registry row := by
  obtain ⟨registry, row, known, ids, writes, -, tables, -, -, reads, dispatches⟩ :=
    enqueued_events_are_dispatchable (s := paintColorCreatedV2) (by simp [types]) midnight
      (.ofNat 9) .epoch .off []
  refine ⟨registry, row, known, writes _ _ _ rfl, tables {} rfl rfl, reads.2 (by decide),
    fun later => ?_⟩
  have there : ((desks registry).run [.outside (.call (.insert row))]).table.find? (.ofNat 9) =
      some row := by
    have stored : ((desks registry).run [.outside (.call (.insert row))]).table =
        { rows := [row] } := rfl
    rw [stored, Table.find?]
    simp [ids]
  exact dispatches (desks registry) [.outside (.call (.insert row))] later ⟨fun _ => rfl, rfl⟩ there

/-! ## A leap second within a minute -/

/-- A tenant who came half a second after the thirtieth second of a minute was over, while that
second went on. -/
def offbeat : Envelope tenantCreated where
  tenant := .ofNat 1
  username := "ada"
  occurred := .epoch
  correlation := none
  causation := none
  event := (Uuid.ofNat 2, "Atelier", (Instant.ofParts 30 1_500_000_000).getD .last, ())

/-- The payload of this event is read as that of an event half a second into the next second. -/
theorem offbeat_event_reads_back_changed :
    ∃ row,
      enqueue (fun w r => (w.write r, .ok ())) (⟨[]⟩ : Work) offbeat (.ofNat 9) .epoch .off [] =
        (⟨[row]⟩, .ok (.ofNat 9), [enqueued tenantCreated (.ofNat 9)]) ∧
      tenantCreated.decode row.payload = .ok (Uuid.ofNat 2, "Atelier",
        (Instant.ofParts 31 500_000_000).getD .last, ()) ∧
      tenantCreated.decode row.payload ≠ .ok offbeat.event := by
  have plain := isPlain tenantCreated (by simp [types])
  refine ⟨_, rfl, ?_, fun same => ?_⟩
  · exact plain.decode_render offbeat.event
  · exact absurd ((plain.decode_render_eq_iff offbeat.event).1 same) (by decide)

end Catalog

end Relay
