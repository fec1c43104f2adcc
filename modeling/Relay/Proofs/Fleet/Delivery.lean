import Relay.Proofs.Fleet.Basic
import Relay.Proofs.Table.Columns
import Relay.Proofs.Worker.Message

/-!
# Processed means delivered

Workers of one registry share a table, calls fail, leases run out, rows are requeued, and any worker
may stop anywhere. Still a row that is processed was taken by the broker in a message that conveys
it, and a row that the registry does not accept is neither offered to the broker nor processed
(`Fleet.processed_rows_were_delivered`).

A worker publishes from a copy that it read some steps before, so the invariant (`Fleet.Honest`)
ties every copy to the stored row it was read from: the two have the same origin, and that never
changes.
-/

namespace Relay

/-- There is a row of the same origin. -/
def Table.Knows (t : Table) (r : Row) : Prop := ∃ s, t.find? r.id = some s ∧ s.origin = r.origin

/-- Whether a registry accepts a row depends on what the row is. -/
theorem Registry.Accepts.of_origin {registry : Registry} {r r' : Row} (h : registry.Accepts r)
    (e : r.origin = r'.origin) : registry.Accepts r' := by
  simp only [Row.origin, Row.Origin.mk.injEq] at e
  obtain ⟨-, name, version, -, -, -, -, -, -, -, -, -, payload, -⟩ := e
  obtain ⟨schema, known, valid⟩ := h
  exact ⟨schema, by rw [← name, ← version, known], payload ▸ valid⟩

namespace Fleet

variable {ι : Type} {workers : ι → Worker} {registry : Registry}

/-- From outside, rows that are not processed come in, and rows are requeued and looked at. -/
def Turn.IsOrdinary : Turn ι → Prop
  | .outside op => op.fromCaller ∧ ∀ row ∈ op.inserted, row.processed = none
  | _ => True

/-- The broker took a message of the row of an id. -/
def Delivered (f : Fleet workers) (id : Uuid) : Prop := ∃ o ∈ f.offers, o.row = id ∧ o.isAccepted

/-- A worker's copy is of a stored row, it is offered only if the registry accepts it, and taken
only if it was delivered. -/
structure Sound (registry : Registry) (f : Fleet workers) (i : ι) : Prop where
  copied : ∀ row, (f.post i).flight = some row → f.table.Knows row
  checked : ∀ row, (f.post i).offering = some row → registry.Accepts row
  delivered : ∀ row, (f.post i).taken = some row → f.Delivered row.id

/-- What is offered to the broker conveys stored rows that the registry accepts, and processed rows
were delivered. -/
structure Honest (registry : Registry) (f : Fleet workers) : Prop where
  sound : ∀ i, f.Sound registry i
  offered : ∀ o ∈ f.offers, ∃ r, f.table.find? o.row = some r ∧ registry.Accepts r ∧
    o.message.Conveys r
  processed : ∀ id r, f.table.find? id = some r → r.processed.isSome → f.Delivered id

theorem Fresh.honest {f : Fleet workers} (fresh : f.Fresh)
    (unprocessed : ∀ id r, f.table.find? id = some r → r.processed = none) :
    f.Honest registry where
  sound i := by
    constructor <;> intro row h <;> rw [fresh.resting i] at h <;> cases h
  offered o h := by
    rw [fresh.unoffered] at h
    cases h
  processed id r there h := by
    rw [unprocessed id r there] at h
    cases h

variable [DecidableEq ι] {f g : Fleet workers} {u : Turn ι} {x : Uuid} {r : Row}

/-! ## One turn -/

/-- A row stays what it is. -/
theorem Moves.origin (m : f.Moves u g) (there : f.table.find? x = some r) :
    ∃ s, g.table.find? x = some s ∧ s.origin = r.origin := by
  rcases m.find? there with h | ⟨op, -, h⟩
  · exact ⟨r, h, rfl⟩
  · exact ⟨_, h, op.origin_effect r⟩

theorem Moves.knows (m : f.Moves u g) (h : f.table.Knows r) : g.table.Knows r := by
  obtain ⟨s, there, e⟩ := h
  obtain ⟨s', there', e'⟩ := m.origin there
  exact ⟨s', there', e'.trans e⟩

theorem Moves.delivered (m : f.Moves u g) (h : f.Delivered x) : g.Delivered x := by
  obtain ⟨o, mem, e⟩ := h
  exact ⟨o, m.mem_offers mem, e⟩

/-- A worker's copy is of a stored row, if its copies were before. -/
theorem Moves.copied (m : f.Moves u g) {i : ι}
    (before : ∀ row, (f.post i).flight = some row → f.table.Knows row)
    (copy : (g.post i).flight = some r) : g.table.Knows r := by
  rcases m.flight copy with ⟨-, copy' | ⟨reply, b, id, -, -, -, found, -⟩⟩
  · exact m.knows (before r copy')
  · exact m.knows ⟨r, Table.id_of_find? found ▸ found, rfl⟩

/-- What is offered conveys stored rows with a property that depends on what a row is, if it did
before and the copies that workers offer have the property. -/
theorem Moves.conveyed {P : Row → Prop} (kept : ∀ {r r'}, r.origin = r'.origin → P r → P r')
    (m : f.Moves u g)
    (before : ∀ o ∈ f.offers, ∃ r, f.table.find? o.row = some r ∧ P r ∧ o.message.Conveys r)
    (copies : ∀ i row, (f.post i).offering = some row → f.table.Knows row ∧ P row) (o : Offer)
    (mem : o ∈ g.offers) : ∃ r, g.table.find? o.row = some r ∧ P r ∧ o.message.Conveys r := by
  have stays : ∀ r, f.table.find? o.row = some r → P r → o.message.Conveys r →
      ∃ r, g.table.find? o.row = some r ∧ P r ∧ o.message.Conveys r := by
    intro r there holds conveys
    obtain ⟨s, there', e⟩ := m.origin there
    exact ⟨s, there', kept e.symm holds, conveys.of_origin e.symm⟩
  have old : o ∈ f.offers → ∃ r, g.table.find? o.row = some r ∧ P r ∧ o.message.Conveys r := by
    intro mem
    obtain ⟨r, there, holds, conveys⟩ := before o mem
    exact stays r there holds conveys
  rcases m.offers with e | ⟨i, reply, b, row, span, -, asking, -, e⟩
  · exact old (e ▸ mem)
  · rw [e, List.mem_append, List.mem_singleton] at mem
    rcases mem with mem | rfl
    · exact old mem
    · -- the copy that is offered is of a stored row
      obtain ⟨⟨r, there, e⟩, holds⟩ := copies i row (by rw [asking]; rfl)
      exact stays r there (kept e.symm holds) ((row.conveys_message span).of_origin e.symm)

theorem Honest.sound_step (h : f.Honest registry) (same : ∀ i, (workers i).registry = registry)
    (m : f.Moves u g) (i : ι) : g.Sound registry i where
  copied row copy := m.copied (h.sound i).copied copy
  checked row copy := by
    rcases m.offering copy with copy' | accepted
    · exact (h.sound i).checked row copy'
    · exact same i ▸ accepted
  delivered row copy := by
    rcases m.taken copy with copy' | ⟨b, span, -, -, e⟩
    · exact m.delivered ((h.sound i).delivered row copy')
    · exact ⟨_, by rw [e]; exact List.mem_concat_self, rfl, rfl⟩

theorem Honest.offered_step (h : f.Honest registry) (m : f.Moves u g) (o : Offer)
    (mem : o ∈ g.offers) :
    ∃ r, g.table.find? o.row = some r ∧ registry.Accepts r ∧ o.message.Conveys r :=
  m.conveyed (fun e accepted => accepted.of_origin e) h.offered
    (fun i row copy => ⟨(h.sound i).copied row (Post.flight_of_offering copy),
      (h.sound i).checked row copy⟩) o mem

theorem Honest.processed_step (h : f.Honest registry) (ordinary : u.IsOrdinary) (m : f.Moves u g)
    (there : g.table.find? x = some r) (processed : r.processed.isSome) : g.Delivered x := by
  cases before : f.table.find? x with
  | none =>
    rcases m.find?_none before with h | ⟨op, rfl, row, new, -, h⟩
    · rw [h] at there
      cases there
    · rw [h] at there
      cases there
      rw [ordinary.2 r new] at processed
      cases processed
  | some s =>
    rcases m.find? before with h' | ⟨op, does, h'⟩
    · rw [h'] at there
      cases there
      exact m.delivered (h.processed x r before processed)
    · rw [h'] at there
      cases there
      rcases op.processed_effect s with e | ⟨now, rfl⟩
      · exact m.delivered (h.processed x s before (e ▸ processed))
      · -- the worker that records it has a copy that the broker took
        cases does with
        | outside => cases ordinary.1
        | calls i reply phase c asking hc =>
          cases phase with
          | completing b row span now' =>
            simp only [Request.store.injEq, Call.markProcessed.injEq] at hc
            have delivered := (h.sound i).delivered row (by rw [asking]; rfl)
            exact m.delivered ((hc.1.trans (Table.id_of_find? before)) ▸ delivered)
          | checking | selecting | claiming | fetching | reading | publishing | poisoning
          | failing => cases hc

theorem Honest.step (h : f.Honest registry) (same : ∀ i, (workers i).registry = registry)
    (ordinary : u.IsOrdinary) (m : f.Moves u g) : g.Honest registry where
  sound := h.sound_step same m
  offered := h.offered_step m
  processed _ _ := h.processed_step ordinary m

/-! ## Runs -/

theorem run_origin (turns : List (Turn ι)) (there : f.table.find? x = some r) :
    ∃ s, (f.run turns).table.find? x = some s ∧ s.origin = r.origin := by
  refine run_keeps (P := fun _ _ _ => True)
    (I := fun g => ∃ s, g.table.find? x = some s ∧ s.origin = r.origin) ?_ ⟨r, there, rfl⟩
    (along_of_forall (fun _ _ => trivial) f)
  rintro f u g ⟨s, there, e⟩ - m
  obtain ⟨s', there', e'⟩ := m.origin there
  exact ⟨s', there', e'.trans e⟩

theorem Honest.run (h : f.Honest registry) (same : ∀ i, (workers i).registry = registry)
    {turns : List (Turn ι)} (ordinary : ∀ u ∈ turns, u.IsOrdinary) :
    (f.run turns).Honest registry :=
  run_keeps (P := fun _ u _ => u.IsOrdinary) (fun _ _ _ h ordinary m => h.step same ordinary m) h
    (along_of_forall ordinary f)

/-- **Processed means delivered.** At any time, whatever was offered to the broker conveys a stored
row that the registry accepts. And of every stored row: if it is processed, the broker took a
message that conveys it; if the registry does not accept it, it was never offered to the broker and
is not processed; and what it is never changes. -/
theorem processed_rows_were_delivered (fresh : f.Fresh)
    (unprocessed : ∀ id r, f.table.find? id = some r → r.processed = none)
    (same : ∀ i, (workers i).registry = registry) (earlier later : List (Turn ι))
    (ordinary : ∀ u ∈ earlier, u.IsOrdinary) :
    (∀ o ∈ (f.run earlier).offers, ∃ r, (f.run earlier).table.find? o.row = some r ∧
      registry.Accepts r ∧ o.message.Conveys r) ∧
    ∀ id r, (f.run earlier).table.find? id = some r →
      (r.processed.isSome →
        ∃ o ∈ (f.run earlier).offers, o.row = id ∧ o.isAccepted ∧ o.message.Conveys r) ∧
      (¬ registry.Accepts r →
        (∀ o ∈ (f.run earlier).offers, o.row ≠ id) ∧ r.processed = none) ∧
      ∃ s, (f.run (earlier ++ later)).table.find? id = some s ∧ s.origin = r.origin := by
  have honest := (fresh.honest unprocessed).run same ordinary
  refine ⟨honest.offered, fun id r there => ?_⟩
  -- whatever is offered under an id is about the row that is stored there
  have offered : ∀ o ∈ (f.run earlier).offers, o.row = id →
      registry.Accepts r ∧ o.message.Conveys r := by
    intro o mem e
    obtain ⟨r', there', accepted, conveys⟩ := honest.offered o mem
    rw [e, there] at there'
    cases there'
    exact ⟨accepted, conveys⟩
  have delivered : r.processed.isSome →
      ∃ o ∈ (f.run earlier).offers, o.row = id ∧ o.isAccepted ∧ o.message.Conveys r := by
    intro processed
    obtain ⟨o, mem, e, accepted⟩ := honest.processed id r there processed
    exact ⟨o, mem, e, accepted, (offered o mem e).2⟩
  refine ⟨delivered, fun refused => ⟨fun o mem e => refused (offered o mem e).1, ?_⟩, ?_⟩
  · rw [← Option.not_isSome_iff_eq_none]
    intro processed
    obtain ⟨o, mem, e, -⟩ := delivered processed
    exact refused (offered o mem e).1
  · rw [run_append]
    exact run_origin later there

theorem processed_rows_were_delivered_office :
    (∃ o ∈ (Office.start.run Office.shift).offers, o.row = Office.known.id ∧ o.isAccepted ∧
      o.message.Conveys Office.relayed) ∧
    ∀ o ∈ (Office.start.run Office.shift).offers, o.row ≠ Office.unknown.id := by
  have unprocessed : ∀ id r, Office.start.table.find? id = some r → r.processed = none := by
    intro id r there
    have mem : r ∈ [Office.known, Office.unknown] := Table.mem_of_find? there
    simp only [List.mem_cons, List.not_mem_nil, or_false] at mem
    rcases mem with rfl | rfl <;> rfl
  have ordinary : ∀ u ∈ Office.shift, u.IsOrdinary := by
    simp [Office.shift, Office.search, Office.capture, Office.delivery, Turn.IsOrdinary]
  have refused : ¬ Office.courier.registry.Accepts Office.rejected := by
    rintro ⟨schema, known, -⟩
    cases known
  obtain ⟨-, delivered⟩ := processed_rows_were_delivered Office.fresh_start unprocessed
    (fun _ => rfl) Office.shift [] ordinary
  rw [Office.run_shift] at delivered ⊢
  exact ⟨(delivered Office.known.id Office.relayed rfl).1 rfl,
    ((delivered Office.unknown.id Office.rejected rfl).2.1 refused).1⟩

end Fleet

end Relay
