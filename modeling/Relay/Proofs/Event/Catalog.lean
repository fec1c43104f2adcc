import Relay.Enqueue
import Relay.Event.Catalog
import Relay.Proofs.Json.RoundTrip
import Relay.Proofs.Keys

/-!
# The catalog reads what it writes

An event of a plain type is always written, and its payload reads back as the event
(`Schema.IsPlain.encode_eq`, `Schema.IsPlain.decode_render`), but for the time of its occurrence if
this lies in a leap second within a minute (`Schema.IsPlain.decode_render_eq_iff`). Types of
different names and versions can all be registered, and each of them is resolved
(`Registry.registerAll_ok`, `Registry.resolve_of_mem`). The types of the catalog are plain
(`Catalog.isPlain`), and no two of them have one name and version.
-/

namespace Relay

open Json

/-! ## The time of occurrence -/

namespace Schema

variable {leading : List Field}

/-- A payload with another time of occurrence. -/
def withLast : (leading : List Field) → Json.Record (leading ++ [occurredField]) → Instant →
    Json.Record (leading ++ [occurredField])
  | [], _, t => (t, ())
  | _ :: fs, (v, vs), t => (v, withLast fs vs t)

/-- The same event, at another time. -/
def withOccurred (s : Schema) (e : s.Event) (t : Instant) : s.Event := withLast s.leading e t

theorem lastInstant_withLast (r : Json.Record (leading ++ [occurredField])) (t : Instant) :
    lastInstant leading (withLast leading r t) = t := by
  induction leading with
  | nil => rfl
  | cons f fs ih => exact ih r.2

theorem withLast_lastInstant (r : Json.Record (leading ++ [occurredField])) :
    withLast leading r (lastInstant leading r) = r := by
  induction leading with
  | nil => rfl
  | cons f fs ih => exact congrArg (Prod.mk r.1) (ih r.2)

theorem withOccurred_eq_self_iff {s : Schema} {e : s.Event} {t : Instant} :
    s.withOccurred e t = e ↔ t = s.occurredAt e := by
  constructor
  · intro same
    calc
      t = lastInstant s.leading (withLast s.leading e t) := (lastInstant_withLast e t).symm
      _ = lastInstant s.leading e := congrArg (lastInstant s.leading) same
  · rintro rfl
    exact withLast_lastInstant e

/-- Only the time of occurrence can be read as another value. -/
theorem asWritten_eq_withLast (timeless : ∀ f ∈ leading, f.kind.isTimeless = true)
    (r : Json.Record (leading ++ [occurredField])) :
    Json.Record.asWritten (leading ++ [occurredField]) r =
      withLast leading r (lastInstant leading r).asWritten := by
  induction leading with
  | nil => rfl
  | cons f fs ih =>
    exact Prod.ext (Kind.asWritten_of_isTimeless (timeless f List.mem_cons_self) r.1)
      (ih (fun g mem => timeless g (List.mem_cons_of_mem f mem)) r.2)

end Schema

/-! ## Types -/

/-- A type that refuses no event, whose fields have different names and hold what reads back, and no
instant but the time of occurrence. -/
structure Schema.IsPlain (s : Schema) : Prop where
  writes : ∀ e, s.refusal e = none
  names : (s.fields.map Field.name).Nodup
  kinds : ∀ f ∈ s.fields, f.kind.readsBack = true
  timeless : ∀ f ∈ s.leading, f.kind.isTimeless = true

namespace Schema.IsPlain

variable {s : Schema} (h : s.IsPlain)

include h

theorem encode_eq (e : s.Event) : s.encode e = .ok (render s.fields e) := by
  rw [encode, h.writes]

/-- **An event reads back from its payload**, at the time that the payload names. -/
theorem decode_render (e : s.Event) :
    s.decode (render s.fields e) = .ok (s.withOccurred e (s.occurredAt e).asWritten) := by
  rw [decode, parseRecord_render s.recordName h.names h.kinds e]
  exact congrArg Except.ok (asWritten_eq_withLast h.timeless e)

/-- It is the event that was written, unless this lies in a leap second within a minute. -/
theorem decode_render_eq_iff (e : s.Event) :
    s.decode (render s.fields e) = .ok e ↔ (s.occurredAt e).IsLegible := by
  rw [h.decode_render, ← Instant.asWritten_eq_self_iff, ← withOccurred_eq_self_iff]
  exact ⟨Except.ok.inj, congrArg Except.ok⟩

end Schema.IsPlain

/-! ## Registries -/

namespace Registry

/-- What a type is registered under. -/
def key (s : Schema) : String × UInt16 := (s.name, s.version)

theorem isNamed_eq_true {s s' : Schema} : isNamed s.name s.version s' = true ↔ key s' = key s := by
  simp [isNamed, key]

variable {r : Registry} {s : Schema}

/-- A type is resolved, if no other has its name and version. -/
theorem resolve_of_mem (keys : (r.types.map key).Nodup) (mem : s ∈ r.types) :
    r.resolve s.name s.version = some s := by
  refine find?_of_unique (isNamed_eq_true.2 rfl) mem fun s' mem' named => ?_
  exact List.inj_on_of_nodup_map keys mem' mem (isNamed_eq_true.1 named)

theorem resolve_eq_none (absent : key s ∉ r.types.map key) :
    r.resolve s.name s.version = none := by
  refine List.find?_eq_none.2 fun s' mem named => absent ?_
  rw [← isNamed_eq_true.1 named]
  exact List.mem_map_of_mem mem

/-- Types of different names and versions are registered one after another. -/
theorem registerAll_ok {types : List Schema} (keys : ((r.types ++ types).map key).Nodup) :
    r.registerAll types = .ok ⟨r.types ++ types⟩ := by
  induction types generalizing r with
  | nil => simp [registerAll, pure, Except.pure]
  | cons s types ih =>
    have fresh : key s ∉ r.types.map key := by
      rw [List.map_append, List.map_cons, List.nodup_append] at keys
      exact fun mem => keys.2.2 _ mem _ List.mem_cons_self rfl
    have registered : r.register s = .ok ⟨r.types ++ [s]⟩ := by
      rw [register, resolve_eq_none fresh]
    have onward : (r.types ++ [s]) ++ types = r.types ++ s :: types := by simp
    rw [← onward] at keys ⊢
    exact bind_ok registered (ih keys)

end Registry

namespace Catalog

/-- Every type of the catalog is plain. -/
theorem isPlain : ∀ s ∈ types, s.IsPlain := by
  have names : ∀ s ∈ types, (s.fields.map Field.name).Nodup := by decide
  have kinds : ∀ s ∈ types, ∀ f ∈ s.fields, f.kind.readsBack = true := by decide
  have timeless : ∀ s ∈ types, ∀ f ∈ s.leading, f.kind.isTimeless = true := by decide
  have writes : ∀ s ∈ types, ∀ e, s.refusal e = none := by
    simp only [types, List.forall_mem_cons]
    exact ⟨fun _ => rfl, fun _ => rfl, fun _ => rfl, fun _ => rfl, fun _ => rfl, fun _ => rfl,
      fun _ => rfl, fun _ => rfl, fun _ => rfl, fun _ => rfl, fun _ mem => by cases mem⟩
  exact fun s mem => ⟨writes s mem, names s mem, kinds s mem, timeless s mem⟩

/-- No two types of the catalog have one name and version. -/
theorem keys_nodup : (types.map Registry.key).Nodup := by decide

/-- The catalog has a registry, which knows all its types. -/
theorem registry_eq : registry = .ok ⟨types⟩ := Registry.registerAll_ok (r := {}) keys_nodup

end Catalog

end Relay
