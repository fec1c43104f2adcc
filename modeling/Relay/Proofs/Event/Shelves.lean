import Relay.Event.Shelves
import Relay.Proofs.Event.Registry

/-!
# Shelves answer as registries do

Shelves keep the types of a registry (`Shelves.Keeps`): no two shelves have one name, every type
stands on the shelf of its name, and all of them together are the types of the registry in some
order. Such shelves answer as the registry does (`Shelves.Keeps.answers_eq`), in whatever order they
stand, and registering a type on them is registering it (`Shelves.Keeps.register`). With what is
known of registries, `Registry.first_wins` says what any sequence of calls comes to.
-/

namespace Relay

open Registry (key)

namespace Shelves

variable {all all' : Shelves} {r : Registry} {s : Schema}

/-- The shelves hold the types of a registry. -/
structure Keeps (all : Shelves) (r : Registry) : Prop where
  names : (all.shelves.map Shelf.name).Nodup
  labelled : ∀ shelf ∈ all.shelves, ∀ s ∈ shelf.types, s.name = shelf.name
  types : (all.shelves.flatMap Shelf.types).Perm r.types
  keys : (r.types.map key).Nodup

/-- What shelves answer. -/
def answers (all : Shelves) : Answers :=
  ⟨all.resolve, all.contains, all.size, all.isEmpty, all.registered⟩

/-! ## Answers -/

/-- The types are counted shelf by shelf. -/
theorem size_eq_length (all : Shelves) : all.size = (all.shelves.flatMap Shelf.types).length := by
  obtain ⟨shelves⟩ := all
  induction shelves with
  | nil => rfl
  | cons shelf shelves ih =>
    rw [size] at ih ⊢
    rw [List.foldr_cons, ih, List.flatMap_cons, List.length_append]

namespace Keeps

variable (h : all.Keeps r)

include h

theorem mem_types_iff : s ∈ r.types ↔ ∃ shelf ∈ all.shelves, s ∈ shelf.types := by
  rw [← h.types.mem_iff, List.mem_flatMap]

theorem find?_name {shelf : Shelf} (mem : shelf ∈ all.shelves) :
    (all.shelves.find? fun other => other.name = shelf.name) = some shelf := by
  refine find?_of_unique (by simp) mem fun other mem' same => ?_
  exact List.inj_on_of_nodup_map h.names mem' mem (by simpa using same)

theorem find?_version {shelf : Shelf} (mem : shelf ∈ all.shelves) (there : s ∈ shelf.types) :
    shelf.find? s.version = some s := by
  refine find?_of_unique (by simp) there fun t there' same => ?_
  have version : t.version = s.version := by simpa using same
  have name : t.name = s.name :=
    (h.labelled shelf mem t there').trans (h.labelled shelf mem s there).symm
  exact List.inj_on_of_nodup_map h.keys (h.mem_types_iff.2 ⟨shelf, mem, there'⟩)
    (h.mem_types_iff.2 ⟨shelf, mem, there⟩) (Prod.ext name version)

theorem resolve_eq (name : String) (version : UInt16) :
    all.resolve name version = r.resolve name version := by
  refine Option.ext fun s => ?_
  rw [Registry.resolve_eq_some_iff h.keys, h.mem_types_iff]
  constructor
  · intro found
    obtain ⟨shelf, named, versioned⟩ := Option.bind_eq_some_iff.1 found
    have mem : shelf ∈ all.shelves := List.mem_of_find?_eq_some named
    have there : s ∈ shelf.types := List.mem_of_find?_eq_some versioned
    have name : shelf.name = name := by simpa using List.find?_some named
    have version : s.version = version := by simpa using List.find?_some versioned
    exact ⟨⟨shelf, mem, there⟩, Prod.ext ((h.labelled shelf mem s there).trans name) version⟩
  · rintro ⟨⟨shelf, mem, there⟩, same⟩
    cases same
    refine Option.bind_eq_some_iff.2 ⟨shelf, ?_, h.find?_version mem there⟩
    rw [h.labelled shelf mem s there]
    exact h.find?_name mem

theorem size_eq : all.size = r.size := by
  rw [size_eq_length, h.types.length_eq, Registry.size]

theorem registered_eq : all.registered = r.registered := by
  have labels :
      (all.shelves.flatMap fun shelf => shelf.types.map fun s => (shelf.name, s.version)) =
        (all.shelves.flatMap Shelf.types).map fun s => (s.name, s.version) := by
    rw [List.map_flatMap]
    refine List.flatMap_congr fun shelf mem => List.map_congr_left fun s there => ?_
    rw [h.labelled shelf mem s there]
  rw [registered, labels, Registry.registered]
  exact Registry.mergeSort_keyLe_eq (h.types.map _)

theorem answers_eq : all.answers = r.answers := by
  have resolve : all.resolve = r.resolve := funext₂ h.resolve_eq
  have contains : all.contains = r.contains := by
    funext name version
    rw [Shelves.contains, Registry.contains, resolve]
  rw [answers, Registry.answers, resolve, contains, isEmpty, Registry.isEmpty, h.size_eq,
    h.registered_eq]

/-- It does not matter in which order the shelves stand. -/
theorem perm (perm : all'.shelves.Perm all.shelves) : all'.Keeps r where
  names := (perm.map _).nodup_iff.2 h.names
  labelled shelf mem := h.labelled shelf (perm.mem_iff.1 mem)
  types := (perm.flatMap_right _).trans h.types
  keys := h.keys

end Keeps

/-! ## Calls -/

theorem mem_names_withShelf (all : Shelves) (name : String) :
    name ∈ (all.withShelf name).shelves.map Shelf.name := by
  rw [withShelf]
  split
  next there => simpa using there
  next => simp

theorem Keeps.withShelf (h : all.Keeps r) (name : String) : (all.withShelf name).Keeps r := by
  rw [Shelves.withShelf]
  split
  next => exact h
  next absent =>
    have fresh : name ∉ all.shelves.map Shelf.name := by simpa using absent
    exact
      { names := nodup_map_concat h.names fresh
        labelled := fun shelf mem => by
          rcases List.mem_append.1 mem with mem | mem
          · exact h.labelled shelf mem
          · rw [List.mem_singleton.1 mem]
            nofun
        types := by simpa using h.types
        keys := h.keys }

theorem inserted_perm (s : Schema) (types : List Schema) :
    (Shelf.inserted s types).Perm (s :: types) := by
  induction types with
  | nil => exact List.Perm.refl _
  | cons t types ih =>
    rw [Shelf.inserted]
    split
    · exact List.Perm.refl _
    · exact (ih.cons t).trans (List.Perm.swap s t types)

/-- A type is put on one shelf, the shelf of its name. -/
theorem put_perm {shelves : List Shelf} (names : (shelves.map Shelf.name).Nodup)
    (there : s.name ∈ shelves.map Shelf.name) :
    ((put ⟨shelves⟩ s).shelves.flatMap Shelf.types).Perm
      (s :: shelves.flatMap Shelf.types) := by
  induction shelves with
  | nil => simp at there
  | cons shelf shelves ih =>
    rw [List.map_cons, List.nodup_cons] at names
    simp only [put, List.map_cons, List.flatMap_cons] at ih ⊢
    by_cases own : shelf.name = s.name
    · have others :
          (shelves.map fun shelf => if shelf.name = s.name then shelf.insert s else shelf) =
            shelves := by
        refine List.map_congr_left (fun other mem => if_neg fun same => names.1 ?_) |>.trans
          (List.map_id _)
        rw [own, ← same]
        exact List.mem_map_of_mem mem
      rw [if_pos own, others]
      exact (inserted_perm s shelf.types).append_right _
    · have there' : s.name ∈ shelves.map Shelf.name := by
        rcases List.mem_cons.1 there with same | mem
        · exact absurd same.symm own
        · exact mem
      rw [if_neg own]
      exact ((ih names.2 there').append_left _).trans List.perm_middle

theorem Keeps.put (h : all.Keeps r) (there : s.name ∈ all.shelves.map Shelf.name)
    (fresh : key s ∉ r.types.map key) : (all.put s).Keeps ⟨r.types ++ [s]⟩ where
  names := by
    have same : (all.put s).shelves.map Shelf.name = all.shelves.map Shelf.name := by
      rw [Shelves.put, List.map_map]
      refine List.map_congr_left fun shelf _ => ?_
      rw [Function.comp_apply]
      split <;> rfl
    rw [same]
    exact h.names
  labelled shelf mem t there := by
    obtain ⟨shelf, own, rfl⟩ := List.mem_map.1 mem
    split at there
    next same =>
      rw [if_pos same]
      rcases List.mem_cons.1 ((inserted_perm s shelf.types).mem_iff.1 there) with rfl | there
      · exact same.symm
      · exact h.labelled shelf own t there
    next other =>
      rw [if_neg other]
      exact h.labelled shelf own t there
  types :=
    ((put_perm h.names there).trans (h.types.cons s)).trans (List.perm_append_singleton s _).symm
  keys := nodup_map_concat h.keys fresh

/-- A type is registered on shelves as it is in the registry that they keep. -/
theorem Keeps.register (h : all.Keeps r) (s : Schema) :
    (all.register s).2 = (r.offer s).2 ∧ (all.register s).1.Keeps (r.offer s).1 := by
  have opened := h.withShelf s.name
  have resolves := opened.resolve_eq s.name s.version
  rcases Registry.offer_cases r s with ⟨t, found, there⟩ | ⟨absent, there⟩
  · rw [found] at resolves
    simp only [Shelves.register, resolves, there, true_and]
    exact opened
  · rw [absent] at resolves
    simp only [Shelves.register, resolves, there, true_and]
    exact opened.put (mem_names_withShelf all s.name) (Registry.key_notMem_of_resolve absent)

/-- The shelves after a sequence of calls. -/
def after (calls : List Schema) : Shelves := calls.foldl (fun all s => (all.register s).1) {}

theorem keeps_after (calls : List Schema) : (after calls).Keeps (Registry.after calls) := by
  induction calls using List.reverseRecOn with
  | nil => exact ⟨List.nodup_nil, nofun, List.Perm.refl _, List.nodup_nil⟩
  | append_singleton calls s ih =>
    rw [after, List.foldl_append, Registry.after_concat]
    exact (ih.register s).2

end Shelves

namespace Registry

/-- **A registry is a finite map in which the first type stays.** A call succeeds just if no call
before it did with its name and version; one that is refused names the type that stays and changes
no answer. A name and version are resolved to the type of the call that succeeded with them. The
registered names and versions are those of the calls that succeeded, in strictly ascending order,
and counted once each. Types of different names and versions can be registered in any order. Shelves
give the same answers, in whatever order they stand, and refuse the same calls. -/
theorem first_wins :
    (∀ earlier s, outcome earlier s = none ↔ ∀ t, Succeeded earlier t → key t ≠ key s) ∧
    (∀ earlier s d, outcome earlier s = some d →
      (∃ t, Succeeded earlier t ∧ key t = key s ∧
        d = ⟨s.name, s.version, t.typeName, s.typeName⟩) ∧
      (after (earlier ++ [s])).answers = (after earlier).answers) ∧
    (∀ calls name version s, (after calls).resolve name version = some s ↔
      Succeeded calls s ∧ key s = (name, version)) ∧
    (∀ calls name version, (after calls).contains name version = true ↔
      ∃ s, Succeeded calls s ∧ key s = (name, version)) ∧
    (∀ calls, (after calls).registered.Pairwise KeyLt ∧
      (∀ k, k ∈ (after calls).registered ↔ ∃ s, Succeeded calls s ∧ key s = k) ∧
      (after calls).size = (after calls).registered.length ∧
      ((after calls).isEmpty = true ↔ (after calls).registered = [])) ∧
    (∀ calls calls', calls.Perm calls' → (calls.map key).Nodup →
      (after calls).answers = (after calls').answers) ∧
    ∀ calls (all : Shelves), all.shelves.Perm (Shelves.after calls).shelves →
      all.answers = (after calls).answers ∧ ∀ s, (all.register s).2 = outcome calls s := by
  refine ⟨fun _ _ => outcome_eq_none_iff, fun earlier s d refused => ?_,
    fun _ _ _ _ => resolve_after, fun _ _ _ => contains_after,
    fun calls => ⟨pairwise_keyLt (keys_after calls), fun _ => mem_registered_after,
      size_after calls, isEmpty_after calls⟩,
    fun _ _ => answers_after_perm, fun calls all perm => ?_⟩
  · obtain ⟨stays, same⟩ := outcome_eq_some refused
    exact ⟨stays, congrArg answers same⟩
  · have keeps := (Shelves.keeps_after calls).perm perm
    exact ⟨keeps.answers_eq, fun s => (keeps.register s).1⟩

/-- A type with the name and the version of another. -/
def rival : Schema := { Catalog.paintColorCreated with typeName := "colors::PaintColorCreated" }

theorem first_wins_rival :
    outcome [Catalog.paintColorCreatedV2] rival = none ∧
    outcome [Catalog.paintColorCreatedV2, Catalog.paintColorCreated] rival =
      some ⟨"PaintColorCreated", 1, "brushwork_events::catalog::integration::PaintColorCreated",
        "colors::PaintColorCreated"⟩ ∧
    (after [Catalog.paintColorCreatedV2, Catalog.paintColorCreated, rival]).answers =
      (after [Catalog.paintColorCreated, Catalog.paintColorCreatedV2]).answers ∧
    (Shelves.after [Catalog.paintColorCreatedV2, Catalog.paintColorCreated, rival]).answers =
      (after [Catalog.paintColorCreatedV2, Catalog.paintColorCreated, rival]).answers := by
  obtain ⟨succeeds, refused, -, -, -, anyOrder, onShelves⟩ := first_wins
  have first : outcome [Catalog.paintColorCreatedV2, Catalog.paintColorCreated] rival =
      some ⟨"PaintColorCreated", 1, "brushwork_events::catalog::integration::PaintColorCreated",
        "colors::PaintColorCreated"⟩ := by decide
  have swapped : [Catalog.paintColorCreatedV2, Catalog.paintColorCreated].Perm
      [Catalog.paintColorCreated, Catalog.paintColorCreatedV2] := List.Perm.swap _ _ _
  have different : ([Catalog.paintColorCreatedV2, Catalog.paintColorCreated].map key).Nodup := by
    decide
  refine ⟨(succeeds _ _).2 fun t done => ?_, first,
    ((refused _ _ _ first).2).trans (anyOrder _ _ swapped different),
    (onShelves _ _ (List.Perm.refl _)).1⟩
  obtain rfl : t = Catalog.paintColorCreatedV2 := by
    simpa [types_after] using mem_after_iff.2 done
  decide

end Registry

end Relay
