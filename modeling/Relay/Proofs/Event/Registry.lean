import Mathlib.Data.List.Induction
import Mathlib.Data.String.Basic
import Relay.Proofs.Event.Catalog

/-!
# Registries are maps in which the first type stays

`Registry.after` is the registry after a sequence of calls that register types, some of which are
refused. Its types are those of the calls that succeeded (`Registry.mem_after_iff`), no two of which
have one name and version (`Registry.keys_after`); a call succeeds if no call before it did with its
name and version (`Registry.outcome_eq_none_iff`). So the registry answers by the calls that
succeeded alone, whatever their order.
-/

namespace Relay

/-- Everything that can be asked of a registry. -/
structure Answers where
  resolve : String → UInt16 → Option Schema
  contains : String → UInt16 → Bool
  size : Nat
  isEmpty : Bool
  registered : List (String × UInt16)

namespace Registry

/-- What a registry answers. -/
def answers (r : Registry) : Answers :=
  ⟨r.resolve, r.contains, r.size, r.isEmpty, r.registered⟩

/-! ## Order of keys -/

/-- Whether one name and version come before another. -/
def KeyLt (a b : String × UInt16) : Prop := a.1 < b.1 ∨ a.1 = b.1 ∧ a.2 < b.2

variable {a b c : String × UInt16}

theorem keyLe_iff : keyLe a b = true ↔ a.1 < b.1 ∨ a.1 = b.1 ∧ a.2 ≤ b.2 := by
  simp [keyLe]

theorem keyLe_trans (h : keyLe a b = true) (h' : keyLe b c = true) : keyLe a c = true := by
  rw [keyLe_iff] at *
  rcases h with less | ⟨same, le⟩ <;> rcases h' with less' | ⟨same', le'⟩
  · exact Or.inl (less.trans less')
  · exact Or.inl (same' ▸ less)
  · exact Or.inl (same ▸ less')
  · exact Or.inr ⟨same.trans same', UInt16.le_trans le le'⟩

theorem keyLe_total (a b : String × UInt16) : (keyLe a b || keyLe b a) = true := by
  rw [Bool.or_eq_true, keyLe_iff, keyLe_iff]
  rcases lt_trichotomy a.1 b.1 with less | same | more
  · exact Or.inl (Or.inl less)
  · rcases UInt16.le_total a.2 b.2 with le | le
    · exact Or.inl (Or.inr ⟨same, le⟩)
    · exact Or.inr (Or.inr ⟨same.symm, le⟩)
  · exact Or.inr (Or.inl more)

theorem keyLe_antisymm (h : keyLe a b = true) (h' : keyLe b a = true) : a = b := by
  rw [keyLe_iff] at *
  rcases h with less | ⟨same, le⟩ <;> rcases h' with less' | ⟨same', le'⟩
  · exact absurd less' (lt_asymm less)
  · exact absurd less (same' ▸ lt_irrefl _)
  · exact absurd less' (same ▸ lt_irrefl _)
  · exact Prod.ext same (UInt16.le_antisymm le le')

theorem keyLt_of_keyLe (h : keyLe a b = true) (ne : a ≠ b) : KeyLt a b := by
  rw [keyLe_iff] at h
  rcases h with less | ⟨same, le⟩
  · exact Or.inl less
  · exact Or.inr ⟨same, UInt16.lt_of_le_of_ne le fun e => ne (Prod.ext same e)⟩

theorem pairwise_keyLe (ks : List (String × UInt16)) :
    (ks.mergeSort keyLe).Pairwise fun a b => keyLe a b = true :=
  @List.pairwise_mergeSort _ keyLe (fun _ _ _ => keyLe_trans) keyLe_total ks

/-- Keys in ascending order do not depend on the order in which they came. -/
theorem mergeSort_keyLe_eq {ks ks' : List (String × UInt16)} (perm : ks.Perm ks') :
    ks.mergeSort keyLe = ks'.mergeSort keyLe := by
  have perm' : (ks.mergeSort keyLe).Perm (ks'.mergeSort keyLe) :=
    ((List.mergeSort_perm ks _).trans perm).trans (List.mergeSort_perm ks' _).symm
  exact perm'.eq_of_pairwise (fun _ _ _ _ h h' => keyLe_antisymm h h') (pairwise_keyLe ks)
    (pairwise_keyLe ks')

/-- Different keys come in strictly ascending order. -/
theorem pairwise_keyLt {ks : List (String × UInt16)} (nodup : ks.Nodup) :
    (ks.mergeSort keyLe).Pairwise KeyLt := by
  have different : (ks.mergeSort keyLe).Nodup := (List.mergeSort_perm ks _).nodup_iff.2 nodup
  exact ((pairwise_keyLe ks).and different).imp fun ⟨le, ne⟩ => keyLt_of_keyLe le ne

/-! ## Registries of different keys -/

variable {r : Registry} {s : Schema} {name : String} {version : UInt16}

theorem isNamed_iff : isNamed name version s = true ↔ key s = (name, version) := by
  simp [isNamed, key]

theorem resolve_eq_some_iff (keys : (r.types.map key).Nodup) :
    r.resolve name version = some s ↔ s ∈ r.types ∧ key s = (name, version) := by
  constructor
  · intro h
    exact ⟨List.mem_of_find?_eq_some h, isNamed_iff.1 (List.find?_some h)⟩
  · rintro ⟨mem, named⟩
    cases named
    exact resolve_of_mem keys mem

theorem key_notMem_of_resolve (absent : r.resolve s.name s.version = none) :
    key s ∉ r.types.map key := by
  intro mem
  obtain ⟨t, mem, same⟩ := List.mem_map.1 mem
  exact List.find?_eq_none.1 absent t mem (isNamed_eq_true.2 same)

/-! ## Calls -/

/-- What a call to register a type does, and why it was refused if it was. -/
def offer (r : Registry) (s : Schema) : Registry × Option Duplicate :=
  match r.register s with
  | .ok r => (r, none)
  | .error d => (r, some d)

/-- The registry after a sequence of calls. -/
def after (calls : List Schema) : Registry := calls.foldl (fun r s => (r.offer s).1) {}

/-- Why a call after others is refused, if it is. -/
def outcome (earlier : List Schema) (s : Schema) : Option Duplicate := ((after earlier).offer s).2

/-- A type that one of the calls registered. -/
def Succeeded (calls : List Schema) (s : Schema) : Prop :=
  ∃ earlier later, calls = earlier ++ s :: later ∧ outcome earlier s = none

theorem after_concat (calls : List Schema) (s : Schema) :
    after (calls ++ [s]) = ((after calls).offer s).1 := by
  simp [after]

theorem offer_cases (r : Registry) (s : Schema) :
    (∃ t, r.resolve s.name s.version = some t ∧
      r.offer s = (r, some ⟨s.name, s.version, t.typeName, s.typeName⟩)) ∨
    r.resolve s.name s.version = none ∧ r.offer s = (⟨r.types ++ [s]⟩, none) := by
  cases found : r.resolve s.name s.version with
  | some t => exact Or.inl ⟨t, rfl, by simp [offer, register, found]⟩
  | none => exact Or.inr ⟨rfl, by simp [offer, register, found]⟩

theorem succeeded_nil : ¬ Succeeded [] s := by
  rintro ⟨earlier, later, whole, -⟩
  simp at whole

theorem succeeded_concat {calls : List Schema} {t : Schema} :
    Succeeded (calls ++ [t]) s ↔ Succeeded calls s ∨ s = t ∧ outcome calls t = none := by
  constructor
  · rintro ⟨earlier, later, whole, done⟩
    rcases List.eq_nil_or_concat later with rfl | ⟨later, t', rfl⟩
    · obtain ⟨rfl, last⟩ := List.append_inj' whole rfl
      cases last
      exact Or.inr ⟨rfl, done⟩
    · rw [List.concat_eq_append, ← List.cons_append, ← List.append_assoc] at whole
      exact Or.inl ⟨earlier, later, (List.append_inj' whole rfl).1, done⟩
  · rintro (⟨earlier, later, rfl, done⟩ | ⟨rfl, done⟩)
    · exact ⟨earlier, later ++ [t], by simp, done⟩
    · exact ⟨calls, [], rfl, done⟩

/-- No two types of a registry have one name and version. -/
theorem keys_after (calls : List Schema) : ((after calls).types.map key).Nodup := by
  induction calls using List.reverseRecOn with
  | nil => exact List.nodup_nil
  | append_singleton calls s ih =>
    rw [after_concat]
    rcases offer_cases (after calls) s with ⟨t, -, there⟩ | ⟨absent, there⟩
    · rw [there]
      exact ih
    · rw [there]
      exact nodup_map_concat ih (key_notMem_of_resolve absent)

/-- The types of a registry are those that were registered with success. -/
theorem mem_after_iff {calls : List Schema} : s ∈ (after calls).types ↔ Succeeded calls s := by
  induction calls using List.reverseRecOn with
  | nil => exact ⟨nofun, fun done => absurd done succeeded_nil⟩
  | append_singleton calls t ih =>
    rw [succeeded_concat, after_concat, outcome, ← ih]
    rcases offer_cases (after calls) t with ⟨u, -, there⟩ | ⟨-, there⟩ <;> rw [there] <;> simp

theorem resolve_after {calls : List Schema} :
    (after calls).resolve name version = some s ↔
      Succeeded calls s ∧ key s = (name, version) := by
  rw [resolve_eq_some_iff (keys_after calls), mem_after_iff]

/-- A call succeeds just if none before it did with its name and version. -/
theorem outcome_eq_none_iff {earlier : List Schema} :
    outcome earlier s = none ↔ ∀ t, Succeeded earlier t → key t ≠ key s := by
  rw [outcome]
  rcases offer_cases (after earlier) s with ⟨t, found, there⟩ | ⟨absent, there⟩
  · rw [there]
    obtain ⟨done, same⟩ := resolve_after.1 found
    exact ⟨nofun, fun fresh => absurd same (fresh t done)⟩
  · rw [there]
    refine ⟨fun _ t done same => key_notMem_of_resolve absent ?_, fun _ => rfl⟩
    rw [← same]
    exact List.mem_map_of_mem (mem_after_iff.2 done)

/-- A call that is refused names the type that stays, and changes nothing. -/
theorem outcome_eq_some {earlier : List Schema} {d : Duplicate} (h : outcome earlier s = some d) :
    (∃ t, Succeeded earlier t ∧ key t = key s ∧ d = ⟨s.name, s.version, t.typeName, s.typeName⟩) ∧
      after (earlier ++ [s]) = after earlier := by
  rw [outcome] at h
  rw [after_concat]
  rcases offer_cases (after earlier) s with ⟨t, found, there⟩ | ⟨-, there⟩
  · obtain ⟨done, same⟩ := resolve_after.1 found
    rw [there] at h ⊢
    cases h
    exact ⟨⟨t, done, same, rfl⟩, rfl⟩
  · rw [there] at h
    cases h

theorem contains_after {calls : List Schema} :
    (after calls).contains name version = true ↔
      ∃ s, Succeeded calls s ∧ key s = (name, version) := by
  rw [contains, Option.isSome_iff_exists]
  exact exists_congr fun _ => resolve_after

theorem mem_registered_after {calls : List Schema} {k : String × UInt16} :
    k ∈ (after calls).registered ↔ ∃ s, Succeeded calls s ∧ key s = k := by
  rw [registered, List.mem_mergeSort, List.mem_map]
  exact exists_congr fun _ => and_congr_left' mem_after_iff

theorem size_after (calls : List Schema) :
    (after calls).size = (after calls).registered.length := by
  rw [registered, List.length_mergeSort, List.length_map, size]

theorem isEmpty_after (calls : List Schema) :
    (after calls).isEmpty = true ↔ (after calls).registered = [] := by
  rw [isEmpty, decide_eq_true_eq, size_after, List.length_eq_zero_iff]

/-! ## Types of different keys -/

/-- Types of different keys are all registered. -/
theorem types_after {calls : List Schema} (keys : (calls.map key).Nodup) :
    (after calls).types = calls := by
  induction calls using List.reverseRecOn with
  | nil => rfl
  | append_singleton calls s ih =>
    rw [List.map_append, List.nodup_append] at keys
    have there := ih keys.1
    have fresh : key s ∉ (after calls).types.map key := by
      rw [there]
      exact fun mem => keys.2.2 _ mem _ (List.mem_singleton.2 rfl) rfl
    rw [after_concat]
    rcases offer_cases (after calls) s with ⟨t, found, -⟩ | ⟨-, added⟩
    · rw [resolve_eq_none fresh] at found
      cases found
    · rw [added, there]

/-- What a registry answers does not depend on the order of its types. -/
theorem answers_perm {r' : Registry} (perm : r.types.Perm r'.types)
    (keys : (r.types.map key).Nodup) : r.answers = r'.answers := by
  have keys' : (r'.types.map key).Nodup := (perm.map key).nodup_iff.1 keys
  have resolve : r.resolve = r'.resolve := by
    funext name version
    refine Option.ext fun s => ?_
    rw [resolve_eq_some_iff keys, resolve_eq_some_iff keys', perm.mem_iff]
  have contains : r.contains = r'.contains := by
    funext name version
    rw [Registry.contains, Registry.contains, resolve]
  have size : r.size = r'.size := perm.length_eq
  have registered : r.registered = r'.registered := mergeSort_keyLe_eq (perm.map _)
  rw [answers, answers, resolve, contains, isEmpty, isEmpty, size, registered]

/-- Types of different keys can be registered in any order. -/
theorem answers_after_perm {calls calls' : List Schema} (perm : calls.Perm calls')
    (keys : (calls.map key).Nodup) : (after calls).answers = (after calls').answers := by
  have keys' : (calls'.map key).Nodup := (perm.map key).nodup_iff.1 keys
  refine answers_perm ?_ (keys_after calls)
  rw [types_after keys, types_after keys']
  exact perm

end Registry

end Relay
