import Relay.Proofs.Iteration.Faults

/-!
# An iteration in company

While a worker goes through its batch, others use the same table. `Table.Spared` is all that they
may do to it as long as they leave the rows of some ids alone, and `Solo.Surely` says that an
iteration comes to something whatever they do before each of its steps. A call about a row that is
left alone goes as it would have gone (`Table.Spared.respond`), and after the batch is read an
iteration makes no other calls. So what an iteration comes to with the table for itself it comes to
in company (`Solo.surely_of_leads`).
-/

namespace Relay

/-! ## What others do to a table -/

namespace Table

variable {ids : List Uuid} {t t' t'' : Table}

/-- From one table to another, anything may have been done but to the rows of some ids. -/
structure Spared (ids : List Uuid) (t t' : Table) : Prop where
  broken : t'.broken = t.broken
  found : ∀ id ∈ ids, t'.find? id = t.find? id

theorem Spared.trans (h : Spared ids t t') (h' : Spared ids t' t'') : Spared ids t t'' :=
  ⟨h'.broken.trans h.broken, fun id mem => (h'.found id mem).trans (h.found id mem)⟩

/-- A change of a row that is left alone is made or not made as it would have been. -/
theorem Spared.updateLive_snd {id : Uuid} (spared : Spared ids t t') (mem : id ∈ ids)
    (f : Row → Option Row) : (t'.updateLive id f).2 = (t.updateLive id f).2 := by
  rw [Bool.eq_iff_iff, Table.updateLive_snd, Table.updateLive_snd, spared.found id mem]

variable {call : Call} {id : Uuid}

theorem Spared.answer_snd (spared : Spared ids t t') (about : call.about = some id)
    (mem : id ∈ ids) : (t'.answer call).2 = (t.answer call).2 := by
  cases call with
  | get x =>
    obtain rfl := Option.some.inj about
    exact congrArg Except.ok (spared.found x mem)
  | markProcessed x | markPoisoned x | recordFailure x =>
    obtain rfl := Option.some.inj about
    simp only [answer]
    exact congrArg Except.ok (spared.updateLive_snd mem _)
  | insert | hasDue | selectDue | claim | fetchClaimed | stats | requeue => cases about

theorem Spared.answer_fst (spared : Spared ids t t') (about : call.about = some id) :
    Spared ids (t.answer call).1 (t'.answer call).1 := by
  have adds_none : ∀ row, call ≠ .insert row := by
    rintro row rfl
    cases about
  refine ⟨?_, fun x mem => ?_⟩
  · rw [broken_answer, broken_answer, spared.broken]
  · rw [find?_answer_map t' adds_none, find?_answer_map t adds_none, spared.found x mem]

/-- What an attempt is counted on is left alone. -/
theorem Spared.breaksOff_iff (spared : Spared ids t t') (about : call.about = some id)
    (mem : id ∈ ids) : t'.BreaksOff call ↔ t.BreaksOff call := by
  have same : ∀ x a, call = .recordFailure x a → t'.overflows x a = t.overflows x a := by
    rintro x a rfl
    obtain rfl := Option.some.inj about
    simp only [overflows, spared.found x mem]
  refine exists_congr fun x => exists_congr fun a => and_congr_right fun e => ?_
  rw [same x a e]

/-- **A call about a row that is left alone** has the answer that it would have had, and leaves
tables behind that differ in no such row. -/
theorem Spared.respond (spared : Spared ids t t') (about : call.about = some id) (mem : id ∈ ids) :
    (t'.respond call).2 = (t.respond call).2 ∧
      Spared ids (t.respond call).1 (t'.respond call).1 := by
  cases works : t.broken with
  | true => simp [Table.respond, works, spared.broken, spared]
  | false =>
    have works' : t'.broken = false := spared.broken.trans works
    by_cases breaksOff : t.BreaksOff call
    · have breaksOff' := (spared.breaksOff_iff about mem).mpr breaksOff
      obtain ⟨x, a, rfl, overflows⟩ := breaksOff
      obtain ⟨x', a', e, overflows'⟩ := breaksOff'
      obtain ⟨rfl, rfl⟩ := Call.recordFailure.inj e
      simp only [Table.respond, works, works', overflows, overflows', if_true,
        Bool.false_eq_true, if_false, true_and]
      exact ⟨rfl, spared.found⟩
    · have counts' := mt (spared.breaksOff_iff about mem).mp breaksOff
      rw [respond_unbroken works breaksOff, respond_unbroken works' counts']
      exact ⟨congrArg some (spared.answer_snd about mem), spared.answer_fst about⟩

end Table

/-! ## One step in company -/

/-- Calls about nothing but rows of some ids. -/
def Call.AllAbout (ids : List Uuid) (calls : List Call) : Prop :=
  ∀ call ∈ calls, ∃ id ∈ ids, call.about = some id

theorem Surroundings.serve_spared {ids : List Uuid} {t t' : Table} (c : Surroundings)
    (spared : Table.Spared ids t t') {q : Request} (about : Call.AllAbout ids q.calls) :
    (c.serve t' q).2 = (c.serve t q).2 ∧
      Table.Spared ids (c.serve t q).1 (c.serve t' q).1 := by
  cases q with
  | publish m => exact ⟨rfl, spared⟩
  | store call =>
    obtain ⟨id, mem, own⟩ := about call (.head _)
    cases failing : c.failure call with
    | some e =>
      rw [serve_failed failing, serve_failed failing]
      exact ⟨rfl, spared⟩
    | none =>
      rw [serve_responds failing, serve_responds failing]
      exact spared.respond own mem

namespace Solo

variable {w : Worker} {c : Surroundings} {ids : List Uuid} {s s' : Solo}

/-- One iteration at the same point as another, whose table differs in nothing that matters to
them. -/
structure Alike (ids : List Uuid) (s s' : Solo) : Prop where
  spared : Table.Spared ids s.table s'.table
  same : s' = { s with table := s'.table }

/-- Others do something to the table. -/
theorem Alike.disturbed (alike : Alike ids s s') {t : Table} (spared : s'.table.Spared ids t) :
    Alike ids s { s' with table := t } :=
  ⟨alike.spared.trans spared, by rw [alike.same]⟩

/-- Calls that were made stay made. -/
theorem calls_subset_step (w : Worker) (c : Surroundings) (s : Solo) :
    s.calls ⊆ (step w c s).calls := by
  intro call made
  unfold step
  split
  · exact List.mem_append_left _ made
  · exact made
  · exact made

theorem calls_subset_iterate (n : Nat) (s : Solo) : s.calls ⊆ ((step w c)^[n] s).calls := by
  induction n generalizing s with
  | zero => exact List.Subset.refl _
  | succ n ih => exact List.Subset.trans (calls_subset_step w c s) (ih _)

/-- **A step in company** goes as it goes alone. -/
theorem Alike.step (alike : Alike ids s s')
    (about : Call.AllAbout ids (step w c s).calls) : Alike ids (step w c s) (step w c s') := by
  obtain ⟨t, progress, os, cs, us⟩ := s
  obtain ⟨spared, same⟩ := alike
  rw [same]
  rcases progress with _ | (phase | outcome)
  · exact ⟨spared, rfl⟩
  · have own : Call.AllAbout ids (phase.request w).calls := fun call made =>
      about call (List.mem_append_right _ made)
    obtain ⟨answer, after⟩ := c.serve_spared spared own
    refine ⟨after, ?_⟩
    simp only [Solo.step, answer]
  · exact ⟨spared, rfl⟩

/-! ## Whatever the others do -/

/-- An iteration comes to something, whatever others do to the table before each of its steps, as
long as they leave the rows of some ids alone. -/
inductive Surely (w : Worker) (c : Surroundings) (ids : List Uuid) (P : Solo → Prop) : Solo → Prop
  | now {s : Solo} (h : P s) : Surely w c ids P s
  | later {s : Solo}
    (h : ∀ t, s.table.Spared ids t → Surely w c ids P (step w c { s with table := t })) :
    Surely w c ids P s

theorem Surely.imp {P Q : Solo → Prop} (surely : Surely w c ids P s) (h : ∀ s, P s → Q s) :
    Surely w c ids Q s := by
  induction surely with
  | now p => exact .now (h _ p)
  | later _ ih => exact .later ih

/-- **What an iteration comes to alone it comes to in company**, if all its calls are about rows
that the others leave alone. -/
theorem surely_of_leads {e : Solo} (leads : Leads w c s e) (about : Call.AllAbout ids e.calls)
    (alike : Alike ids s s') : Surely w c ids (Alike ids e) s' := by
  obtain ⟨n, rfl⟩ := leads
  induction n generalizing s s' with
  | zero => exact .now alike
  | succ n ih =>
    have next : Call.AllAbout ids (step w c s).calls := fun call made =>
      about call (calls_subset_iterate n _ made)
    exact .later fun t spared => ih ((alike.disturbed spared).step next) about

end Solo

end Relay
