import Mathlib.Data.Set.Insert
import Relay.Proofs.Iteration.Specification

/-!
# Calls that fail

A call about a row of a batch that fails has no effect, and the worker counts the row as one that
the store failed on. `Worker.faults_stay_local` compares an iteration with the one in which no call
fails: a row none of whose calls fails ends in the same way in both, and a row of which a call
failed keeps what it had when it was claimed.
-/

namespace Relay

/-- The row that a call is about, if it is one that is made for a single row of a batch. -/
def Call.about : Call → Option Uuid
  | .get id | .markProcessed id _ | .markPoisoned id _ | .recordFailure id _ => some id
  | .insert _ | .hasDue _ | .selectDue _ _ | .claim _ _ _ _ | .fetchClaimed _ _ | .stats _
  | .requeue _ => none

namespace Surroundings

/-- No calls fail but some that are about rows of `F`. -/
def FailsOnly (c : Surroundings) (F : Set Uuid) : Prop :=
  ∀ call, c.failure call ≠ none → ∃ id ∈ F, call.about = some id

/-- The same, where no call fails. -/
def healed (c : Surroundings) : Surroundings := { c with failure := fun _ => none }

end Surroundings

namespace Ending

/-- A call about a row was made and failed. -/
def Struck (e : Ending) (c : Surroundings) (id : Uuid) : Prop :=
  ∃ call ∈ e.calls, call.about = some id ∧ c.failure call ≠ none

/-- A row ends in the same way in both: with the same columns, after the same calls to the broker,
and counted as the same. -/
structure Agree (e e' : Ending) (id : Uuid) : Prop where
  row : e.table.find? id = e'.table.find? id
  offers : (e.offers.filter fun o => o.row = id) = e'.offers.filter fun o => o.row = id
  outcomes : (e.outcomes.filter fun o => o.1 = id) = e'.outcomes.filter fun o => o.1 = id

/-- The iteration dispatched a batch, and its report counts every outcome. -/
def Dispatched (e : Ending) : Prop :=
  e.outcome = .dispatched
    (e.outcomes.foldl (fun report o => report.record o.2) { claimed := e.outcomes.length })

end Ending

/-! ## One row -/

namespace Surroundings

variable {c : Surroundings} {w : Worker} {row : Row} {call : Call}

theorem faultless_healed (c : Surroundings) : c.healed.Faultless := fun _ => rfl

/-- What is done about a row is done about no other. -/
theorem about_of_mem_calls (mem : call ∈ (c.fate w row).calls) : call.about = some row.id := by
  have recording : ((c.ruling w row).call row).about = some row.id := by
    cases c.ruling w row <;> rfl
  rcases c.fate_cases w row with ⟨e, -, fate⟩ | ⟨-, e, -, fate⟩ | ⟨-, -, fate⟩
  · rw [fate, List.mem_singleton] at mem
    rw [mem]
    rfl
  all_goals
    rw [fate, List.mem_pair] at mem
    rcases mem with rfl | rfl
    · rfl
    · exact recording

theorem row_of_mem_offers {o : Offer} (mem : o ∈ (c.fate w row).offers) : o.row = row.id := by
  have offered : o ∈ c.offered w row → o.row = row.id := by
    unfold Surroundings.offered
    split
    · exact fun h => by cases h
    · exact fun h => by rw [List.mem_singleton.mp h]
  rcases c.fate_cases w row with ⟨e, -, fate⟩ | ⟨-, e, -, fate⟩ | ⟨-, -, fate⟩
  · rw [fate] at mem
    cases mem
  · rw [fate] at mem
    exact offered mem
  · rw [fate] at mem
    exact offered mem

/-- A row none of whose calls fails has the same fate as if no call failed at all. -/
theorem fate_eq_healed (spared : ∀ call ∈ (c.fate w row).calls, c.failure call = none) :
    c.fate w row = c.healed.fate w row := by
  rw [c.faultless_healed.fate_eq]
  rcases c.fate_cases w row with ⟨e, failing, fate⟩ | ⟨-, e, failing, fate⟩ | ⟨-, -, fate⟩
  · rw [spared _ (by rw [fate]; exact .head _)] at failing
    cases failing
  · rw [spared _ (by rw [fate]; exact .tail _ (.head _))] at failing
    cases failing
  · exact fate

/-- **A row of which a call fails** stays as it is. -/
theorem fate_struck (mem : call ∈ (c.fate w row).calls) (failing : c.failure call ≠ none) :
    (c.fate w row).row = row ∧ (c.fate w row).outcome = .storeError := by
  rcases c.fate_cases w row with ⟨e, -, fate⟩ | ⟨-, e, -, fate⟩ | ⟨reading, recording, fate⟩
  · exact ⟨by rw [fate], by rw [fate]⟩
  · exact ⟨by rw [fate], by rw [fate]⟩
  · rw [fate, List.mem_pair] at mem
    rcases mem with rfl | rfl
    · exact absurd reading failing
    · exact absurd recording failing

end Surroundings

/-! ## All rows -/

/-- A row that is looked up among rows of which some were changed. -/
theorem Table.find?_settled {f : Row → Row} (hf : ∀ r, (f r).id = r.id) (t : Table)
    (rows : List Row) (id : Uuid) :
    (t.settled rows f).find? id = (t.find? id).map fun r => if r ∈ rows then f r else r := by
  have same : ((fun r : Row => decide (r.id = id)) ∘ fun r => if r ∈ rows then f r else r) =
      fun r => decide (r.id = id) := by
    funext r
    simp only [Function.comp_apply]
    split
    · rw [hf]
    · rfl
  simp only [Table.find?, Table.settled, List.find?_map, same]

namespace Surroundings

variable {c : Surroundings} {w : Worker} {t : Table} {id : Uuid}

/-- The calls before the batch are about no single row. -/
theorem about_of_mem_opening {call : Call} (mem : call ∈ c.opening w t) : call.about = none := by
  simp only [opening, List.mem_cons, List.not_mem_nil, or_false] at mem
  rcases mem with rfl | rfl | rfl | rfl <;> rfl

/-- No call before the batch fails if only calls about rows do. -/
theorem FailsOnly.opens {F : Set Uuid} (only : c.FailsOnly F) (going : c.Uncancelled)
    (checked_le : c.start.now ≤ c.checked.now) (selected_le : c.checked.now ≤ c.selected.now) :
    c.Opens w t := by
  refine ⟨going, checked_le, selected_le, fun call mem => ?_⟩
  by_contra failing
  obtain ⟨id, -, about⟩ := only call failing
  rw [about_of_mem_opening mem] at about
  cases about

/-- A row is struck if one of the calls that its fate makes fails. -/
theorem struck_ending : (c.ending w t).Struck c id ↔
    ∃ row ∈ c.batch w t, row.id = id ∧ ∃ call ∈ (c.fate w row).calls, c.failure call ≠ none := by
  constructor
  · rintro ⟨call, made, about, failing⟩
    rcases List.mem_append.mp made with early | made
    · rw [about_of_mem_opening early] at about
      cases about
    · obtain ⟨row, mem, made⟩ := List.mem_flatMap.mp made
      rw [about_of_mem_calls made] at about
      exact ⟨row, mem, Option.some.inj about, call, made, failing⟩
  · rintro ⟨row, mem, rfl, call, made, failing⟩
    exact ⟨call, List.mem_append_right _ (List.mem_flatMap.mpr ⟨row, mem, made⟩),
      about_of_mem_calls made, failing⟩

/-- The fate of the row of an id, and of no other, decides how the row ends. -/
theorem agree_ending
    (same : ∀ row ∈ c.batch w t, row.id = id → c.fate w row = c.healed.fate w row) :
    (c.ending w t).Agree (c.healed.ending w t) id := by
  refine ⟨?_, ?_, ?_⟩
  · show ((t.settled (c.chosen w t) (c.hold w)).settled (c.batch w t) _).find? id =
      ((t.settled (c.chosen w t) (c.hold w)).settled (c.batch w t) _).find? id
    rw [Table.find?_settled (c.id_fate w), Table.find?_settled (c.healed.id_fate w)]
    refine Option.map_congr fun r found => ?_
    split
    · rename_i mem
      rw [same r mem (Table.id_of_find? found)]
    · rfl
  · show ((c.batch w t).flatMap _).filter _ = ((c.batch w t).flatMap _).filter _
    rw [List.filter_flatMap, List.filter_flatMap]
    refine List.flatMap_congr fun row mem => ?_
    by_cases own : row.id = id
    · rw [same row mem own]
    · have none_of (c : Surroundings) : (c.fate w row).offers.filter (fun o => o.row = id) = [] :=
        List.filter_eq_nil_iff.mpr fun o offered => by simp [row_of_mem_offers offered, own]
      rw [none_of c, none_of c.healed]
  · show ((c.batch w t).map _).filter _ = ((c.batch w t).map _).filter _
    rw [List.filter_map, List.filter_map]
    refine List.map_congr_left fun row mem => ?_
    obtain ⟨mem, own⟩ := List.mem_filter.mp mem
    rw [same row mem (of_decide_eq_true own)]

/-- What is counted of a row of the batch. -/
theorem filter_outcomes (keyed : t.Keyed) {row : Row} (mem : row ∈ c.batch w t) :
    ((c.ending w t).outcomes.filter fun o => o.1 = row.id) =
      [(row.id, (c.fate w row).outcome)] := by
  have batch : ({ rows := c.batch w t } : Table).Keyed := nodup_batch keyed
  have own : ((c.batch w t).filter fun r => r.id = row.id) = [row] := by
    rw [batch.filter_id row.id, batch.find?_eq mem, Option.toList_some]
  show ((c.batch w t).map _).filter _ = _
  rw [List.filter_map]
  exact congrArg (List.map _) own

/-- What is stored of a row of the batch. -/
theorem find?_ending (keyed : t.Keyed) {r : Row} (mem : r ∈ c.chosen w t)
    (read : c.hold w r ∈ c.batch w t) :
    (c.ending w t).table.find? r.id = some (c.fate w (c.hold w r)).row := by
  show ((t.settled (c.chosen w t) (c.hold w)).settled (c.batch w t) _).find? r.id = _
  rw [Table.find?_settled (c.id_fate w), Table.find?_settled (f := c.hold w) (fun _ => rfl),
    keyed.find?_eq (mem_rows_of_chosen mem), Option.map_some, if_pos mem, Option.map_some,
    if_pos read]

theorem dispatched_ending (c : Surroundings) (w : Worker) (t : Table) :
    (c.ending w t).Dispatched := by
  simp only [Ending.Dispatched, ending, Solo.report, List.foldl_map, List.length_map]

end Surroundings

namespace Worker

variable {w : Worker} {c : Surroundings} {t : Table}

/-- **Faults stay with their rows.** When some calls about rows of `F` fail, the iteration still
dispatches its batch. A row outside `F`, or one of `F` that no failing call was made about, ends as
in the iteration where no call fails. A row that a failing call was made about is one of `F`, it is
counted as one that the store failed on and as nothing else, and it keeps all its columns but those
that the claim has set. -/
theorem faults_stay_local (suits : c.Suits w t) (size : 0 < w.tuning.batchSize)
    (going : c.Uncancelled) (checked_le : c.start.now ≤ c.checked.now)
    (selected_le : c.checked.now ≤ c.selected.now)
    (some_due : t.rows.any (·.isDue (w.due c.start.now))) {F : Set Uuid} (only : c.FailsOnly F) :
    ∃ e e₀, w.Ends c t e ∧ w.Ends c.healed t e₀ ∧ e.Dispatched ∧ e₀.Dispatched ∧
      (∀ id, (id ∈ F → ¬ e.Struck c id) → e.Agree e₀ id) ∧
      ∀ id, e.Struck c id → id ∈ F ∧
        (e.outcomes.filter fun o => o.1 = id) = [(id, .storeError)] ∧
        ∃ r, t.find? id = some r ∧ e.table.find? id = some (c.hold w r) := by
  have opens : c.Opens w t := only.opens going checked_le selected_le
  have suits₀ : c.healed.Suits w t := ⟨suits.works, suits.keyed, suits.fresh⟩
  have opens₀ : c.healed.Opens w t := c.faultless_healed.opens going checked_le selected_le
  refine ⟨c.ending w t, c.healed.ending w t, ends_dispatched suits opens size some_due,
    ends_dispatched suits₀ opens₀ size some_due, c.dispatched_ending w t,
    c.healed.dispatched_ending w t, fun id spared => ?_, fun id struck => ?_⟩
  · refine Surroundings.agree_ending fun row mem own => ?_
    refine Surroundings.fate_eq_healed fun call made => ?_
    by_contra failing
    obtain ⟨x, inF, about⟩ := only call failing
    rw [Surroundings.about_of_mem_calls made, own, Option.some.injEq] at about
    exact spared (about ▸ inF) (Surroundings.struck_ending.mpr ⟨row, mem, own, call, made, failing⟩)
  · obtain ⟨row, mem, rfl, call, made, failing⟩ := Surroundings.struck_ending.mp struck
    obtain ⟨stays, outcome⟩ := Surroundings.fate_struck made failing
    refine ⟨?_, by rw [c.filter_outcomes suits.keyed mem, outcome], ?_⟩
    · obtain ⟨x, inF, about⟩ := only call failing
      rw [Surroundings.about_of_mem_calls made, Option.some.injEq] at about
      exact about ▸ inF
    · obtain ⟨r, chosen, rfl⟩ := Surroundings.mem_batch mem
      exact ⟨r, suits.keyed.find?_eq (Surroundings.mem_rows_of_chosen chosen),
        (Surroundings.find?_ending suits.keyed chosen mem).trans (congrArg some stays)⟩

end Worker

/-! ## A store that fails once -/

namespace Office

/-- The store does not record that the known row was processed. -/
def torn : Surroundings :=
  { calm with
    failure := fun call =>
      if call = .markProcessed known.id .epoch then some (.storage "connection reset") else none }

/-- The courier offers the known row, and hears then that this is not recorded. -/
theorem struck_torn : (torn.ending courier desk).Struck torn known.id := by
  have chosen : known ∈ torn.chosen courier desk := by
    rw [show torn.chosen courier desk = [known, unknown] from chosen_desk]
    exact .head _
  have batch : torn.batch courier desk = (torn.chosen courier desk).map (torn.hold courier) :=
    if_pos (by decide +kernel)
  have mem : torn.hold courier known ∈ torn.batch courier desk :=
    batch ▸ List.mem_map_of_mem chosen
  have ruling : torn.ruling courier (torn.hold courier known) = .processed .epoch := by
    simp only [Surroundings.ruling, Worker.verdict, Surroundings.refusal_hold, refusal_known]
    rfl
  have calls : (torn.fate courier (torn.hold courier known)).calls =
      [.get known.id, .markProcessed known.id .epoch] := by
    simp only [Surroundings.fate, ruling]
    rfl
  exact Surroundings.struck_ending.mpr ⟨_, mem, rfl, .markProcessed known.id .epoch,
    calls ▸ .tail _ (.head _), by decide⟩

theorem faults_courier :
    ∃ e e₀, courier.Ends torn desk e ∧ courier.Ends calm desk e₀ ∧ e.Dispatched ∧
      e.Agree e₀ unknown.id ∧
      (e.outcomes.filter fun o => o.1 = known.id) = [(known.id, .storeError)] ∧
      e.table.find? known.id = some (held known) := by
  have suits : torn.Suits courier desk := ⟨suits_desk.works, suits_desk.keyed, suits_desk.fresh⟩
  have going : torn.Uncancelled := fun p => by cases p <;> rfl
  have only : torn.FailsOnly {known.id} := by
    intro call failing
    obtain rfl : call = .markProcessed known.id .epoch := by
      by_contra other
      exact failing (if_neg other)
    exact ⟨known.id, rfl, rfl⟩
  have size : 0 < courier.tuning.batchSize := by decide +kernel
  have some_due : desk.rows.any (·.isDue (courier.due torn.start.now)) := by decide +kernel
  obtain ⟨e, e₀, ends, ends₀, dispatched, -, spared, struck⟩ :=
    Worker.faults_stay_local suits size going (by decide) (by decide) some_due only
  obtain rfl := ends.unique (Worker.ends_dispatched suits
    (only.opens going (by decide) (by decide)) size some_due)
  obtain ⟨-, counted, r, found, stored⟩ := struck _ struck_torn
  obtain rfl : known = r := Option.some.inj found
  have other : unknown.id ∉ ({known.id} : Set Uuid) := by
    rw [Set.mem_singleton_iff]
    decide
  exact ⟨_, e₀, ends, ends₀, dispatched, spared _ fun same => absurd same other, counted, stored⟩

end Office

end Relay
