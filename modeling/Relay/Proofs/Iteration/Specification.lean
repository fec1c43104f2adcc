import Relay.Proofs.Iteration.Batch

/-!
# What one iteration does

`Worker.iteration_spec` is the whole of an iteration that nobody interferes with and in which no
call to the store fails: it finds nothing, or the oldest due rows are claimed, offered in their
order as far as the registry accepts them, and each of them replaced by what the worker's verdict
about it makes of it.
-/

namespace Relay

namespace Surroundings

/-- The verdict about a row that the iteration selects: a function of the row under the claim, of
the worker's registry and tuning, of the reading after the row's message was offered, and of the
broker's reply to that message. -/
def verdict (c : Surroundings) (w : Worker) (r : Row) : Ruling :=
  w.verdict (c.hold w r) (c.published r.id) (c.reply (c.message w r))

variable {c : Surroundings} {w : Worker} {t : Table}

/-- A claim makes no difference to what the registry says. -/
@[simp] theorem refusal_hold (c : Surroundings) (w : Worker) (r : Row) :
    w.refusal (c.hold w r) = w.refusal r := rfl

theorem Faultless.opens (faultless : c.Faultless) (going : c.Uncancelled)
    (checked_le : c.start.now ≤ c.checked.now) (selected_le : c.checked.now ≤ c.selected.now) :
    c.Opens w t :=
  ⟨going, checked_le, selected_le, fun call _ => faultless call⟩

/-- Where no call fails, the fate of a row is what is recorded of it. -/
theorem Faultless.fate_eq (faultless : c.Faultless) (w : Worker) (row : Row) :
    c.fate w row = ⟨(c.ruling w row).result row, (c.ruling w row).outcome row, c.offered w row,
      [.get row.id, (c.ruling w row).call row]⟩ := by
  simp [fate, faultless _]

end Surroundings

namespace Table

variable {t : Table} {rows : List Row} {f g : Row → Row}

/-- Rows that are changed twice. -/
theorem settled_settled (marks : ∀ r ∈ t.rows, r ∉ rows → r ∉ rows.map f) :
    (t.settled rows f).settled (rows.map f) g = t.settled rows (g ∘ f) := by
  simp only [settled, List.map_map]
  congr 1
  refine List.map_congr_left fun r there => ?_
  simp only [Function.comp_apply]
  by_cases mem : r ∈ rows
  · rw [if_pos mem, if_pos mem, if_pos (List.mem_map_of_mem mem)]
  · rw [if_neg mem, if_neg mem, if_neg (marks r there mem)]

end Table

namespace Worker

variable {w : Worker} {c : Surroundings} {t : Table}

/-- The rows of a batch that is read in time, each replaced by something. -/
theorem settled_batch (suits : c.Suits w t) (leased : c.claimed.now ≤ c.expiry w) (f : Row → Row) :
    (t.settled (c.chosen w t) (c.hold w)).settled (c.batch w t) f =
      t.settled (c.chosen w t) (f ∘ c.hold w) := by
  rw [Surroundings.batch, if_pos leased]
  refine Table.settled_settled fun r there _ held => ?_
  obtain ⟨x, -, rfl⟩ := List.mem_map.mp held
  exact suits.fresh _ there rfl

/-- What is offered of a batch are the messages of the rows that the registry accepts. -/
theorem flatMap_offered (c : Surroundings) (w : Worker) (rows : List Row) :
    rows.flatMap (c.offered w) = (rows.filter fun r => (w.refusal r).isNone).map fun r =>
      ⟨r.id, c.message w r, c.reply (c.message w r)⟩ := by
  induction rows with
  | nil => rfl
  | cons row rows ih =>
    rw [List.flatMap_cons, ih]
    cases refused : w.refusal row <;> simp [Surroundings.offered, refused]

/-- **How an iteration ends in which no call fails**, if it selects some rows and the claim on them
has not run out when they are read. -/
theorem ending_eq (suits : c.Suits w t) (faultless : c.Faultless)
    (leased : c.claimed.now ≤ c.expiry w) :
    c.ending w t =
      ⟨t.settled (c.chosen w t) fun r => (c.verdict w r).result (c.hold w r),
        .dispatched ((c.chosen w t).foldl (fun report r =>
          report.record ((c.verdict w r).outcome (c.hold w r)))
          { claimed := (c.chosen w t).length }),
        ((c.chosen w t).filter fun r => (w.refusal r).isNone).map fun r =>
          ⟨r.id, c.message w r, c.reply (c.message w r)⟩,
        c.opening w t ++ (c.chosen w t).flatMap fun r => [.get r.id, (c.verdict w r).call r],
        (c.chosen w t).map fun r => (r.id, (c.verdict w r).outcome (c.hold w r))⟩ := by
  have batch : c.batch w t = (c.chosen w t).map (c.hold w) := if_pos leased
  have fates : ∀ r, c.fate w (c.hold w r) = ⟨(c.verdict w r).result (c.hold w r),
      (c.verdict w r).outcome (c.hold w r), c.offered w r,
      [.get r.id, (c.verdict w r).call r]⟩ := fun r => faultless.fate_eq w _
  have id_hold : ∀ r, (c.hold w r).id = r.id := fun _ => rfl
  rw [Surroundings.ending, settled_batch suits leased, batch]
  simp only [id_hold, Solo.report, Function.comp_def, fates, List.length_map, List.foldl_map,
    List.flatMap_map, List.map_map, flatMap_offered]

/-- **One iteration.** If no row is due when the worker looks, it finds nothing and changes nothing.
Otherwise it claims the first `batchSize` of the rows that are due at the selection, or all of them
if there are fewer; it offers those of them that the registry accepts to the broker, in their order
and nothing else; and each of them, and no other row, is replaced by what the verdict about it makes
of it under the claim. -/
theorem iteration_spec (suits : c.Suits w t) (size : 0 < w.tuning.batchSize)
    (going : c.Uncancelled) (faultless : c.Faultless) (checked_le : c.start.now ≤ c.checked.now)
    (selected_le : c.checked.now ≤ c.selected.now) (leased : c.claimed.now ≤ c.expiry w) :
    (t.rows.any (·.isDue (w.due c.start.now)) = false →
      w.Ends c t ⟨t, .idle, [], [.hasDue (w.due c.start.now)], []⟩) ∧
    (t.rows.any (·.isDue (w.due c.start.now)) = true →
      (t.dueFirst (w.due c.checked.now)).Perm (t.rows.filter (·.isDue (w.due c.checked.now))) ∧
      ((t.dueFirst (w.due c.checked.now)).Pairwise fun a b => a.precedes b) ∧
      c.chosen w t = (t.dueFirst (w.due c.checked.now)).take w.tuning.batchSize ∧
      c.chosen w t ≠ [] ∧
      w.Ends c t
        ⟨t.settled (c.chosen w t) fun r => (c.verdict w r).result (c.hold w r),
          .dispatched ((c.chosen w t).foldl (fun report r =>
            report.record ((c.verdict w r).outcome (c.hold w r)))
            { claimed := (c.chosen w t).length }),
          ((c.chosen w t).filter fun r => (w.refusal r).isNone).map fun r =>
            ⟨r.id, c.message w r, c.reply (c.message w r)⟩,
          c.opening w t ++ (c.chosen w t).flatMap fun r => [.get r.id, (c.verdict w r).call r],
          (c.chosen w t).map fun r => (r.id, (c.verdict w r).outcome (c.hold w r))⟩) := by
  have opens : c.Opens w t := faultless.opens going checked_le selected_le
  refine ⟨ends_idle suits.works opens, fun some_due => ?_⟩
  obtain ⟨perm, sorted⟩ := suits.keyed.dueFirst_spec (w.due c.checked.now)
  refine ⟨perm, sorted, rfl, chosen_ne_nil opens size some_due, ?_⟩
  rw [← ending_eq suits faultless leased]
  exact ends_dispatched suits opens size some_due

end Worker

/-! ## An iteration for an example -/

namespace Office

/-- Nothing goes wrong, and the clock stands still. -/
def calm : Surroundings where
  start := reading
  checked := reading
  selected := reading
  claimed := reading
  fetched := reading
  reread _ := reading
  published _ := reading
  recorded _ := reading
  reply _ := .ok ()

/-- Two rows, of which the courier knows the type of one. -/
def desk : Table := { rows := [known, unknown] }

theorem going_calm : calm.Uncancelled := fun p => by cases p <;> rfl

theorem suits_desk : calm.Suits courier desk := ⟨rfl, by unfold Table.Keyed; decide, by decide⟩

theorem chosen_desk : calm.chosen courier desk = [known, unknown] := by
  have sorted : Table.oldestFirst [known, unknown] = [known, unknown] :=
    oldestFirst_pair (by decide)
  show (Table.oldestFirst [known, unknown]).take 50 = _
  rw [sorted]
  rfl

theorem refusal_known : courier.refusal known = none :=
  Worker.refusal_eq_none_iff.mpr accepts_known

theorem refusal_unknown :
    courier.refusal unknown = some (.unknownType, "unknown event type Unheard.v1") := by
  decide +kernel

theorem iteration_courier :
    courier.Ends calm desk
      ⟨{ rows := [relayed, rejected] }, .dispatched { claimed := 2, processed := 1, poisoned := 1 },
        [offer],
        calm.opening courier desk ++ [.get known.id, .markProcessed known.id .epoch,
          .get unknown.id, .markPoisoned unknown.id "unknown event type Unheard.v1"],
        [(known.id, .processed), (unknown.id, .poisoned .unknownType)]⟩ := by
  obtain ⟨-, -, -, -, ends⟩ := (Worker.iteration_spec suits_desk (by decide +kernel) going_calm
    (fun _ => rfl) (by decide) (by decide) (by decide +kernel)).2 (by decide +kernel)
  have verdict_known : calm.verdict courier known = .processed .epoch := by
    simp only [Surroundings.verdict, Worker.verdict, Surroundings.refusal_hold, refusal_known]
    rfl
  have verdict_unknown : calm.verdict courier unknown =
      .poisoned .unknownType "unknown event type Unheard.v1" := by
    simp only [Surroundings.verdict, Worker.verdict, Surroundings.refusal_hold, refusal_unknown]
  have table : (desk.settled [known, unknown] fun r =>
      (calm.verdict courier r).result (calm.hold courier r)) = { rows := [relayed, rejected] } := by
    simp only [Table.settled, desk, List.map_cons, List.map_nil, List.mem_cons, true_or, or_true,
      if_true, verdict_known, verdict_unknown]
    rfl
  rw [chosen_desk, table] at ends
  simp only [List.foldl_cons, List.foldl_nil, List.map_cons, List.map_nil, List.flatMap_cons,
    List.flatMap_nil, List.filter_cons, List.filter_nil, refusal_known, refusal_unknown,
    verdict_known, verdict_unknown] at ends
  exact ends

end Office

end Relay
