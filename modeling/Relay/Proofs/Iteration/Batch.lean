import Relay.Proofs.Iteration.Row
import Relay.Proofs.Table.Due
import Relay.Proofs.Table.Lease

/-!
# A batch from its claim to its report

`Surroundings.chosen` are the rows that an iteration selects, the oldest of those that are due, and
`Surroundings.hold` is such a row once it is claimed. Until the batch is read the iteration goes one
way (`Solo.leads_checked` to `Solo.leads_fetched`): what was due stays due while the clock does not
go back, so that the claim takes all that was selected, and what is read back is the selection in
its order, unless the claim has run out by then. Then the iteration goes through the batch, one row
after the other (`Solo.leads_batch`). `Worker.ends_dispatched` puts the two together.
-/

namespace Relay

/-! ## Changing some rows of a table -/

namespace Table

variable {t : Table} {rows : List Row} {f g : Row → Row}

/-- Changes some rows. -/
def settled (t : Table) (rows : List Row) (f : Row → Row) : Table :=
  { t with rows := t.rows.map fun r => if r ∈ rows then f r else r }

@[simp] theorem settled_nil (t : Table) (f : Row → Row) : t.settled [] f = t := by
  simp [settled]

theorem settled_congr (h : ∀ r ∈ rows, f r = g r) : t.settled rows f = t.settled rows g := by
  simp only [settled]
  congr 1
  refine List.map_congr_left fun r _ => ?_
  split
  · rename_i mem
    exact h r mem
  · rfl

theorem ids_settled (hf : ∀ r, (f r).id = r.id) (t : Table) (rows : List Row) :
    (t.settled rows f).rows.map Row.id = t.rows.map Row.id := by
  simp only [settled, List.map_map]
  refine List.map_congr_left fun r _ => ?_
  simp only [Function.comp_apply]
  split
  · exact hf r
  · rfl

theorem Keyed.settled (keyed : t.Keyed) (hf : ∀ r, (f r).id = r.id) (rows : List Row) :
    (t.settled rows f).Keyed := by
  rw [Keyed, ids_settled hf]
  exact keyed

theorem mem_settled (there : ∀ r ∈ rows, r ∈ t.rows) {r : Row} (mem : r ∈ rows) :
    f r ∈ (t.settled rows f).rows :=
  List.mem_map.mpr ⟨r, there r mem, if_pos mem⟩

/-- One row after the other is changed. -/
theorem Keyed.settled_cons (keyed : t.Keyed) (hf : ∀ r, (f r).id = r.id) {row : Row}
    (there : row ∈ t.rows) (distinct : ((row :: rows).map Row.id).Nodup) :
    t.settled (row :: rows) f = (t.replace (f row)).settled rows f := by
  obtain ⟨new, -⟩ := List.nodup_cons.mp distinct
  simp only [Table.settled, Table.replace, Table.modify, List.map_map]
  congr 1
  refine List.map_congr_left fun r mem => ?_
  simp only [Function.comp_apply, hf, List.mem_cons]
  by_cases e : r.id = row.id
  · obtain rfl := List.inj_on_of_nodup_map keyed mem there e
    have gone : f r ∉ rows := fun h => new (hf r ▸ List.mem_map_of_mem h)
    simp [gone]
  · have ne : r ≠ row := fun h => e (congrArg Row.id h)
    simp [e, ne]

end Table

/-! ## Going through a batch -/

namespace Solo

variable {w : Worker} {c : Surroundings} {t : Table} {os : List Offer} {cs : List Call}
  {us : List (Uuid × RowOutcome)}

/-- A row of a batch: there, alive, under the claim, and with attempts that can be counted. -/
structure InHand (claim : Claim) (t : Table) (row : Row) : Prop where
  there : row ∈ t.rows
  alive : row.isTerminal = false
  own : row.claimedBy = some claim
  low : row.attempts.toNat + 1 < 1 <<< 32

/-- A row that was claimed when it was due. -/
theorem InHand.of_isDue {claim : Claim} {r : Row} {due : Due} {expiry : Instant}
    (isDue : r.isDue due) (there : r.heldBy claim expiry ∈ t.rows) :
    InHand claim t (r.heldBy claim expiry) := by
  simp only [Row.isDue, Bool.and_eq_true, Bool.not_eq_true', decide_eq_true_eq] at isDue
  have low : r.attempts.toNat < due.maxAttempts.toNat := UInt32.lt_iff_toNat_lt.mp isDue.2
  have most := due.maxAttempts.toNat_lt
  exact ⟨there, isDue.1.1.1, rfl, show r.attempts.toNat + 1 < _ by omega⟩

/-- The rows of a batch that the worker comes to before it is told to stop. -/
def reached (w : Worker) (c : Surroundings) : Bool → List Row → List Row
  | _, [] => []
  | stop, row :: rows => if stop then [] else row :: reached w c (c.last w row).cancelled rows

/-- The report of a batch, most of which the worker came to. -/
def reportOf (w : Worker) (c : Surroundings) (stop : Bool) (rows : List Row) (before : Report) :
    Report :=
  let counted := (reached w c stop rows).foldl
    (fun report row => report.record (c.lot w row).outcome) before
  { counted with
    abandoned := counted.abandoned + (rows.length - (reached w c stop rows).length) }

theorem reached_stop (w : Worker) (c : Surroundings) (rows : List Row) :
    reached w c true rows = [] := by
  cases rows <;> rfl

theorem reached_cons (w : Worker) (c : Surroundings) (row : Row) (rows : List Row) :
    reached w c false (row :: rows) = row :: reached w c (c.last w row).cancelled rows := rfl

theorem reportOf_cons (w : Worker) (c : Surroundings) (row : Row) (rows : List Row)
    (before : Report) :
    reportOf w c false (row :: rows) before =
      reportOf w c (c.last w row).cancelled rows (before.record (c.lot w row).outcome) := by
  simp only [reportOf, reached_cons, List.foldl_cons, List.length_cons, Nat.add_sub_add_right]

/-- While nobody tells the worker to stop, it comes to every row. -/
theorem reached_uncancelled (going : c.Uncancelled) (rows : List Row) :
    reached w c false rows = rows := by
  induction rows with
  | nil => rfl
  | cons row rows ih => rw [reached_cons, going.last, ih]

theorem reached_isInitial (w : Worker) (c : Surroundings) (stop : Bool) (rows : List Row) :
    reached w c stop rows <+: rows := by
  induction rows generalizing stop with
  | nil => exact List.prefix_rfl
  | cons row rows ih =>
    cases stop with
    | true => exact List.nil_prefix
    | false => exact List.prefix_cons_inj row |>.mpr (ih _)

/-- **A batch.** The worker goes through it until it is told to stop; every row that it comes to is
replaced by what becomes of it, in turn, and the rest is abandoned. -/
theorem leads_onward (claim : Claim) (stop : Bool) (rows : List Row) (before : Report)
    (keyed : t.Keyed) (works : t.broken = false) (inHand : ∀ row ∈ rows, InHand claim t row)
    (distinct : (rows.map Row.id).Nodup) :
    Leads w c ⟨t, some (Batch.onward ⟨claim, before, rows.map Row.id⟩ stop), os, cs, us⟩
      ⟨t.settled (reached w c stop rows) fun row => (c.lot w row).row,
        some (.finished (.dispatched (reportOf w c stop rows before))),
        os ++ (reached w c stop rows).flatMap fun row => (c.lot w row).offers,
        cs ++ (reached w c stop rows).flatMap fun row => (c.lot w row).calls,
        us ++ (reached w c stop rows).map fun row => (row.id, (c.lot w row).outcome)⟩ := by
  induction rows generalizing t stop before os cs us with
  | nil =>
    have ended : Batch.onward ⟨claim, before, []⟩ stop = .finished (.dispatched before) := rfl
    simpa [reached, reportOf, ended] using Leads.refl _
  | cons row rows ih =>
    cases stop with
    | true =>
      have ended : Batch.onward ⟨claim, before, (row :: rows).map Row.id⟩ true =
          .finished (.dispatched
            { before with abandoned := before.abandoned + ((rows.map Row.id).length + 1) }) := rfl
      rw [reached_stop, ended]
      simpa [reportOf, reached_stop] using Leads.refl _
    | false =>
      obtain ⟨there, alive, own, low⟩ := inHand row (.head _)
      obtain ⟨new, distinct'⟩ := List.nodup_cons.mp distinct
      -- replacing the first row leaves the others where they are
      have others : ∀ x ∈ rows, InHand claim (t.replace (c.lot w row).row) x := by
        intro x mem
        obtain ⟨there', alive', own', low'⟩ := inHand x (.tail _ mem)
        have ne : x.id ≠ (c.lot w row).row.id := by
          rw [Surroundings.id_lot]
          exact fun e => new (e ▸ List.mem_map_of_mem mem)
        exact ⟨Table.mem_replace_of_ne there' ne, alive', own', low'⟩
      have distinct'' : ((reached w c false (row :: rows)).map Row.id).Nodup :=
        distinct.sublist ((reached_isInitial w c false (row :: rows)).sublist.map _)
      show Leads w c
        ⟨t, some (.waiting (.reading ⟨claim, before, rows.map Row.id⟩ row.id)), os, cs, us⟩ _
      refine (leads_row keyed works there alive own low).trans ?_
      rw [reached_cons] at distinct'' ⊢
      rw [keyed.settled_cons (fun r => c.id_lot w r) there distinct'', List.flatMap_cons,
        List.flatMap_cons, List.map_cons, ← List.append_assoc, ← List.append_assoc,
        List.append_cons us _ (List.map _ _), reportOf_cons]
      exact ih _ _ (keyed.replaced _) works others distinct'

/-- The report of a batch. -/
def report (w : Worker) (c : Surroundings) (rows : List Row) (report : Report) : Report :=
  rows.foldl (fun report row => report.record (c.fate w row).outcome) report

/-- **A batch while nobody tells the worker to stop.** Every row of it is replaced by its fate, in
turn. -/
theorem leads_batch (going : c.Uncancelled) (claim : Claim) (rows : List Row) (before : Report)
    (keyed : t.Keyed) (works : t.broken = false) (inHand : ∀ row ∈ rows, InHand claim t row)
    (distinct : (rows.map Row.id).Nodup) :
    Leads w c ⟨t, some (Batch.next ⟨claim, before, rows.map Row.id⟩), os, cs, us⟩
      ⟨t.settled rows fun row => (c.fate w row).row,
        some (.finished (.dispatched (report w c rows before))),
        os ++ rows.flatMap fun row => (c.fate w row).offers,
        cs ++ rows.flatMap fun row => (c.fate w row).calls,
        us ++ rows.map fun row => (row.id, (c.fate w row).outcome)⟩ := by
  have lots : ∀ row, c.lot w row = c.fate w row := fun row =>
    c.lot_of_not_interrupts w row (going.interrupts w row)
  have counted : reportOf w c false rows before = report w c rows before := by
    simp only [reportOf, reached_uncancelled going, lots, Nat.sub_self, Nat.add_zero, report]
  have led : Leads w c
      ⟨t, some (Batch.onward ⟨claim, before, rows.map Row.id⟩ false), os, cs, us⟩ _ :=
    leads_onward claim false rows before keyed works inHand distinct
  simpa only [reached_uncancelled going, counted, lots, Batch.onward_false] using led

end Solo

/-! ## The rows of an iteration -/

namespace Surroundings

variable (c : Surroundings) (w : Worker) (t : Table)

/-- The claim that the iteration makes. -/
def claim : Claim := Claim.ofInstance w.tuning.instanceName c.selected.claimId

/-- When the claim runs out. -/
def expiry : Instant := c.selected.now.after w.tuning.claimDuration

/-- The rows that are selected. -/
def chosen : List Row := (t.dueFirst (w.due c.checked.now)).take w.tuning.batchSize

/-- A row under the claim of the iteration. -/
def hold (r : Row) : Row := r.heldBy (c.claim w) (c.expiry w)

/-- The batch as it is read; nothing is read if the claim has run out. -/
def batch : List Row := if c.claimed.now ≤ c.expiry w then (c.chosen w t).map (c.hold w) else []

/-- The calls before the batch. -/
def opening : List Call :=
  [.hasDue (w.due c.start.now), .selectDue (w.due c.checked.now) w.tuning.batchSize,
    .claim ((c.chosen w t).map Row.id) (w.due c.selected.now) (c.claim w) (c.expiry w),
    .fetchClaimed (c.claim w) c.claimed.now]

/-- A table where the iteration can begin: it works, holds no two rows of one id, and has no row
under the claim that the iteration will make. -/
structure Suits : Prop where
  works : t.broken = false
  keyed : t.Keyed
  fresh : ∀ r ∈ t.rows, r.claimedBy ≠ some (c.claim w)

/-- Nobody tells the worker to stop, the clock does not go back, and what opens the iteration does
not fail. -/
structure Opens : Prop where
  going : c.Uncancelled
  checked_le : c.start.now ≤ c.checked.now
  selected_le : c.checked.now ≤ c.selected.now
  answered : ∀ call ∈ c.opening w t, c.failure call = none

variable {c w t}

theorem mem_rows_of_chosen {r : Row} (mem : r ∈ c.chosen w t) : r ∈ t.rows :=
  (Table.mem_dueFirst.mp (List.mem_of_mem_take mem)).1

theorem nodup_chosen (keyed : t.Keyed) : ((c.chosen w t).map Row.id).Nodup :=
  keyed.nodup_dueFirst.sublist ((List.take_sublist _ _).map _)

theorem mem_batch {row : Row} (mem : row ∈ c.batch w t) : ∃ r ∈ c.chosen w t, c.hold w r = row := by
  unfold batch at mem
  split at mem
  · exact List.mem_map.mp mem
  · cases mem

theorem nodup_batch (keyed : t.Keyed) : ((c.batch w t).map Row.id).Nodup := by
  unfold batch
  split
  · rw [List.map_map]
    exact nodup_chosen keyed
  · exact List.nodup_nil

/-- What is selected is still due when it is claimed. -/
theorem isDue_of_chosen (opens : c.Opens w t) {r : Row} (mem : r ∈ c.chosen w t) :
    r.isDue (w.due c.selected.now) :=
  Row.isDue_of_le (Table.mem_dueFirst.mp (List.mem_of_mem_take mem)).2 opens.selected_le

/-- The ids of the selection name the selected rows. -/
theorem id_mem_chosen_iff (keyed : t.Keyed) {r : Row} (there : r ∈ t.rows) :
    r.id ∈ (c.chosen w t).map Row.id ↔ r ∈ c.chosen w t := by
  refine ⟨fun mem => ?_, fun mem => List.mem_map_of_mem mem⟩
  obtain ⟨x, chosen, e⟩ := List.mem_map.mp mem
  rwa [List.inj_on_of_nodup_map keyed (mem_rows_of_chosen chosen) there e] at chosen

/-! ## Claiming and reading the batch -/

/-- The selected rows, as they stand in the table. -/
theorem filter_chosen_perm (keyed : t.Keyed) :
    (t.rows.filter (· ∈ c.chosen w t)).Perm (c.chosen w t) := by
  refine (List.perm_ext_iff_of_nodup ((List.Nodup.of_map Row.id keyed).filter _)
    (List.Nodup.of_map Row.id (nodup_chosen keyed))).mpr fun r => ?_
  rw [List.mem_filter, decide_eq_true_eq]
  exact ⟨And.right, fun mem => ⟨mem_rows_of_chosen mem, mem⟩⟩

/-- **The claim takes what was selected.** -/
theorem answer_claim (suits : c.Suits w t) (opens : c.Opens w t) :
    t.answer (.claim ((c.chosen w t).map Row.id) (w.due c.selected.now) (c.claim w) (c.expiry w)) =
      (t.settled (c.chosen w t) (c.hold w), .ok (c.chosen w t).length) := by
  have taken : ∀ r ∈ t.rows,
      (r.id ∈ (c.chosen w t).map Row.id ∧ r.isDue (w.due c.selected.now)) ↔ r ∈ c.chosen w t :=
    fun r there => ⟨fun h => (id_mem_chosen_iff suits.keyed there).mp h.1,
      fun mem => ⟨List.mem_map_of_mem mem, isDue_of_chosen opens mem⟩⟩
  refine Prod.ext ?_ ?_
  · rw [suits.keyed.answer_eq fun _ => Call.noConfusion]
    show { t with rows := _ } = { t with rows := _ }
    congr 1
    refine List.map_congr_left fun r there => ?_
    simp only [Call.effect, taken r there]
    rfl
  · rw [suits.keyed.answer_claim (nodup_chosen suits.keyed)]
    have count : (t.rows.countP fun r =>
        r.id ∈ (c.chosen w t).map Row.id && r.isDue (w.due c.selected.now)) =
        t.rows.countP (· ∈ c.chosen w t) :=
      List.countP_congr fun r there => by simpa using taken r there
    rw [count, List.countP_eq_length_filter, (filter_chosen_perm suits.keyed).length_eq]

theorem sorted_chosen : (c.chosen w t).Pairwise fun a b => (!b.precedes a) = true :=
  (Table.sorted_oldestFirst _).sublist (List.take_sublist _ _)

/-- **What is read back is the selection**, in its order, unless the claim has run out. -/
theorem answer_fetchClaimed (suits : c.Suits w t) :
    (t.settled (c.chosen w t) (c.hold w)).answer (.fetchClaimed (c.claim w) c.claimed.now) =
      (t.settled (c.chosen w t) (c.hold w), .ok (c.batch w t)) := by
  have own : ∀ r ∈ t.rows, (if r ∈ c.chosen w t then c.hold w r else r).isClaimedBy (c.claim w)
      c.claimed.now = decide (r ∈ c.chosen w t ∧ c.claimed.now ≤ c.expiry w) := by
    intro r there
    split
    · rename_i mem
      simp [Row.isClaimedBy, Row.isLeased, hold, Row.heldBy, mem]
    · rename_i out
      simp [Row.isClaimedBy, suits.fresh r there, out]
  have found : (t.settled (c.chosen w t) (c.hold w)).rows.filter
      (·.isClaimedBy (c.claim w) c.claimed.now) =
      (t.rows.filter fun r => decide (r ∈ c.chosen w t ∧ c.claimed.now ≤ c.expiry w)).map
        fun r => if r ∈ c.chosen w t then c.hold w r else r := by
    rw [Table.settled, List.filter_map]
    exact congrArg _ (List.filter_congr own)
  refine Prod.ext rfl ?_
  show Except.ok (Table.oldestFirst _) = _
  rw [found, batch]
  split
  · rename_i leased
    have held : ((t.rows.filter fun r => decide (r ∈ c.chosen w t ∧ c.claimed.now ≤ c.expiry w)).map
        fun r => if r ∈ c.chosen w t then c.hold w r else r) =
        (t.rows.filter (· ∈ c.chosen w t)).map (c.hold w) := by
      rw [List.filter_congr (q := (· ∈ c.chosen w t)) fun r _ => by simp [leased]]
      exact List.map_congr_left fun r mem => if_pos (by simpa using (List.mem_filter.mp mem).2)
    have keyed := suits.keyed.settled (f := c.hold w) (fun _ => rfl) (c.chosen w t)
    have there : ∀ r ∈ (t.rows.filter (· ∈ c.chosen w t)).map (c.hold w),
        r ∈ (t.settled (c.chosen w t) (c.hold w)).rows := by
      intro r held
      obtain ⟨x, mem, rfl⟩ := List.mem_map.mp held
      exact Table.mem_settled (fun _ => mem_rows_of_chosen)
        (by simpa using (List.mem_filter.mp mem).2)
    rw [held, keyed.oldestFirst_eq ((filter_chosen_perm suits.keyed).map (c.hold w)) there]
    exact congrArg _ (List.mergeSort_of_pairwise (List.pairwise_map.mpr sorted_chosen))
  · rename_i expired
    simp [expired, Table.oldestFirst]

end Surroundings

/-! ## From the beginning to the batch -/

namespace Solo

variable {w : Worker} {c : Surroundings} {t : Table}

/-- The iteration looks whether any row is due. -/
theorem leads_checked (works : t.broken = false) (opens : c.Opens w t) :
    Leads w c (begin w c t)
      ⟨t, some (if t.rows.any (·.isDue (w.due c.start.now)) then
          .waiting (.selecting (w.due c.checked.now)) else .finished .idle),
        [], [.hasDue (w.due c.start.now)], []⟩ := by
  have served := Surroundings.serve_responds (opens.answered (.hasDue (w.due c.start.now))
    (.head _)) t
  rw [Table.respond_eq_answer works fun _ _ => Call.noConfusion] at served
  refine leads_answered (p := .checking (w.due c.start.now)) served ?_ rfl rfl rfl
  simp only [Worker.resume, Table.answer]
  split
  · rename_i found
    rw [found]
    rfl
  · rename_i none_due
    rw [Bool.not_eq_true] at none_due
    rw [none_due]
    rfl

/-- It selects the oldest, which is one at least. -/
theorem leads_selected (suits : c.Suits w t) (opens : c.Opens w t) (some_due : c.chosen w t ≠ [])
    {cs : List Call} :
    Leads w c ⟨t, some (.waiting (.selecting (w.due c.checked.now))), [], cs, []⟩
      ⟨t, some (.waiting (.claiming ((c.chosen w t).map Row.id) (w.due c.selected.now) (c.claim w)
          (c.expiry w))), [], cs ++ [.selectDue (w.due c.checked.now) w.tuning.batchSize], []⟩ := by
  have served := Surroundings.serve_responds
    (opens.answered (.selectDue (w.due c.checked.now) w.tuning.batchSize) (.tail _ (.head _))) t
  rw [Table.respond_eq_answer suits.works fun _ _ => Call.noConfusion] at served
  refine leads_answered (p := .selecting (w.due c.checked.now)) served ?_ rfl rfl rfl
  show (w.selected c.selected (.ok ((c.chosen w t).map Row.id))).progress = _
  cases h : c.chosen w t with
  | nil => exact absurd h some_due
  | cons r rows => rfl

/-- It claims them. -/
theorem leads_claimed (suits : c.Suits w t) (opens : c.Opens w t) (some_due : c.chosen w t ≠ [])
    {cs : List Call} :
    Leads w c ⟨t, some (.waiting (.claiming ((c.chosen w t).map Row.id) (w.due c.selected.now)
        (c.claim w) (c.expiry w))), [], cs, []⟩
      ⟨t.settled (c.chosen w t) (c.hold w),
        some (.waiting (.fetching (c.claim w) (c.chosen w t).length c.claimed.now)), [],
        cs ++ [.claim ((c.chosen w t).map Row.id) (w.due c.selected.now) (c.claim w)
          (c.expiry w)], []⟩ := by
  have served := Surroundings.serve_responds
    (opens.answered (.claim ((c.chosen w t).map Row.id) (w.due c.selected.now) (c.claim w)
      (c.expiry w)) (.tail _ (.tail _ (.head _)))) t
  rw [Table.respond_eq_answer suits.works fun _ _ => Call.noConfusion,
    c.answer_claim suits opens] at served
  refine leads_answered (p := .claiming _ _ (c.claim w) (c.expiry w)) served ?_ rfl rfl rfl
  show (w.claimed _ _ c.claimed (.ok (c.chosen w t).length)).progress = _
  cases h : c.chosen w t with
  | nil => exact absurd h some_due
  | cons r rows => rfl

/-- It reads the batch. -/
theorem leads_fetched (suits : c.Suits w t) (opens : c.Opens w t) {cs : List Call} {n : Nat} :
    Leads w c ⟨t.settled (c.chosen w t) (c.hold w),
        some (.waiting (.fetching (c.claim w) n c.claimed.now)), [], cs, []⟩
      ⟨t.settled (c.chosen w t) (c.hold w),
        some (Batch.next ⟨c.claim w, { claimed := (c.batch w t).length },
          (c.batch w t).map Row.id⟩),
        [], cs ++ [.fetchClaimed (c.claim w) c.claimed.now], []⟩ := by
  have served := Surroundings.serve_responds
    (opens.answered (.fetchClaimed (c.claim w) c.claimed.now)
      (.tail _ (.tail _ (.tail _ (.head _))))) (t.settled (c.chosen w t) (c.hold w))
  have works : (t.settled (c.chosen w t) (c.hold w)).broken = false := suits.works
  rw [Table.respond_eq_answer works fun _ _ => Call.noConfusion,
    c.answer_fetchClaimed suits] at served
  exact leads_answered (p := .fetching (c.claim w) n c.claimed.now) served
    (Worker.nextRow_progress _ _ (opens.going (.fetching (c.claim w) n c.claimed.now))) rfl rfl rfl

/-- The rows of the batch are in the hand of the worker. -/
theorem inHand_batch {row : Row} (mem : row ∈ c.batch w t) :
    InHand (c.claim w) (t.settled (c.chosen w t) (c.hold w)) row := by
  obtain ⟨r, chosen, rfl⟩ := Surroundings.mem_batch mem
  exact .of_isDue (Table.mem_dueFirst.mp (List.mem_of_mem_take chosen)).2
    (Table.mem_settled (fun _ => Surroundings.mem_rows_of_chosen) chosen)

end Solo

/-! ## Whole iterations -/

/-- How an iteration ends that selects some rows: they are under the claim, and those of the batch
are replaced by their fates. -/
def Surroundings.ending (c : Surroundings) (w : Worker) (t : Table) : Ending where
  table := (t.settled (c.chosen w t) (c.hold w)).settled (c.batch w t) fun row => (c.fate w row).row
  outcome := .dispatched (Solo.report w c (c.batch w t) { claimed := (c.batch w t).length })
  offers := (c.batch w t).flatMap fun row => (c.fate w row).offers
  calls := c.opening w t ++ (c.batch w t).flatMap fun row => (c.fate w row).calls
  outcomes := (c.batch w t).map fun row => (row.id, (c.fate w row).outcome)

namespace Worker

variable {w : Worker} {c : Surroundings} {t : Table}

/-- **Nothing is due.** -/
theorem ends_idle (works : t.broken = false) (opens : c.Opens w t)
    (none_due : t.rows.any (·.isDue (w.due c.start.now)) = false) :
    w.Ends c t ⟨t, .idle, [], [.hasDue (w.due c.start.now)], []⟩ := by
  have led := Solo.leads_checked works opens
  rw [none_due] at led
  exact led

/-- Some row is selected if some is due and a batch is not empty. -/
theorem chosen_ne_nil (opens : c.Opens w t) (size : 0 < w.tuning.batchSize)
    (some_due : t.rows.any (·.isDue (w.due c.start.now))) : c.chosen w t ≠ [] := by
  obtain ⟨r, there, isDue⟩ := List.any_eq_true.mp some_due
  have mem : r ∈ t.dueFirst (w.due c.checked.now) :=
    Table.mem_dueFirst.mpr ⟨there, Row.isDue_of_le isDue opens.checked_le⟩
  intro empty
  rcases List.take_eq_nil_iff.mp empty with zero | none_due
  · omega
  · rw [none_due] at mem
    cases mem

/-- **Something is due.** The oldest rows are claimed, and every row of the batch is replaced by its
fate, in turn. -/
theorem ends_dispatched (suits : c.Suits w t) (opens : c.Opens w t) (size : 0 < w.tuning.batchSize)
    (some_due : t.rows.any (·.isDue (w.due c.start.now))) :
    w.Ends c t (c.ending w t) := by
  have ne := chosen_ne_nil opens size some_due
  have checked := Solo.leads_checked suits.works opens
  rw [some_due] at checked
  have batch : Solo.Leads w c
      ⟨t.settled (c.chosen w t) (c.hold w),
        some (Batch.next ⟨c.claim w, { claimed := (c.batch w t).length },
          (c.batch w t).map Row.id⟩),
        [], c.opening w t, []⟩ (c.ending w t).solo :=
    Solo.leads_batch opens.going _ _ _ (suits.keyed.settled (f := c.hold w) (fun _ => rfl) _)
      suits.works (fun _ mem => Solo.inHand_batch mem) (c.nodup_batch suits.keyed)
  exact checked.trans ((Solo.leads_selected suits opens ne).trans
    ((Solo.leads_claimed suits opens ne).trans ((Solo.leads_fetched suits opens).trans batch)))

end Worker

end Relay
