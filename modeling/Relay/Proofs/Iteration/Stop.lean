import Relay.Proofs.Iteration.Company

/-!
# Told to stop

A worker may be told to stop at any point of a batch: before its first row, while it reads a row
again, while it offers the row, or while it records what became of it. `Surroundings.Stopped` says
that this was before it comes to some row, and `Surroundings.share` is what becomes of a row then:
nothing at all if the worker was told before it came to the row, an offer that is left at that if
the broker did not settle the matter, and otherwise the same as if nobody had told it anything.
`Worker.stopped_rows_are_not_charged` says so of every batch and whatever others do in the
meantime, and that the rows that are abandoned are due again once the claim on them has run out.
-/

namespace Relay

namespace Surroundings

variable (c : Surroundings) (w : Worker) (row : Row)

/-- Who is told to stop stays told. -/
structure Lasting : Prop where
  published : ∀ id, (c.reread id).cancelled = true → (c.published id).cancelled = true
  recorded : ∀ id, (c.published id).cancelled = true → (c.recorded id).cancelled = true

/-- The same, but nobody tells the worker to stop. -/
def unstopped : Surroundings :=
  { c with
    start := { c.start with cancelled := false }
    checked := { c.checked with cancelled := false }
    selected := { c.selected with cancelled := false }
    claimed := { c.claimed with cancelled := false }
    fetched := { c.fetched with cancelled := false }
    reread := fun id => { c.reread id with cancelled := false }
    published := fun id => { c.published id with cancelled := false }
    recorded := fun id => { c.recorded id with cancelled := false } }

/-- What the worker reads from when it comes to a row until it is done with it. -/
def met : List Reading :=
  if (c.failure (.get row.id)).isSome then [c.reread row.id]
  else if c.interrupts w row then [c.reread row.id, c.published row.id]
  else if (w.refusal row).isSome then [c.reread row.id, c.recorded row.id]
  else [c.reread row.id, c.published row.id, c.recorded row.id]

/-- The worker is told to stop before it comes to the row that follows some of its batch. -/
def Stopped (before : List Row) : Prop :=
  c.fetched.cancelled = true ∨ ∃ row ∈ before, ∃ r ∈ c.met w row, r.cancelled = true

/-- What becomes of a row of a batch. -/
def share (batch : List Row) : Fate :=
  if row ∈ Solo.reached w c c.fetched.cancelled batch then c.lot w row
  else ⟨row, .abandoned, [], []⟩

variable {c w row}

theorem uncancelled_unstopped (c : Surroundings) : c.unstopped.Uncancelled := fun p => by
  cases p <;> rfl

theorem fate_unstopped (c : Surroundings) (w : Worker) (row : Row) :
    c.unstopped.fate w row = c.fate w row := rfl

/-- What the worker reads last tells whether it was told before. -/
theorem Lasting.last_iff (lasting : c.Lasting) (w : Worker) (row : Row) :
    (c.last w row).cancelled = true ↔ ∃ r ∈ c.met w row, r.cancelled = true := by
  have published := lasting.published row.id
  have recorded := lasting.recorded row.id
  unfold last met
  split
  · simp
  · split
    · simpa using published
    · split
      · simpa using recorded ∘ published
      · simp only [List.mem_cons, List.not_mem_nil, or_false, exists_eq_or_imp, exists_eq_left]
        exact ⟨fun told => .inr (.inr told),
          fun told => told.elim (recorded ∘ published) (·.elim recorded id)⟩

/-- What is done about a row is done about no other. -/
theorem about_of_mem_lot {call : Call} (mem : call ∈ (c.lot w row).calls) :
    call.about = some row.id := by
  unfold lot at mem
  split at mem
  · rw [List.mem_singleton.mp mem]
    rfl
  · exact about_of_mem_calls mem

/-- No row is abandoned that the broker or the store have settled. -/
theorem outcome_fate_ne (c : Surroundings) (w : Worker) (row : Row) :
    (c.fate w row).outcome ≠ .abandoned := by
  have recorded : (c.ruling w row).outcome row ≠ .abandoned := by
    cases c.ruling w row with
    | processed | poisoned => exact RowOutcome.noConfusion
    | failed attempt retryAt reason =>
      simp only [Ruling.outcome]
      split <;> exact RowOutcome.noConfusion
  rcases c.fate_cases w row with ⟨e, -, fate⟩ | ⟨-, e, -, fate⟩ | ⟨-, -, fate⟩
  · rw [fate]
    exact RowOutcome.noConfusion
  · rw [fate]
    exact RowOutcome.noConfusion
  · rw [fate]
    exact recorded

/-- While nobody tells the worker to stop, a row has its fate. -/
theorem Uncancelled.share (going : c.Uncancelled) {batch : List Row} (mem : row ∈ batch) :
    c.share w row batch = c.fate w row := by
  have goes : c.fetched.cancelled = false := going (.fetching "" 0 .epoch)
  rw [Surroundings.share, goes, Solo.reached_uncancelled going, if_pos mem,
    c.lot_of_not_interrupts w row (going.interrupts w row)]

/-- **A row that is abandoned** stays as it is. -/
theorem row_share {batch : List Row} (abandoned : (c.share w row batch).outcome = .abandoned) :
    (c.share w row batch).row = row := by
  unfold share lot at abandoned ⊢
  split
  · split
    · rfl
    · rename_i come goes
      rw [if_pos come, if_neg goes] at abandoned
      exact absurd abandoned (c.outcome_fate_ne w row)
  · rfl

end Surroundings

/-! ## The rows that the worker comes to -/

namespace Solo

variable {w : Worker} {c : Surroundings} {before after batch : List Row} {row : Row}

/-- The worker comes to a row if it was not told to stop before. -/
theorem mem_reached_iff (stop : Bool) (distinct : (before ++ row :: after).Nodup) :
    row ∈ reached w c stop (before ++ row :: after) ↔
      stop = false ∧ ∀ x ∈ before, (c.last w x).cancelled = false := by
  induction before generalizing stop with
  | nil => cases stop <;> simp [reached]
  | cons x before ih =>
    obtain ⟨new, distinct⟩ := List.nodup_cons.mp distinct
    have ne : row ≠ x := by
      rintro rfl
      exact new (List.mem_append_right _ (.head _))
    cases stop with
    | true => simp [reached]
    | false =>
      rw [List.cons_append, reached_cons, List.mem_cons, or_iff_right ne, ih _ distinct,
        List.forall_mem_cons]
      exact (and_iff_right rfl).symm

end Solo

namespace Surroundings

variable {c : Surroundings} {w : Worker} {before after : List Row} {row : Row}

/-- Whether the worker is told to stop before it comes to a row. -/
theorem Lasting.mem_reached_iff (lasting : c.Lasting) (distinct : (before ++ row :: after).Nodup) :
    row ∈ Solo.reached w c c.fetched.cancelled (before ++ row :: after) ↔
      ¬ c.Stopped w before := by
  have goes : ∀ x, (c.last w x).cancelled = false ↔ ¬ ∃ r ∈ c.met w x, r.cancelled = true :=
    fun x => by rw [← lasting.last_iff, Bool.not_eq_true]
  rw [Solo.mem_reached_iff _ distinct, Stopped, not_or, Bool.not_eq_true]
  simp only [goes, not_exists, not_and]

/-- **What becomes of a row**, by whether the worker is told to stop before it comes to the row,
while it offers it, or neither. -/
theorem Lasting.share_cases (lasting : c.Lasting) (distinct : (before ++ row :: after).Nodup) :
    (c.Stopped w before →
      c.share w row (before ++ row :: after) = ⟨row, .abandoned, [], []⟩) ∧
    (¬ c.Stopped w before → c.interrupts w row = true →
      c.share w row (before ++ row :: after) =
        ⟨row, .abandoned, c.offered w row, [.get row.id]⟩) ∧
    (¬ c.Stopped w before → c.interrupts w row = false →
      c.share w row (before ++ row :: after) = c.unstopped.fate w row) := by
  have reached := lasting.mem_reached_iff (w := w) distinct
  refine ⟨fun stopped => ?_, fun goes cut => ?_, fun goes settled => ?_⟩
  · exact if_neg fun mem => reached.mp mem stopped
  · rw [share, if_pos (reached.mpr goes), lot, if_pos cut]
  · rw [share, if_pos (reached.mpr goes), c.lot_of_not_interrupts w row settled, fate_unstopped]

end Surroundings

/-! ## The end of a batch -/

namespace Solo

variable {w : Worker} {c : Surroundings} {batch : List Row} {fates fates' : Row → Fate} {s : Solo}

/-- The iteration is over, and has done with every row of a batch what becomes of it: the report
counts the outcomes, the broker was offered and the store was asked just what belongs to the rows,
in turn, and every row is stored as it has become. -/
structure Closed (batch : List Row) (fates : Row → Fate) (s : Solo) : Prop where
  reported : s.progress = some (.finished (.dispatched (batch.foldl
    (fun report row => report.record (fates row).outcome) { claimed := batch.length })))
  offered : s.offers = batch.flatMap fun row => (fates row).offers
  called : s.calls = batch.flatMap fun row => (fates row).calls
  stored : ∀ row ∈ batch, s.table.find? row.id = some (fates row).row

theorem Closed.congr (closed : Closed batch fates s)
    (same : ∀ row ∈ batch, fates row = fates' row) : Closed batch fates' s where
  reported := by
    rw [closed.reported, List.foldl_ext _ _ _ fun report row mem => by rw [same row mem]]
  offered := closed.offered.trans (List.flatMap_congr fun row mem => by rw [same row mem])
  called := closed.called.trans (List.flatMap_congr fun row mem => by rw [same row mem])
  stored row mem := by rw [closed.stored row mem, same row mem]

/-- A batch that was read. What the iteration does from here on is kept. -/
def opened (w : Worker) (c : Surroundings) (t : Table) (claim : Claim) (count : Nat)
    (read : Instant) (batch : List Row) : Solo where
  table := t
  progress := some (w.resume c.fetched (.fetching claim count read)
    (Except.ok batch : Except StoreError (List Row))).progress

theorem foldl_abandoned (rows : List Row) (report : Report) :
    rows.foldl (fun report _ => report.record .abandoned) report =
      { report with abandoned := report.abandoned + rows.length } := by
  induction rows generalizing report with
  | nil => rfl
  | cons row rows ih =>
    rw [List.foldl_cons, ih, List.length_cons]
    simp only [Report.record, Nat.add_assoc, Nat.add_comm 1]

/-- The rows that the worker comes to have their lots, and the others are left alone. -/
theorem shares_split (w : Worker) (c : Surroundings) (distinct : batch.Nodup) :
    ∃ rest, reached w c c.fetched.cancelled batch ++ rest = batch ∧
      (∀ row ∈ reached w c c.fetched.cancelled batch, c.share w row batch = c.lot w row) ∧
      ∀ row ∈ rest, c.share w row batch = ⟨row, .abandoned, [], []⟩ := by
  obtain ⟨rest, e⟩ := reached_isInitial w c c.fetched.cancelled batch
  refine ⟨rest, e, fun row come => if_pos come, fun row left => if_neg fun come => ?_⟩
  rw [← e] at distinct
  exact (List.nodup_append.mp distinct).2.2 row come row left rfl

/-- The report counts the rows by their shares. -/
theorem reportOf_eq (w : Worker) (c : Surroundings) (distinct : batch.Nodup) (before : Report) :
    reportOf w c c.fetched.cancelled batch before =
      batch.foldl (fun report row => report.record (c.share w row batch).outcome) before := by
  obtain ⟨rest, e, come, left⟩ := shares_split w c distinct
  have remain : batch.length - (reached w c c.fetched.cancelled batch).length = rest.length := by
    have all := congrArg List.length e
    rw [List.length_append] at all
    omega
  have first : (reached w c c.fetched.cancelled batch).foldl
      (fun report row => report.record (c.share w row batch).outcome) before =
      (reached w c c.fetched.cancelled batch).foldl
        (fun report row => report.record (c.lot w row).outcome) before :=
    List.foldl_ext _ _ _ fun _ row mem => by rw [come row mem]
  have last : ∀ counted : Report,
      rest.foldl (fun report row => report.record (c.share w row batch).outcome) counted =
        rest.foldl (fun report _ => report.record .abandoned) counted := fun counted =>
    List.foldl_ext _ _ _ fun _ row mem => by rw [left row mem]
  calc reportOf w c c.fetched.cancelled batch before
      = rest.foldl (fun report _ => report.record .abandoned)
          ((reached w c c.fetched.cancelled batch).foldl
            (fun report row => report.record (c.lot w row).outcome) before) := by
        rw [foldl_abandoned, reportOf, remain]
    _ = (reached w c c.fetched.cancelled batch ++ rest).foldl
          (fun report row => report.record (c.share w row batch).outcome) before := by
        rw [List.foldl_append, first, last]
    _ = batch.foldl (fun report row => report.record (c.share w row batch).outcome) before := by
        rw [e]

/-- A row that is left alone takes part in nothing. -/
theorem flatMap_lot {α : Type} (w : Worker) (c : Surroundings) (distinct : batch.Nodup)
    (part : Fate → List α) (none_of : ∀ row, part ⟨row, .abandoned, [], []⟩ = []) :
    (reached w c c.fetched.cancelled batch).flatMap (fun row => part (c.lot w row)) =
      batch.flatMap fun row => part (c.share w row batch) := by
  obtain ⟨rest, e, come, left⟩ := shares_split w c distinct
  have nothing : rest.flatMap (fun row => part (c.share w row batch)) = [] :=
    List.flatMap_eq_nil_iff.mpr fun row mem => by rw [left row mem, none_of]
  calc (reached w c c.fetched.cancelled batch).flatMap (fun row => part (c.lot w row))
      = (reached w c c.fetched.cancelled batch).flatMap
          (fun row => part (c.share w row batch)) :=
        List.flatMap_congr fun row mem => by rw [come row mem]
    _ = (reached w c c.fetched.cancelled batch ++ rest).flatMap
          (fun row => part (c.share w row batch)) := by
      rw [List.flatMap_append, nothing, List.append_nil]
    _ = batch.flatMap fun row => part (c.share w row batch) := by rw [e]

/-- **A batch with the table for itself**: every row of it has its share. -/
theorem leads_shares (claim : Claim) (count : Nat) (read : Instant)
    (distinct : (batch.map Row.id).Nodup)
    (inHand : ∀ row ∈ batch, InHand claim { rows := batch } row) :
    ∃ e, Leads w c (opened w c { rows := batch } claim count read batch) e ∧
      Closed batch (fun row => c.share w row batch) e := by
  have begun : opened w c { rows := batch } claim count read batch = ⟨{ rows := batch },
      some (Batch.onward ⟨claim, { claimed := batch.length }, batch.map Row.id⟩
        c.fetched.cancelled), [], [], []⟩ := by
    simp only [opened, Worker.resume, Worker.fetched, Worker.nextRow_onward]
  have keyed : ({ rows := batch } : Table).Keyed := distinct
  have nodup : batch.Nodup := List.Nodup.of_map Row.id distinct
  refine ⟨_, begun ▸ leads_onward claim c.fetched.cancelled batch { claimed := batch.length } keyed
    rfl inHand distinct, ?_, flatMap_lot w c nodup Fate.offers fun _ => rfl,
    flatMap_lot w c nodup Fate.calls fun _ => rfl, fun row mem => ?_⟩
  · rw [reportOf_eq w c nodup]
  · rw [Table.find?_settled (c.id_lot w), keyed.find?_eq mem, Option.map_some, Surroundings.share]
    split <;> rfl

/-- All that is done about a batch is about its rows. -/
theorem Closed.allAbout (closed : Closed batch (fun row => c.share w row batch) s) :
    Call.AllAbout (batch.map Row.id) s.calls := by
  intro call made
  rw [closed.called] at made
  obtain ⟨row, mem, made⟩ := List.mem_flatMap.mp made
  unfold Surroundings.share at made
  split at made
  · exact ⟨row.id, List.mem_map_of_mem mem, Surroundings.about_of_mem_lot made⟩
  · cases made

/-- Others who leave the rows of a batch alone leave its end as it is. -/
theorem Closed.of_alike {e : Solo} (closed : Closed batch fates e)
    (alike : Alike (batch.map Row.id) e s) : Closed batch fates s := by
  obtain ⟨spared, same⟩ := alike
  rw [same]
  exact ⟨closed.reported, closed.offered, closed.called, fun row mem =>
    (spared.found row.id (List.mem_map_of_mem mem)).trans (closed.stored row mem)⟩

/-- **A batch in company**: every row of it has its share. -/
theorem surely_shares {t : Table} (works : t.broken = false) (claim : Claim) (count : Nat)
    (read : Instant) (distinct : (batch.map Row.id).Nodup)
    (there : ∀ row ∈ batch, t.find? row.id = some row)
    (inHand : ∀ row ∈ batch, InHand claim { rows := batch } row) :
    Surely w c (batch.map Row.id) (Closed batch fun row => c.share w row batch)
      (opened w c t claim count read batch) := by
  obtain ⟨e, leads, closed⟩ := leads_shares (w := w) (c := c) claim count read distinct inHand
  have keyed : ({ rows := batch } : Table).Keyed := distinct
  have spared : Table.Spared (batch.map Row.id) { rows := batch } t := by
    refine ⟨works, fun id mem => ?_⟩
    obtain ⟨row, inBatch, rfl⟩ := List.mem_map.mp mem
    rw [there row inBatch, keyed.find?_eq inBatch]
  have alike : Alike (batch.map Row.id) (opened w c { rows := batch } claim count read batch)
      (opened w c t claim count read batch) := ⟨spared, rfl⟩
  exact (surely_of_leads leads closed.allAbout alike).imp fun _ => closed.of_alike

end Solo

namespace Worker

variable {w : Worker} {c : Surroundings} {t : Table}

/-- **A worker that is told to stop charges no row that it abandons.** It has claimed some rows that
were due and goes through them; at some point of the batch it is told to stop, or at none. Whatever
others do in the meantime, as long as they leave these rows alone, every row of the batch has its
share. If the worker was told before it comes to a row, it neither asks for the row nor offers it;
if it was not, but is told before the broker has replied that it could not take the row just now,
it leaves the row at that: such rows are counted as abandoned, and stay as they were claimed. All
others end as they do when nobody tells the worker to stop and the broker replies the same. A row
that is abandoned is due again once the claim has run out, with the attempts that it had. -/
theorem stopped_rows_are_not_charged (lasting : c.Lasting) (works : t.broken = false)
    {taken : List Row} (distinct : (taken.map Row.id).Nodup) {now : Instant}
    (isDue : ∀ r ∈ taken, r.isDue (w.due now) = true) {claim : Claim} {expiry : Instant}
    (held : ∀ r ∈ taken, t.find? r.id = some (r.heldBy claim expiry)) (count : Nat)
    (read : Instant) :
    let batch := taken.map (·.heldBy claim expiry)
    Solo.Surely w c (taken.map Row.id) (Solo.Closed batch fun row => c.share w row batch)
      (Solo.opened w c t claim count read batch) ∧
    Solo.Surely w c.unstopped (taken.map Row.id) (Solo.Closed batch (c.unstopped.fate w))
      (Solo.opened w c.unstopped t claim count read batch) ∧
    (∀ before row after, batch = before ++ row :: after →
      (c.Stopped w before → c.share w row batch = ⟨row, .abandoned, [], []⟩) ∧
      (¬ c.Stopped w before → c.interrupts w row = true →
        c.share w row batch = ⟨row, .abandoned, c.offered w row, [.get row.id]⟩) ∧
      (¬ c.Stopped w before → c.interrupts w row = false →
        c.share w row batch = c.unstopped.fate w row)) ∧
    ∀ r ∈ taken, (c.share w (r.heldBy claim expiry) batch).outcome = .abandoned →
      ∀ later, now ≤ later → expiry < later →
        (c.share w (r.heldBy claim expiry) batch).row.isDue (w.due later) = true ∧
        (c.share w (r.heldBy claim expiry) batch).row.attempts = r.attempts := by
  intro batch
  have ids : batch.map Row.id = taken.map Row.id := List.map_map
  have distinct' : (batch.map Row.id).Nodup := ids ▸ distinct
  have there : ∀ row ∈ batch, t.find? row.id = some row := by
    intro row mem
    obtain ⟨r, inTaken, rfl⟩ := List.mem_map.mp mem
    exact held r inTaken
  have inHand : ∀ row ∈ batch, Solo.InHand claim { rows := batch } row := by
    intro row mem
    obtain ⟨r, inTaken, rfl⟩ := List.mem_map.mp mem
    exact .of_isDue (isDue r inTaken) mem
  refine ⟨?_, ?_, fun before row after e => ?_, fun r mem abandoned later le expired => ?_⟩
  · exact ids ▸ Solo.surely_shares works claim count read distinct' there inHand
  · refine (ids ▸ Solo.surely_shares works claim count read distinct' there inHand :
      Solo.Surely w c.unstopped (taken.map Row.id) _ _).imp fun s closed => closed.congr ?_
    exact fun row mem => c.uncancelled_unstopped.share mem
  · rw [e]
    exact lasting.share_cases (e ▸ List.Nodup.of_map Row.id distinct')
  · rw [Surroundings.row_share abandoned]
    exact ⟨Row.isDue_heldBy (Row.isDue_of_le (isDue r mem) le) claim expired, rfl⟩

end Worker

/-! ## A courier that is told to stop -/

namespace Office

/-- The courier is told to stop while it offers a row, and the broker does not take the row. -/
def dismissal : Surroundings :=
  { calm with
    published := fun _ => { reading with cancelled := true }
    recorded := fun _ => { reading with cancelled := true }
    reply := fun _ => .error (.transient "cancelled") }

/-- What the broker is offered then. -/
def declined : Offer :=
  ⟨known.id, (held known).message ⟨none, [], none⟩, .error (.transient "cancelled")⟩

theorem refusal_held_known : courier.refusal (held known) = none :=
  Worker.refusal_eq_none_iff.mpr accepts_known

theorem dismissal_interrupts : dismissal.interrupts courier (held known) = true :=
  (Surroundings.interrupts_iff courier (held known)).mpr ⟨rfl, refusal_held_known, rfl⟩

theorem offered_known : dismissal.offered courier (held known) = [declined] :=
  Solo.offered_of_accepted refusal_held_known

theorem not_stopped_dismissal : ¬ dismissal.Stopped courier [] := by
  rintro (told | ⟨row, mem, -⟩)
  · cases told
  · cases mem

theorem stopped_dismissal : dismissal.Stopped courier [held known] := by
  refine .inr ⟨held known, .head _, dismissal.published known.id, ?_, rfl⟩
  rw [Surroundings.met, dismissal_interrupts]
  exact .tail _ (.head _)

/-- The courier leaves both rows as they are: one was offered, the other not even asked for. -/
theorem stopped_rows_are_not_charged_courier :
    Solo.Surely courier dismissal [known.id, unknown.id]
      (fun s => s.progress = some (.finished (.dispatched { claimed := 2, abandoned := 2 })) ∧
        s.offers = [declined] ∧ s.calls = [.get known.id] ∧
        s.table.find? known.id = some (held known) ∧
        s.table.find? unknown.id = some (held unknown))
      (Solo.opened courier dismissal { rows := [held known, held unknown] } claim 2 .epoch
        [held known, held unknown]) ∧
    (held known).isDue (courier.due late) ∧ (held unknown).isDue (courier.due late) := by
  have lasting : dismissal.Lasting := ⟨fun _ _ => rfl, fun _ _ => rfl⟩
  have isDue : ∀ r ∈ [known, unknown], r.isDue (courier.due .epoch) = true := by decide +kernel
  have there : ∀ r ∈ [known, unknown],
      ({ rows := [held known, held unknown] } : Table).find? r.id = some (held r) := by
    decide +kernel
  obtain ⟨surely, -, shares, again⟩ := Worker.stopped_rows_are_not_charged
    (t := { rows := [held known, held unknown] }) (c := dismissal) lasting rfl
    (by decide) isDue there 2 .epoch
  have first : dismissal.share courier (held known) [held known, held unknown] =
      ⟨held known, .abandoned, [declined], [.get known.id]⟩ := by
    rw [← offered_known]
    exact (shares [] (held known) [held unknown] rfl).2.1 not_stopped_dismissal
      dismissal_interrupts
  have second : dismissal.share courier (held unknown) [held known, held unknown] =
      ⟨held unknown, .abandoned, [], []⟩ :=
    (shares [held known] (held unknown) [] rfl).1 stopped_dismissal
  refine ⟨surely.imp fun s closed => ?_, ?_, ?_⟩
  · have closed : Solo.Closed [held known, held unknown]
      (fun row => dismissal.share courier row [held known, held unknown]) s := closed
    refine ⟨?_, ?_, ?_, ?_, ?_⟩
    · rw [closed.reported]
      simp only [List.foldl_cons, List.foldl_nil, first, second]
      rfl
    · rw [closed.offered]
      simp only [List.flatMap_cons, List.flatMap_nil, first, second]
      rfl
    · rw [closed.called]
      simp only [List.flatMap_cons, List.flatMap_nil, first, second]
      rfl
    · exact (closed.stored (held known) (.head _)).trans (congrArg (some ∘ Fate.row) first)
    · exact (closed.stored (held unknown) (.tail _ (.head _))).trans
        (congrArg (some ∘ Fate.row) second)
  · have isDue : (dismissal.share courier (held known) [held known, held unknown]).row.isDue
        (courier.due late) = true :=
      (again known (.head _) (congrArg Fate.outcome first) late (by decide +kernel)
        (by decide +kernel)).1
    rwa [first] at isDue
  · have isDue : (dismissal.share courier (held unknown) [held known, held unknown]).row.isDue
        (courier.due late) = true :=
      (again unknown (.tail _ (.head _)) (congrArg Fate.outcome second) late (by decide +kernel)
        (by decide +kernel)).1
    rwa [second] at isDue

end Office

end Relay
