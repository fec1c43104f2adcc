import Relay.Proofs.Table.Rows

/-!
# Rows that are due

Five calls ask which rows are due, each in its own way: whether there is one, which are the oldest,
which of some can be claimed, which are under a claim, and how many there are of every status.
`Table.due_readers_agree` says that they mean the same rows. `Table.dueFirst` are these rows, the
oldest first, and no call can tell in what order a table keeps them (`Table.Alike.respond`).
-/

namespace Relay

/-- What was due stays due while the clock does not go back. -/
theorem Row.isDue_of_le {r : Row} {now now' : Instant} {most : UInt32} (h : r.isDue ⟨now, most⟩)
    (le : now ≤ now') : r.isDue ⟨now', most⟩ := by
  simp only [Row.isDue, Row.isReady, Row.isLeased, Bool.and_eq_true, Bool.not_eq_true'] at h ⊢
  obtain ⟨⟨⟨alive, ready⟩, free⟩, left⟩ := h
  refine ⟨⟨⟨alive, ?_⟩, ?_⟩, left⟩
  · cases until_ : r.notBefore with
    | none => rfl
    | some u =>
      rw [until_] at ready
      simp only [decide_eq_true_eq] at ready ⊢
      exact Instant.le_trans ready le
  · cases until_ : r.claimedUntil with
    | none => rfl
    | some u =>
      rw [until_] at free
      simp only [decide_eq_false_iff_not] at free ⊢
      exact fun h => free (Instant.le_trans le h)

/-- Rows come one before the other or the other before the one, unless they have one id. -/
theorem Row.precedes_of_not_precedes {a b : Row} (h : (!b.precedes a) = true) (ne : a.id ≠ b.id) :
    a.precedes b := by
  simp only [Bool.not_eq_true', ← Bool.not_eq_true, Row.precedes_iff] at h ⊢
  have ne : a.id.toNat ≠ b.id.toNat := fun e => ne (Uuid.ext_toNat e)
  omega

/-- Counts are the same if they are for every status. -/
theorem Stats.ext_count {s s' : Stats} (h : ∀ x, s.count x = s'.count x) : s = s' := by
  have pending := h .pending
  have backingOff := h .backingOff
  have claimed := h .claimed
  have processed := h .processed
  have poisoned := h .poisoned
  have stalled := h .stalled
  cases s
  cases s'
  simp_all [Stats.count]

namespace Table

variable {t t' : Table} {due : Due}

/-! ## The rows that are due, the oldest first -/

/-- The rows that are due, the oldest first. -/
def dueFirst (t : Table) (due : Due) : List Row := oldestFirst (t.rows.filter (·.isDue due))

theorem mem_dueFirst {r : Row} : r ∈ t.dueFirst due ↔ r ∈ t.rows ∧ r.isDue due := by
  simp [dueFirst, oldestFirst]

theorem any_isDue_eq_false : t.rows.any (·.isDue due) = false ↔ t.dueFirst due = [] := by
  simp only [List.any_eq_false, List.eq_nil_iff_forall_not_mem, mem_dueFirst, not_and]

theorem Keyed.nodup_oldestFirst (keyed : t.Keyed) (p : Row → Bool) :
    ((oldestFirst (t.rows.filter p)).map Row.id).Nodup := by
  refine ((List.mergeSort_perm _ _).map Row.id).nodup_iff.mpr ?_
  exact keyed.sublist (List.filter_sublist.map _)

/-- Rows that are read, the oldest first, are in strict order. -/
theorem Keyed.pairwise_oldestFirst (keyed : t.Keyed) (p : Row → Bool) :
    (oldestFirst (t.rows.filter p)).Pairwise fun a b => a.precedes b := by
  have distinct : (oldestFirst (t.rows.filter p)).Pairwise fun a b => a.id ≠ b.id :=
    List.pairwise_map.mp (keyed.nodup_oldestFirst p)
  refine (distinct.and (sorted_oldestFirst _)).imp fun {a b} h => ?_
  exact Row.precedes_of_not_precedes h.2 h.1

theorem Keyed.nodup_dueFirst (keyed : t.Keyed) : ((t.dueFirst due).map Row.id).Nodup :=
  keyed.nodup_oldestFirst _

/-- The rows that are due, each before all that were created later, or at the same time under a
larger id. -/
theorem Keyed.dueFirst_spec (keyed : t.Keyed) (due : Due) :
    (t.dueFirst due).Perm (t.rows.filter (·.isDue due)) ∧
      (t.dueFirst due).Pairwise fun a b => a.precedes b :=
  ⟨List.mergeSort_perm _ _, keyed.pairwise_oldestFirst _⟩

theorem length_dueFirst (t : Table) (due : Due) :
    (t.dueFirst due).length = t.rows.countP (·.isDue due) := by
  rw [List.countP_eq_length_filter]
  exact (List.mergeSort_perm _ _).length_eq

/-- What is left out of a selection comes after all that is selected. -/
theorem precedes_of_not_mem_take {rows : List Row} (sorted : rows.Pairwise fun a b => a.precedes b)
    {n : Nat} {r s : Row} (selected : s ∈ rows.take n) (mem : r ∈ rows) (left : r ∉ rows.take n) :
    s.precedes r := by
  rw [← List.take_append_drop n rows, List.pairwise_append] at sorted
  rw [← List.take_append_drop n rows, List.mem_append] at mem
  exact sorted.2.2 s selected r (mem.resolve_left left)

/-! ## The order in which a table keeps its rows -/

/-- The tables hold the same rows, in any order. -/
structure Alike (t t' : Table) : Prop where
  broken : t.broken = t'.broken
  rows : t.rows.Perm t'.rows

theorem Keyed.find?_eq_some_iff (keyed : t.Keyed) {x : Uuid} {r : Row} :
    t.find? x = some r ↔ r ∈ t.rows ∧ r.id = x := by
  constructor
  · intro there
    exact ⟨mem_of_find? there, id_of_find? there⟩
  · rintro ⟨mem, rfl⟩
    exact keyed.find?_eq mem

namespace Alike

theorem keyed (alike : t.Alike t') (keyed : t.Keyed) : t'.Keyed :=
  (alike.rows.map Row.id).nodup_iff.mp keyed

theorem find?_eq (alike : t.Alike t') (keyed : t.Keyed) (x : Uuid) : t.find? x = t'.find? x := by
  refine Option.ext fun r => ?_
  rw [keyed.find?_eq_some_iff, (alike.keyed keyed).find?_eq_some_iff, alike.rows.mem_iff]

theorem modify (alike : t.Alike t') (id : Uuid) (f : Row → Row) :
    (t.modify id f).Alike (t'.modify id f) := ⟨alike.broken, alike.rows.map _⟩

theorem put (alike : t.Alike t') (keyed : t.Keyed) (r : Row) : (t.put r).Alike (t'.put r) := by
  have there : t.contains r.id = t'.contains r.id := by
    rw [contains, contains, alike.find?_eq keyed]
  unfold Table.put
  rw [there]
  split
  · exact alike.modify _ _
  · exact ⟨alike.broken, alike.rows.append_right _⟩

theorem insertAll (alike : t.Alike t') (keyed : t.Keyed) (rows : List Row) :
    (∃ e, t.insertAll rows = .error e ∧ t'.insertAll rows = .error e) ∨
      ∃ a a' n, t.insertAll rows = .ok (a, n) ∧ t'.insertAll rows = .ok (a', n) ∧ a.Alike a' := by
  have there : (fun r : Row => t.contains r.id) = fun r => t'.contains r.id := by
    funext r
    rw [contains, contains, alike.find?_eq keyed]
  have added : (rows.foldl Table.put t).Alike (rows.foldl Table.put t') := by
    induction rows generalizing t t' with
    | nil => exact alike
    | cons r rows ih =>
      have alike' := alike.put keyed r
      have keyed' := keyed.put r
      refine ih alike' keyed' (funext fun x => ?_)
      rw [contains, contains, alike'.find?_eq keyed']
  unfold Table.insertAll
  rw [there, alike.broken]
  split
  · exact .inl ⟨_, rfl, rfl⟩
  · split
    · exact .inl ⟨_, rfl, rfl⟩
    · exact .inr ⟨_, _, _, rfl, rfl, added⟩

theorem updateLive (alike : t.Alike t') (keyed : t.Keyed) (id : Uuid) (f : Row → Option Row) :
    (t.updateLive id f).1.Alike (t'.updateLive id f).1 ∧
      (t.updateLive id f).2 = (t'.updateLive id f).2 := by
  simp only [Table.updateLive, alike.find?_eq keyed]
  split
  · exact ⟨alike, rfl⟩
  · split
    · exact ⟨alike, rfl⟩
    · split
      · exact ⟨alike, rfl⟩
      · exact ⟨alike.modify _ _, rfl⟩

theorem claim (due : Due) (claim : Claim) (expiry : Instant) (ids : List Uuid)
    (acc acc' : Table × Nat) (alike : acc.1.Alike acc'.1) (same : acc.2 = acc'.2)
    (keyed : acc.1.Keyed) :
    (ids.foldl (claimOne due claim expiry) acc).1.Alike
        (ids.foldl (claimOne due claim expiry) acc').1 ∧
      (ids.foldl (claimOne due claim expiry) acc).2 =
        (ids.foldl (claimOne due claim expiry) acc').2 := by
  induction ids generalizing acc acc' with
  | nil => exact ⟨alike, same⟩
  | cons id ids ih =>
    have one : (claimOne due claim expiry acc id).1.Alike (claimOne due claim expiry acc' id).1 ∧
        (claimOne due claim expiry acc id).2 = (claimOne due claim expiry acc' id).2 := by
      simp only [claimOne, alike.find?_eq keyed]
      split
      · exact ⟨alike, same⟩
      · split
        · exact ⟨alike.modify _ _, congrArg (· + 1) same⟩
        · exact ⟨alike, same⟩
    exact ih _ _ one.1 one.2 (Keyed.claim [id] keyed due claim expiry)

theorem any_eq (alike : t.Alike t') (p : Row → Bool) : t.rows.any p = t'.rows.any p := by
  rw [Bool.eq_iff_iff, List.any_eq_true, List.any_eq_true]
  simp only [alike.rows.mem_iff]

theorem oldestFirst_eq (alike : t.Alike t') (keyed : t.Keyed) (p : Row → Bool) :
    oldestFirst (t.rows.filter p) = oldestFirst (t'.rows.filter p) :=
  keyed.oldestFirst_eq (alike.rows.filter p) fun _ mem => (List.mem_filter.mp mem).1

theorem countRows_eq (alike : t.Alike t') (due : Due) :
    countRows due t.rows = countRows due t'.rows :=
  Stats.ext_count fun x => by
    rw [Table.countRows_eq, Table.countRows_eq, alike.rows.countP_eq]

theorem answer (alike : t.Alike t') (keyed : t.Keyed) (c : Call) :
    (t.answer c).1.Alike (t'.answer c).1 ∧ (t.answer c).2 = (t'.answer c).2 := by
  have find? := alike.find?_eq keyed
  cases c with
  | insert row =>
    rcases alike.insertAll keyed [row] with ⟨e, h, h'⟩ | ⟨a, a', n, h, h', after⟩
    · simp only [Table.answer, h, h']
      exact ⟨alike, trivial⟩
    · simp only [Table.answer, h, h']
      exact ⟨after, trivial⟩
  | hasDue due => exact ⟨alike, congrArg Except.ok (alike.any_eq _)⟩
  | selectDue due limit =>
    refine ⟨alike, ?_⟩
    simp only [Table.answer, alike.oldestFirst_eq keyed]
  | claim ids due claim expiry =>
    obtain ⟨after, count⟩ := Alike.claim due claim expiry ids (t, 0) (t', 0) alike rfl keyed
    exact ⟨after, congrArg Except.ok count⟩
  | fetchClaimed claim now => exact ⟨alike, congrArg Except.ok (alike.oldestFirst_eq keyed _)⟩
  | get id => exact ⟨alike, congrArg Except.ok (find? id)⟩
  | markProcessed id now | markPoisoned id reason | recordFailure id a =>
    have live := alike.updateLive keyed id
    simp only [Table.answer]
    exact ⟨(live _).1, congrArg Except.ok (live _).2⟩
  | stats due => exact ⟨alike, congrArg Except.ok (alike.countRows_eq due)⟩
  | requeue id =>
    simp only [Table.answer, find?]
    split
    · exact ⟨alike, rfl⟩
    · split
      · exact ⟨alike.modify _ _, rfl⟩
      · exact ⟨alike, rfl⟩

/-- **No call can tell** in what order a table keeps its rows. -/
theorem respond (alike : t.Alike t') (keyed : t.Keyed) (c : Call) :
    (t.respond c).1.Alike (t'.respond c).1 ∧ (t.respond c).2 = (t'.respond c).2 := by
  have counts : ∀ id a, t.overflows id a = t'.overflows id a := by
    intro id a
    rw [overflows, overflows, alike.find?_eq keyed]
  obtain ⟨after, same⟩ := alike.answer keyed c
  simp only [Table.respond, alike.broken, counts]
  split
  · exact ⟨alike, rfl⟩
  · split
    · split
      · exact ⟨⟨rfl, alike.rows⟩, rfl⟩
      · exact ⟨after, congrArg some same⟩
    · exact ⟨after, congrArg some same⟩

end Alike

/-! ## Readers of what is due -/

theorem total_countRows (due : Due) (rows : List Row) :
    (countRows due rows).total = rows.length := by
  have add : ∀ (s : Stats) (x : Status), (s.add x).total = s.total + 1 := by
    intro s x
    cases x <;> simp only [Stats.add, Stats.total] <;> omega
  have fold : ∀ s : Stats, (rows.foldl (fun s r => s.add (r.status due)) s).total =
      s.total + rows.length := by
    induction rows with
    | nil => intro s; rfl
    | cons r rows ih =>
      intro s
      rw [List.foldl_cons, ih, add, List.length_cons]
      omega
  exact (fold {}).trans (Nat.zero_add _)

theorem pending_countRows (due : Due) (rows : List Row) :
    (countRows due rows).pending = rows.countP (·.isDue due) := by
  refine (countRows_eq due rows .pending).trans (List.countP_congr fun r _ => ?_)
  rw [decide_eq_true_eq, Row.status_eq_pending_iff]

theorem any_isDue_eq (due : Due) (rows : List Row) :
    rows.any (·.isDue due) = decide (0 < rows.countP (·.isDue due)) := by
  rw [Bool.eq_iff_iff, List.any_eq_true, decide_eq_true_eq, List.countP_pos_iff]

/-- The rows under a claim that nobody had before it was made are those that it has taken. -/
theorem Keyed.mem_fetched (keyed : t.Keyed) {ids : List Uuid} {claim : Claim} {expiry : Instant}
    (fresh : ∀ r ∈ t.rows, r.claimedBy ≠ some claim) (lasts : due.now ≤ expiry) (s : Row) :
    s ∈ oldestFirst ((t.answer (.claim ids due claim expiry)).1.rows.filter
        (·.isClaimedBy claim due.now)) ↔
      ∃ r ∈ t.rows, r.id ∈ ids ∧ r.isDue due ∧ s = r.heldBy claim expiry := by
  rw [keyed.rows_answer fun _ => Call.noConfusion]
  simp only [oldestFirst, List.mem_mergeSort, List.mem_filter, List.mem_map]
  constructor
  · rintro ⟨⟨r, there, rfl⟩, own⟩
    by_cases taken : r.id ∈ ids ∧ r.isDue due
    · exact ⟨r, there, taken.1, taken.2, if_pos taken⟩
    · rw [Call.effect, if_neg taken] at own
      simp only [Row.isClaimedBy, Bool.and_eq_true, decide_eq_true_eq] at own
      exact absurd own.1 (fresh r there)
  · rintro ⟨r, there, asked, isDue, rfl⟩
    refine ⟨⟨r, there, if_pos ⟨asked, isDue⟩⟩, ?_⟩
    simp [Row.isClaimedBy, Row.isLeased, Row.heldBy, lasts]

/-- What is selected: the oldest due rows, as many as are asked for or as there are. -/
theorem Keyed.selected_spec (keyed : t.Keyed) (due : Due) (limit : Nat) :
    ∃ chosen : List Row, (t.answer (.selectDue due limit)).2 = .ok (chosen.map Row.id) ∧
      chosen.length = min limit (t.rows.countP (·.isDue due)) ∧ (chosen.map Row.id).Nodup ∧
      (∀ r ∈ chosen, r ∈ t.rows ∧ r.isDue due) ∧ (chosen.Pairwise fun a b => a.precedes b) ∧
      ∀ r ∈ t.rows, r.isDue due → r ∉ chosen → ∀ s ∈ chosen, s.precedes r := by
  have sorted := (keyed.dueFirst_spec due).2
  refine ⟨(t.dueFirst due).take limit, rfl, ?_, ?_, ?_, ?_, ?_⟩
  · rw [List.length_take, length_dueFirst]
  · exact keyed.nodup_dueFirst.sublist ((List.take_sublist _ _).map _)
  · exact fun r chosen => mem_dueFirst.mp (List.mem_of_mem_take chosen)
  · exact sorted.sublist (List.take_sublist _ _)
  · intro r there isDue left s chosen
    exact precedes_of_not_mem_take sorted chosen (mem_dueFirst.mpr ⟨there, isDue⟩) left

/-- What a fresh claim takes: of the rows that are asked for, those that are due. -/
theorem Keyed.claimed_spec (keyed : t.Keyed) {ids : List Uuid} (distinct : ids.Nodup)
    {claim : Claim} (fresh : ∀ r ∈ t.rows, r.claimedBy ≠ some claim) (due : Due)
    (expiry : Instant) :
    (t.answer (.claim ids due claim expiry)).2 =
        .ok (ids.countP fun id => (t.find? id).any (·.isDue due)) ∧
      (t.answer (.claim ids due claim expiry)).1.rows = (t.rows.map fun r =>
        if r.id ∈ ids ∧ r.isDue due then r.heldBy claim expiry else r) ∧
      ∀ r ∈ t.rows, (t.answer (.claim ids due claim expiry)).1.find? r.id ≠ some r ↔
        r.id ∈ ids ∧ r.isDue due := by
  refine ⟨?_, keyed.rows_answer fun _ => Call.noConfusion, fun r there => ?_⟩
  · have count := count_foldl_distinct due claim expiry distinct (t, 0)
    rw [Nat.zero_add] at count
    exact congrArg Except.ok count
  · rw [find?_answer (keyed.find?_eq there)]
    constructor
    · intro changed
      by_contra untaken
      exact changed (congrArg some (if_neg untaken))
    · intro taken same
      have held : r.heldBy claim expiry = r :=
        (if_pos taken).symm.trans (Option.some.inj same)
      exact fresh r there (congrArg Row.claimedBy held).symm

/-- **Readers of what is due agree.** In a table that works and keeps its rows in any order, a row
is pending exactly when it is due. The counts of all statuses add up to the number of rows, and the
pending ones are the due ones; some row is due exactly when there is one. The ids that are selected
are those of the oldest due rows, as many as were asked for or as there are, and whatever is left
out comes later. A fresh claim of some of the rows takes those that are due, counts them and changes
no other row, and while it lasts they are the rows that are read under it. -/
theorem due_readers_agree (works : t.broken = false) (keyed : t.Keyed) (due : Due) (limit : Nat) :
    (∀ r : Row, r.status due = .pending ↔ r.isDue due) ∧
    (∃ stats, t.respond (.stats due) = (t, some (.ok stats)) ∧ stats.total = t.rows.length ∧
      stats.pending = t.rows.countP (·.isDue due) ∧
      t.respond (.hasDue due) = (t, some (.ok (decide (0 < stats.pending)))) ∧
      ∃ chosen : List Row, t.respond (.selectDue due limit) = (t, some (.ok (chosen.map Row.id))) ∧
        chosen.length = min limit stats.pending ∧ (chosen.map Row.id).Nodup ∧
        (∀ r ∈ chosen, r ∈ t.rows ∧ r.isDue due) ∧ (chosen.Pairwise fun a b => a.precedes b) ∧
        ∀ r ∈ t.rows, r.isDue due → r ∉ chosen → ∀ s ∈ chosen, s.precedes r) ∧
    (∀ (ids : List Uuid) (claim : Claim) (expiry : Instant), ids.Nodup →
      (∀ r ∈ t.rows, r.claimedBy ≠ some claim) → due.now ≤ expiry →
      ∃ t' batch, t.respond (.claim ids due claim expiry) =
          (t', some (.ok (ids.countP fun id => (t.find? id).any (·.isDue due)))) ∧
        t'.rows = (t.rows.map fun r =>
          if r.id ∈ ids ∧ r.isDue due then r.heldBy claim expiry else r) ∧
        (∀ r ∈ t.rows, t'.find? r.id ≠ some r ↔ r.id ∈ ids ∧ r.isDue due) ∧
        t'.respond (.fetchClaimed claim due.now) = (t', some (.ok batch)) ∧
        (batch.Pairwise fun a b => a.precedes b) ∧
        ∀ s, s ∈ batch ↔ ∃ r ∈ t.rows, r.id ∈ ids ∧ r.isDue due ∧ s = r.heldBy claim expiry) ∧
    ∀ t', t.Alike t' → ∀ c,
      (t.respond c).1.Alike (t'.respond c).1 ∧ (t.respond c).2 = (t'.respond c).2 := by
  -- none of the calls counts an attempt, so that the table answers
  have answers : ∀ c : Call, (∀ id a, c ≠ .recordFailure id a) →
      t.respond c = ((t.answer c).1, some (t.answer c).2) := fun c => respond_eq_answer works
  have counted := answers (.stats due) fun _ _ => Call.noConfusion
  have looked := answers (.hasDue due) fun _ _ => Call.noConfusion
  have searched := answers (.selectDue due limit) fun _ _ => Call.noConfusion
  refine ⟨fun r => Row.status_eq_pending_iff, ?_, ?_, fun t' alike => alike.respond keyed⟩
  · have pending := pending_countRows due t.rows
    obtain ⟨chosen, selected, spec⟩ := keyed.selected_spec due limit
    refine ⟨countRows due t.rows, counted, total_countRows due t.rows, pending, ?_, chosen, ?_,
      pending ▸ spec⟩
    · rw [looked, pending, ← any_isDue_eq]
      rfl
    · rw [searched, selected]
      rfl
  · intro ids claim expiry distinct fresh lasts
    have claims := answers (.claim ids due claim expiry) fun _ _ => Call.noConfusion
    obtain ⟨count, rows, changed⟩ := keyed.claimed_spec distinct fresh due expiry
    have works' : (t.answer (.claim ids due claim expiry)).1.broken = false :=
      (broken_answer t _).trans works
    have fetched := respond_eq_answer works' (c := .fetchClaimed claim due.now)
      fun _ _ => Call.noConfusion
    rw [count] at claims
    exact ⟨_, _, claims, rows, changed, fetched, (keyed.answer _).pairwise_oldestFirst _,
      keyed.mem_fetched fresh lasts⟩

/-- Rows that were created at once: one is processed, one leased to the very instant, one has just
waited out its delay, and one has just come in. -/
def mixed : Table where
  rows :=
    [{ Row.sample 3 with notBefore := some .epoch, attempts := 1 },
      { Row.sample 4 with processed := some .epoch }, .sample 1,
      (Row.sample 2).heldBy "a/1" .epoch]

theorem due_readers_agree_mixed :
    (∃ stats, mixed.respond (.stats ⟨.epoch, 5⟩) = (mixed, some (.ok stats)) ∧ stats.total = 4 ∧
      stats.pending = 2 ∧ ∃ chosen : List Row, chosen.length = 1 ∧
        mixed.respond (.selectDue ⟨.epoch, 5⟩ 1) = (mixed, some (.ok (chosen.map Row.id)))) ∧
    ∃ t' batch, mixed.respond (.claim [.ofNat 2, .ofNat 3] ⟨.epoch, 5⟩ "b/1" .epoch) =
        (t', some (.ok 1)) ∧
      t'.respond (.fetchClaimed "b/1" .epoch) = (t', some (.ok batch)) ∧
      { Row.sample 3 with notBefore := some .epoch, attempts := 1 }.heldBy "b/1" .epoch ∈
        batch := by
  obtain ⟨-, ⟨stats, counted, total, pending, -, chosen, selected, length, -⟩, claims, -⟩ :=
    due_readers_agree (t := mixed) rfl (by unfold Keyed; decide) ⟨.epoch, 5⟩ 1
  obtain ⟨t', batch, claimed, -, -, fetched, -, mem⟩ := claims [.ofNat 2, .ofNat 3] "b/1" .epoch
    (by decide) (by decide) (by decide)
  have two : stats.pending = 2 := pending.trans (by decide)
  rw [two] at length
  exact ⟨⟨stats, counted, total, two, chosen, length, selected⟩, t', batch, claimed, fetched,
    (mem _).mpr ⟨_, .head _, by decide, by decide, rfl⟩⟩

end Table

end Relay
