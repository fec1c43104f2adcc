import Relay.Proofs.Table.Granted
import Mathlib.Data.List.Perm.Basic

/-!
# All rows at once

What a table that holds no two rows of one id does to the list of its rows, and the answers of the
calls as counts over that list: a call that adds no row has its effect on every row
(`Table.Keyed.rows_answer`), a change of one row is made when just one row passes its guard
(`Table.Keyed.updateLive_snd_eq`), a claim of different ids counts the rows that it takes
(`Table.Keyed.answer_claim`), and the rows of every status are counted one status at a time
(`Table.countRows_eq`). In what order the rows stand matters to none of them, nor to the rows that
are read, the oldest first (`Table.Keyed.oldestFirst_eq`).
-/

namespace Relay

/-- The number of rows of a status. -/
def Stats.count (s : Stats) : Status → Nat
  | .pending => s.pending
  | .backingOff => s.backingOff
  | .claimed => s.claimed
  | .processed => s.processed
  | .poisoned => s.poisoned
  | .stalled => s.stalled

theorem Stats.count_add (s : Stats) (x y : Status) :
    (s.add x).count y = s.count y + if x = y then 1 else 0 := by
  cases x <;> cases y <;> rfl

namespace Table

variable {t : Table} {id : Uuid} {r : Row}

/-- The rows of a status are counted with it. -/
theorem countRows_eq (due : Due) (rows : List Row) (x : Status) :
    (countRows due rows).count x = rows.countP fun r => r.status due = x := by
  have fold : ∀ s : Stats, (rows.foldl (fun s r => s.add (r.status due)) s).count x =
      s.count x + rows.countP fun r => r.status due = x := by
    induction rows with
    | nil => intro s; rfl
    | cons r rows ih =>
      intro s
      rw [List.foldl_cons, ih, Stats.count_add, List.countP_cons]
      simp only [decide_eq_true_eq]
      omega
  have zero : (({} : Stats).count x) = 0 := by cases x <;> rfl
  rw [countRows, fold, zero, Nat.zero_add]

/-! ## The row of an id among all rows -/

theorem Keyed.filter_id (keyed : t.Keyed) (id : Uuid) :
    (t.rows.filter fun r => r.id = id) = (t.find? id).toList := by
  have nodup : (t.rows.filter fun r => r.id = id).Nodup :=
    (List.Nodup.of_map Row.id keyed).filter _
  have mem : ∀ r, r ∈ (t.rows.filter fun r => r.id = id) ↔ r ∈ (t.find? id).toList := by
    intro r
    rw [List.mem_filter, decide_eq_true_eq, Option.mem_toList]
    constructor
    · rintro ⟨there, rfl⟩
      exact keyed.find?_eq there
    · intro there
      exact ⟨mem_of_find? there, id_of_find? there⟩
  have single : (t.find? id).toList.Nodup := by cases t.find? id <;> simp
  have perm := (List.perm_ext_iff_of_nodup nodup single).2 mem
  cases found : t.find? id with
  | none => simpa [found] using perm
  | some r => simpa [found] using perm

/-- One row is counted if it is there and passes, and otherwise none. -/
theorem Keyed.countP_id (keyed : t.Keyed) (id : Uuid) (p : Row → Bool) :
    (t.rows.countP fun r => r.id = id && p r) = if (t.find? id).any p then 1 else 0 := by
  have split : (t.rows.countP fun r => r.id = id && p r) =
      (t.rows.filter fun r => r.id = id).countP p := by
    rw [List.countP_filter]
    exact List.countP_congr fun r _ => by simp [and_comm]
  rw [split, keyed.filter_id]
  cases t.find? id with
  | none => rfl
  | some r => by_cases h : p r <;> simp [h]

/-! ## What a call does to all rows -/

/-- A table is its ids in their order, each with the row that is found under it. -/
theorem Keyed.rows_eq (keyed : t.Keyed) : t.rows = (t.rows.map Row.id).filterMap t.find? := by
  have found : ∀ r ∈ t.rows, t.find? r.id = some r := fun r there => keyed.find?_eq there
  calc t.rows = t.rows.filterMap some := List.filterMap_some.symm
    _ = t.rows.filterMap fun r => t.find? r.id :=
      List.filterMap_congr fun r there => (found r there).symm
    _ = (t.rows.map Row.id).filterMap t.find? := by rw [List.filterMap_map]; rfl

theorem ids_updateLive (t : Table) {f : Row → Option Row}
    (hf : ∀ r r', f r = some r' → r'.id = r.id) (id : Uuid) :
    (t.updateLive id f).1.rows.map Row.id = t.rows.map Row.id := by
  unfold updateLive
  split
  · rfl
  · rename_i found
    split
    · rfl
    · split
      · rfl
      · rename_i accepted
        exact ids_modify t fun _ _ => (hf _ _ accepted).trans (id_of_find? found)

theorem ids_foldl_claimOne (ids : List Uuid) (acc : Table × Nat) (due : Due) (claim : Claim)
    (expiry : Instant) :
    (ids.foldl (claimOne due claim expiry) acc).1.rows.map Row.id = acc.1.rows.map Row.id := by
  induction ids generalizing acc with
  | nil => rfl
  | cons id ids ih =>
    rw [List.foldl_cons, ih]
    unfold claimOne
    split
    · rfl
    · split
      · exact ids_modify acc.1 fun _ e => e
      · rfl

/-- A call that adds no row leaves the ids where they are. -/
theorem ids_answer (t : Table) {c : Call} (hc : ∀ row, c ≠ .insert row) :
    (t.answer c).1.rows.map Row.id = t.rows.map Row.id := by
  cases c with
  | insert row => exact absurd rfl (hc row)
  | claim ids due claim expiry => exact ids_foldl_claimOne ids (t, 0) due claim expiry
  | markProcessed id now =>
    simp only [answer]
    exact ids_updateLive t (fun r r' h => by cases h; rfl) id
  | markPoisoned id reason =>
    simp only [answer]
    exact ids_updateLive t (fun r r' h => by cases h; rfl) id
  | recordFailure id a =>
    simp only [answer]
    exact ids_updateLive t (fun r r' h => id_of_counted h) id
  | requeue id =>
    simp only [answer]
    split
    · rfl
    · split
      · exact ids_modify t fun _ e => e
      · rfl
  | hasDue | selectDue | fetchClaimed | get | stats => rfl

/-- **A call that adds no row has its effect on every row**, each where it stands. -/
theorem Keyed.rows_answer (keyed : t.Keyed) {c : Call} (hc : ∀ row, c ≠ .insert row) :
    (t.answer c).1.rows = t.rows.map c.effect := by
  have found : ∀ r ∈ t.rows, (t.answer c).1.find? r.id = some (c.effect r) := by
    intro r there
    rw [find?_answer_map t hc, keyed.find?_eq there, Option.map_some]
  calc (t.answer c).1.rows = (t.rows.map Row.id).filterMap (t.answer c).1.find? := by
        rw [← ids_answer t hc]
        exact (keyed.answer c).rows_eq
    _ = t.rows.filterMap fun r => (t.answer c).1.find? r.id := by rw [List.filterMap_map]; rfl
    _ = t.rows.filterMap fun r => some (c.effect r) := List.filterMap_congr found
    _ = t.rows.map c.effect := by rw [List.filterMap_eq_map']

theorem Keyed.answer_eq (keyed : t.Keyed) {c : Call} (hc : ∀ row, c ≠ .insert row) :
    (t.answer c).1 = { t with rows := t.rows.map c.effect } := by
  rw [← keyed.rows_answer hc, ← t.broken_answer c]

/-! ## Answers as counts -/

/-- A change of one row is made when just one row is alive and passes. -/
theorem Keyed.updateLive_snd_eq (keyed : t.Keyed) (id : Uuid) (f : Row → Option Row) :
    (t.updateLive id f).2 =
      decide ((t.rows.countP fun r => r.id = id && (!r.isTerminal && (f r).isSome)) = 1) := by
  rw [keyed.countP_id, Bool.eq_iff_iff, updateLive_snd, decide_eq_true_eq]
  cases t.find? id with
  | none => simp
  | some r => by_cases h : r.isTerminal <;> by_cases h' : (f r).isSome <;> simp [h, h']

theorem count_foldl_distinct (due : Due) (claim : Claim) (expiry : Instant) {ids : List Uuid}
    (distinct : ids.Nodup) (acc : Table × Nat) :
    (ids.foldl (claimOne due claim expiry) acc).2 =
      acc.2 + ids.countP fun id => (acc.1.find? id).any (·.isDue due) := by
  induction ids generalizing acc with
  | nil => rfl
  | cons x ids ih =>
    obtain ⟨new, distinct⟩ := List.nodup_cons.1 distinct
    -- the ids that follow find what they found before, as none of them is asked for twice
    have others : ∀ y ∈ ids, ((claimOne due claim expiry acc x).1.find? y).any (·.isDue due) =
        (acc.1.find? y).any (·.isDue due) := by
      intro y mem
      have ne : y ≠ x := fun e => new (e ▸ mem)
      rw [find?_claimOne_of_ne acc due claim expiry ne]
    have counted : (claimOne due claim expiry acc x).2 =
        acc.2 + if (acc.1.find? x).any (·.isDue due) then 1 else 0 := by
      unfold claimOne
      cases acc.1.find? x with
      | none => rfl
      | some r => by_cases h : r.isDue due <;> simp [h]
    rw [List.foldl_cons, ih distinct, counted, List.countP_cons,
      List.countP_congr fun y mem => by rw [others y mem]]
    omega

/-- **A claim of different ids counts the rows that it takes.** -/
theorem Keyed.answer_claim (keyed : t.Keyed) {ids : List Uuid} (distinct : ids.Nodup) (due : Due)
    (claim : Claim) (expiry : Instant) :
    (t.answer (.claim ids due claim expiry)).2 =
      .ok (t.rows.countP fun r => r.id ∈ ids && r.isDue due) := by
  have count : (t.answer (.claim ids due claim expiry)).2 =
      .ok (ids.foldl (claimOne due claim expiry) (t, 0)).2 := rfl
  rw [count, count_foldl_distinct due claim expiry distinct, Nat.zero_add,
    List.countP_eq_length_filter, List.countP_eq_length_filter, ← List.length_map (f := Row.id)]
  -- both count the ids that are asked for and due
  have nodup : ((t.rows.filter fun r => r.id ∈ ids && r.isDue due).map Row.id).Nodup :=
    keyed.sublist (List.filter_sublist.map _)
  refine congrArg Except.ok (List.Perm.length_eq
    ((List.perm_ext_iff_of_nodup (distinct.filter _) nodup).2 fun x => ?_))
  simp only [List.mem_filter, List.mem_map, Bool.and_eq_true, decide_eq_true_eq, Option.any_eq_true]
  constructor
  · rintro ⟨mem, r, there, isDue⟩
    obtain rfl := id_of_find? there
    exact ⟨r, ⟨mem_of_find? there, mem, isDue⟩, rfl⟩
  · rintro ⟨r, ⟨there, mem, isDue⟩, rfl⟩
    exact ⟨mem, r, keyed.find?_eq there, isDue⟩

end Table

/-! ## The oldest first -/

/-- Rows are ordered by the time of their creation and then by their ids. -/
theorem Row.precedes_iff {a b : Row} : a.precedes b ↔
    a.created.second < b.created.second ∨ a.created.second = b.created.second ∧
      (a.created.nanos < b.created.nanos ∨ a.created.nanos = b.created.nanos ∧
        a.id.toNat < b.id.toNat) := by
  have same : a.created = b.created ↔
      a.created.second = b.created.second ∧ a.created.nanos = b.created.nanos :=
    ⟨fun e => ⟨congrArg _ e, congrArg _ e⟩, fun e => Instant.ext_parts e.1 e.2⟩
  have before : a.id < b.id ↔ a.id.toNat < b.id.toNat := Iff.rfl
  simp only [precedes, Bool.or_eq_true, Bool.and_eq_true, decide_eq_true_eq, same, before,
    Instant.lt_iff]
  omega

namespace Table

variable {t : Table}

theorem sorted_oldestFirst (rows : List Row) :
    (oldestFirst rows).Pairwise fun a b => (!b.precedes a) = true := by
  refine List.pairwise_mergeSort (fun a b c h h' => ?_) (fun a b => ?_) rows
  · simp only [Bool.not_eq_true', ← Bool.not_eq_true, Row.precedes_iff] at *
    omega
  · simp only [Bool.or_eq_true, Bool.not_eq_true', ← Bool.not_eq_true, Row.precedes_iff]
    omega

/-- Rows of different ids are read in one order, however they stand. -/
theorem Keyed.oldestFirst_eq (keyed : t.Keyed) {rows rows' : List Row} (perm : rows.Perm rows')
    (there : ∀ r ∈ rows, r ∈ t.rows) : oldestFirst rows = oldestFirst rows' := by
  have sorted := sorted_oldestFirst rows
  have sorted' := sorted_oldestFirst rows'
  have perm' : (oldestFirst rows).Perm (oldestFirst rows') :=
    ((List.mergeSort_perm rows _).trans perm).trans (List.mergeSort_perm rows' _).symm
  refine perm'.eq_of_pairwise (fun a b mem mem' h h' => ?_) sorted sorted'
  have inRows : a ∈ t.rows := there a ((List.mergeSort_perm rows _).mem_iff.1 mem)
  have inRows' : b ∈ t.rows :=
    there b (perm.mem_iff.2 ((List.mergeSort_perm rows' _).mem_iff.1 mem'))
  simp only [Bool.not_eq_true', ← Bool.not_eq_true, Row.precedes_iff] at h h'
  exact List.inj_on_of_nodup_map keyed inRows inRows' (Uuid.ext_toNat (by omega))

end Table

end Relay
