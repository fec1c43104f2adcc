import Relay.Proofs.Database.Codec
import Relay.Proofs.Database.Dialogue
import Relay.Proofs.Table.Rows
import Mathlib.Logic.Function.Basic

/-!
# A store in a database is a table

`Contents` is a database that holds a table of tuples for every outbox and performs each query at
once. The dialogue of a call with a database that holds the rows of a `Table`, in whatever order,
ends as the table answers, and leaves the rows of the table after the call in the database. This is
so for every call but `insert`, as long as what is stored and sent comes back as it is: attempts
that fit their column, and instants of whole microseconds outside leap seconds
(`Row.IsStorable`, `Call.Fits`).
-/

namespace Relay

/-! ## A database -/

/-- What a database holds: the tuples of the table of every outbox. -/
abbrev Contents := Outbox → List Tuple

namespace Contents

/-- A database performs a query at once. -/
def serve (db : Contents) (q : Query) : Contents × Reply :=
  (Function.update db q.outbox (q.effect (db q.outbox)).1, (q.effect (db q.outbox)).2)

/-- The rows of a table are in the table of an outbox, in whatever order. -/
def Holds (db : Contents) (o : Outbox) (t : Table) : Prop :=
  ∃ rows : List Row, rows.Perm t.rows ∧ db o = rows.map Row.datum

end Contents

/-- A dialogue with a database ends so, with the rows of a table in the table of an outbox and the
tables of all others as they were. -/
structure Dialogue.Yields {α : Type} (d : Dialogue α) (db : Contents) (o : Outbox) (t : Table)
    (a : α) : Prop where
  answer : (d.outcome Contents.serve db).2 = a
  holds : (d.outcome Contents.serve db).1.Holds o t
  others : ∀ x, x ≠ o → (d.outcome Contents.serve db).1 x = db x

namespace Dialogue

variable {α β : Type} {db : Contents} {o : Outbox} {t t' : Table}

theorem Yields.done (holds : db.Holds o t) (a : α) : (done a).Yields db o t a where
  answer := rfl
  holds := holds
  others _ _ := rfl

theorem Yields.bind {d : Dialogue α} {f : α → Dialogue β} {a : α} {b : β} (h : d.Yields db o t a)
    (next : ∀ db' : Contents, db'.Holds o t → (f a).Yields db' o t' b) :
    (d.bind f).Yields db o t' b := by
  obtain ⟨rfl, holds, others⟩ := h
  have after := next _ holds
  constructor
  · rw [outcome_bind]
    exact after.answer
  · rw [outcome_bind]
    exact after.holds
  · intro x ne
    rw [outcome_bind, after.others x ne, others x ne]

theorem Yields.observed {c : Call} {d : Dialogue (Except StoreError c.Result)}
    {a : Except StoreError c.Result} (h : d.Yields db o t a) :
    (Database.observed o c d).Yields db o t a := by
  have same : (Database.observed o c d).outcome Contents.serve db =
      d.outcome Contents.serve db := by
    unfold Database.observed
    split
    · exact outcome_within _ _ _ _
    · rfl
  exact ⟨by rw [same, h.answer], by rw [same]; exact h.holds, by rw [same]; exact h.others⟩

/-- A statement does to the tuples of the rows what is done to the rows. -/
theorem Yields.performed {c : Call} {read : Reply → Except DatabaseFault α}
    {a : Except StoreError α} (ho : (Database.query o c).outbox = o) (holds : db.Holds o t)
    (h : ∀ rows : List Row, rows.Perm t.rows →
      ∃ (rows' : List Row) (reply : Reply), rows'.Perm t'.rows ∧
      (Database.query o c).effect (rows.map Row.datum) = (rows'.map Row.datum, reply) ∧
      (read reply).mapError (·.toStoreError c.operation) = a) :
    (Database.performed o c read).Yields db o t' a := by
  obtain ⟨rows, perm, there⟩ := holds
  obtain ⟨rows', reply, perm', effect, answer⟩ := h rows perm
  have served : db.serve (Database.query o c) =
      (Function.update db o (rows'.map Row.datum), reply) := by
    rw [Contents.serve, ho, there, effect]
  constructor
  · rw [Database.performed, perform, outcome_ask, served, outcome_done]
    exact answer
  · rw [Database.performed, perform, outcome_ask, served, outcome_done]
    exact ⟨rows', perm', Function.update_self ..⟩
  · intro x ne
    rw [Database.performed, perform, outcome_ask, served, outcome_done]
    exact Function.update_of_ne ne ..

end Dialogue

namespace Database

open Dialogue

/-- Every statement of a call is about the table of its outbox. -/
@[simp] theorem outbox_query (o : Outbox) (c : Call) : (query o c).outbox = o := by
  cases c <;> rfl

section Statements

variable {α : Type} {db : Contents} {o : Outbox} {t : Table} {c : Call} {p : Row → Bool}
  {cond : Condition} {ps : List Datum}

/-- The tuples that a statement takes are those of the rows that pass. -/
theorem filter_takes {rows : List Row} (takes : ∀ r ∈ rows, cond.takes ps r.datum = p r) :
    (rows.map Row.datum).filter (cond.takes ps) = (rows.filter p).map Row.datum := by
  rw [List.filter_map]
  exact congrArg _ (List.filter_congr takes)

theorem any_takes {rows : List Row} (takes : ∀ r ∈ rows, cond.takes ps r.datum = p r) :
    (rows.map Row.datum).any (cond.takes ps) = rows.any p := by
  rw [List.any_map, Bool.eq_iff_iff, List.any_eq_true, List.any_eq_true]
  exact exists_congr fun r => and_congr_right fun mem => by rw [Function.comp_apply, takes r mem]

theorem countP_takes {rows : List Row} (takes : ∀ r ∈ rows, cond.takes ps r.datum = p r) :
    (rows.map Row.datum).countP (cond.takes ps) = rows.countP p := by
  rw [List.countP_map]
  exact List.countP_congr fun r mem => by rw [Function.comp_apply, takes r mem]

/-- A statement that changes tuples changes the rows that pass as the call does. -/
theorem yields_update {read : Reply → Except DatabaseFault α} {changes : List (Column × Term)}
    (hq : query o c = ⟨o, .update changes cond, ps⟩) (hc : ∀ row, c ≠ .insert row)
    (keyed : t.Keyed) (holds : db.Holds o t)
    (takes : ∀ r ∈ t.rows, cond.takes ps r.datum = p r)
    (taken : ∀ r, p r → Tuple.change ps changes r.datum = (c.effect r).datum)
    (spared : ∀ r, p r = false → c.effect r = r) :
    (performed o c read).Yields db o (t.answer c).1
      ((read (.changed (t.rows.countP p))).mapError (·.toStoreError c.operation)) := by
  refine Yields.performed (outbox_query o c) holds fun rows perm => ?_
  have takes' : ∀ r ∈ rows, cond.takes ps r.datum = p r := fun r mem =>
    takes r (perm.mem_iff.1 mem)
  refine ⟨rows.map c.effect, .changed (t.rows.countP p), ?_, ?_, rfl⟩
  · rw [keyed.rows_answer hc]
    exact perm.map _
  · have changed : ∀ r ∈ rows, (if cond.takes ps r.datum then Tuple.change ps changes r.datum
        else r.datum) = (c.effect r).datum := by
      intro r mem
      rw [takes' r mem]
      cases passes : p r with
      | true => rw [if_pos rfl, taken r passes]
      | false => rw [if_neg Bool.false_ne_true, spared r passes]
    rw [hq, Query.effect]
    simp only [countP_takes takes', perm.countP_eq, List.map_map]
    exact congrArg (·, _) (List.map_congr_left changed)

/-- A statement that reads tuples leaves them as they are. -/
theorem yields_read {read : Reply → Except DatabaseFault α} {a : Except StoreError α}
    (holds : db.Holds o t)
    (h : ∀ rows : List Row, rows.Perm t.rows → ∃ reply : Reply,
      (query o c).effect (rows.map Row.datum) = (rows.map Row.datum, reply) ∧
      (read reply).mapError (·.toStoreError c.operation) = a) :
    (performed o c read).Yields db o t a := by
  refine Yields.performed (outbox_query o c) holds fun rows perm => ?_
  obtain ⟨reply, effect, answer⟩ := h rows perm
  exact ⟨rows, reply, perm, effect, answer⟩

end Statements

/-! ## Reading -/

/-- Tuples are ordered as their rows are. -/
theorem inOrder_datum {r s : Row} (hr : r.IsStorable) (hs : s.IsStorable) :
    Tuple.inOrder r.datum s.datum = !s.precedes r := by
  have created : (r.datum .created).order (s.datum .created) =
      some (orderOf r.created s.created) := by
    rw [Row.datum, Row.datum, Datum.ofInstant_eq hr.created, Datum.ofInstant_eq hs.created]
    rfl
  have id : (r.datum .id).order (s.datum .id) = some (orderOf r.id.toNat s.id.toNat) := rfl
  rw [Bool.eq_iff_iff, Bool.not_eq_true', ← Bool.not_eq_true, Row.precedes_iff, Tuple.inOrder,
    created, id]
  rcases orderOf_cases r.created s.created with ⟨less, e⟩ | ⟨-, same, e⟩ | ⟨less, ne, e⟩
  · rw [Instant.lt_iff] at less
    simp [e]
    omega
  · have second := congrArg Instant.second same
    have nanos := congrArg Instant.nanos same
    rcases orderOf_cases r.id.toNat s.id.toNat with ⟨less, e'⟩ | ⟨-, same', e'⟩ | ⟨less, ne, e'⟩ <;>
      simp [e, e'] <;> omega
  · have more : s.created < r.created := by
      refine (Instant.not_le.1 fun h => ?_)
      exact (Instant.lt_or_eq_iff.2 h).elim less ne
    rw [Instant.lt_iff] at more
    simp [e]
    omega

/-- The tuples that a statement takes come in the order of the rows. -/
theorem sorted_takes {t : Table} {cond : Condition} {ps : List Datum} {p : Row → Bool}
    (keyed : t.Keyed) (stored : ∀ r ∈ t.rows, r.IsStorable) {rows : List Row}
    (perm : rows.Perm t.rows) (takes : ∀ r ∈ t.rows, cond.takes ps r.datum = p r) :
    ((rows.map Row.datum).filter (cond.takes ps)).mergeSort Tuple.inOrder =
      (Table.oldestFirst (t.rows.filter p)).map Row.datum := by
  have there : ∀ r ∈ rows.filter p, r ∈ t.rows := fun r mem =>
    perm.mem_iff.1 (List.mem_of_mem_filter mem)
  have ordered : ∀ r ∈ rows.filter p, ∀ s ∈ rows.filter p,
      (!s.precedes r) = Tuple.inOrder r.datum s.datum := fun r hr s hs =>
    (inOrder_datum (stored r (there r hr)) (stored s (there s hs))).symm
  rw [filter_takes fun r mem => takes r (perm.mem_iff.1 mem), ← List.map_mergeSort ordered]
  exact congrArg (List.map Row.datum) (keyed.oldestFirst_eq (perm.filter p) there)

/-- A statement that selects tuples returns those of the rows that pass, in their order. -/
theorem yields_select {α : Type} {db : Contents} {o : Outbox} {t : Table} {c : Call}
    {p : Row → Bool} {cond : Condition} {ps : List Datum} {columns : List Column}
    {limit : Option Nat} {read : Reply → Except DatabaseFault α} {a : Except StoreError α}
    (hq : query o c = ⟨o, .select columns cond limit, ps⟩) (keyed : t.Keyed)
    (stored : ∀ r ∈ t.rows, r.IsStorable) (holds : db.Holds o t)
    (takes : ∀ r ∈ t.rows, cond.takes ps r.datum = p r)
    (reads : (read (.returned
      ((firstOf ps limit ((Table.oldestFirst (t.rows.filter p)).map Row.datum)).map
        (Tuple.record columns)))).mapError (·.toStoreError c.operation) = a) :
    (performed o c read).Yields db o t a := by
  refine yields_read holds fun rows perm => ⟨_, ?_, reads⟩
  rw [hq, Query.effect, ← sorted_takes keyed stored perm takes]

/-! ## The calls -/

variable {db : Contents} {o : Outbox} {t : Table}

theorem yields_hasDue (stored : ∀ r ∈ t.rows, r.IsStorable) (holds : db.Holds o t) {due : Due}
    (sent : due.IsStorable) :
    (respond o (.hasDue due)).Yields db o t (.ok (t.rows.any (·.isDue due))) := by
  refine Yields.observed (c := .hasDue due) (yields_read holds fun rows perm => ⟨_, rfl, ?_⟩)
  have takes : ∀ r ∈ rows, Condition.due.takes (dueData due) r.datum = r.isDue due := by
    intro r mem
    have due_ := Condition.takes_due (stored r (perm.mem_iff.1 mem)) sent []
    rwa [List.append_nil] at due_
  have any : (rows.map Row.datum).any (Condition.due.takes (dueData due)) =
      t.rows.any (·.isDue due) := by
    rw [any_takes takes, perm.any_eq]
  rw [← any]
  rfl

/-- The ids of due rows are read in their order, as many as are asked for. -/
theorem yields_selectDue (keyed : t.Keyed) (stored : ∀ r ∈ t.rows, r.IsStorable)
    (holds : db.Holds o t) {due : Due} (sent : due.IsStorable) {limit : Nat}
    (room : min limit t.rows.length ≤ mostRows) :
    (respond o (.selectDue due limit)).Yields db o t
      (.ok (((Table.oldestFirst (t.rows.filter (·.isDue due))).take limit).map Row.id)) := by
  refine Yields.observed (c := .selectDue due limit)
    (yields_select rfl keyed stored holds (p := (·.isDue due))
      (fun r mem => Condition.takes_due (stored r mem) sent _) ?_)
  have first : ∀ xs : List Tuple, firstOf (dueData due ++ [.integer (min limit mostRows)])
      (some 3) xs = xs.take (min limit mostRows) := fun xs =>
    congrArg (xs.take ·) (by omega : (min (limit : Int) mostRows).toNat = min limit mostRows)
  have short : (Table.oldestFirst (t.rows.filter (·.isDue due))).length ≤ t.rows.length := by
    rw [Table.oldestFirst, List.length_mergeSort]
    exact List.length_filter_le _ _
  have enough : (Table.oldestFirst (t.rows.filter (·.isDue due))).take (min limit mostRows) =
      (Table.oldestFirst (t.rows.filter (·.isDue due))).take limit :=
    List.take_eq_take_iff.2 (by omega)
  have ids : ∀ l : List Row, ((l.map Row.datum).map (Tuple.record [.id])).mapM
      (fun record => record.value Column.id.text .uuid) = .ok (l.map Row.id) := by
    intro l
    rw [List.map_map, List.mapM_map]
    exact mapM_ok fun r _ =>
      Record.value_record (c := .id) (x := r.datum) (List.mem_singleton.2 rfl) rfl
  rw [first, ← List.map_take, enough]
  exact congrArg (Except.mapError _) (ids _)

/-- Records of rows are read as the rows. -/
theorem readRows_record {rows : List Row} (stored : ∀ r ∈ rows, r.IsStorable) :
    readRows (.ok ((rows.map Row.datum).map (Tuple.record Column.all))) = .ok rows := by
  have records : (rows.map Row.datum).map (Tuple.record Column.all) = rows.map Row.record := by
    rw [List.map_map]
    rfl
  have read : (rows.map Row.record).mapM Row.ofStored = .ok (rows.map fun r => r) := by
    rw [List.mapM_map]
    refine mapM_ok fun r mem => ?_
    rw [Function.comp_apply, Row.ofStored_record (stored r mem)]
  rw [List.map_id'] at read
  rw [records]
  exact read

theorem yields_fetchClaimed (keyed : t.Keyed) (stored : ∀ r ∈ t.rows, r.IsStorable)
    (holds : db.Holds o t) (claim : Claim) {now : Instant} (sent : now.IsStorable) :
    (respond o (.fetchClaimed claim now)).Yields db o t
      (.ok (Table.oldestFirst (t.rows.filter (·.isClaimedBy claim now)))) := by
  have all : ∀ xs : List Tuple, firstOf [.text claim, .ofInstant now] none xs = xs := fun _ => rfl
  have read : (performed o (.fetchClaimed claim now) Reply.records).Yields db o t
      (.ok (((Table.oldestFirst (t.rows.filter (·.isClaimedBy claim now))).map Row.datum).map
        (Tuple.record Column.all))) := by
    refine yields_select rfl keyed stored holds
      (fun r mem => Condition.takes_held (stored r mem) sent claim) ?_
    rw [all]
    rfl
  refine Yields.observed (c := .fetchClaimed claim now) (read.bind fun db' holds' => ?_)
  rw [readRows_record fun r mem => stored r ?_]
  · exact Yields.done holds' _
  · exact List.mem_of_mem_filter ((List.mergeSort_perm _ _).mem_iff.1 mem)

/-- The row of an id is looked up. -/
theorem yields_lookUp (keyed : t.Keyed) (stored : ∀ r ∈ t.rows, r.IsStorable)
    (holds : db.Holds o t) (id : Uuid) : (lookUp o id).Yields db o t (.ok (t.find? id)) := by
  have read : (performed o (.get id) Reply.records).Yields db o t
      (.ok (((t.find? id).toList.map Row.datum).map (Tuple.record Column.all))) := by
    refine yields_read holds fun rows perm => ⟨_, rfl, ?_⟩
    have single : rows.filter (fun r => r.id = id) = (t.find? id).toList := by
      have same := perm.filter fun r => decide (r.id = id)
      rw [keyed.filter_id] at same
      cases found : t.find? id with
      | none => simpa [found] using same
      | some r => simpa [found] using same
    have takes : ∀ r ∈ rows, Condition.chosen.takes [.uuid id] r.datum = decide (r.id = id) :=
      fun r _ => Condition.takes_chosen rfl
    rw [← single, ← filter_takes takes]
    rfl
  have first : (readRows (.ok ((((t.find? id).toList.map Row.datum).map
      (Tuple.record Column.all)).take 1))).map List.head? = .ok (t.find? id) := by
    have stored' : ∀ r ∈ (t.find? id).toList, r.IsStorable := fun r mem =>
      stored r (Table.mem_of_find? (Option.mem_toList.1 mem))
    have whole : (((t.find? id).toList.map Row.datum).map (Tuple.record Column.all)).take 1 =
        ((t.find? id).toList.map Row.datum).map (Tuple.record Column.all) := by
      cases t.find? id <;> rfl
    rw [whole, readRows_record stored']
    cases t.find? id <;> rfl
  refine Yields.observed (c := .get id) (read.bind fun db' holds' => ?_)
  exact first ▸ Yields.done holds' _

/-- The statuses in the order of their counts. -/
def statuses : List Status := [.processed, .poisoned, .stalled, .claimed, .backingOff, .pending]

theorem name_inj (s s' : Status) (h : s.name = s'.name) : s = s' := by
  cases s <;> cases s' <;> first | rfl | exact absurd h (by decide)

theorem readCount_statuses {n : Status → Nat} (s : Status) :
    readCount ⟨statuses.map fun s => (s.name, .bigint), statuses.map fun s => .integer (n s)⟩ s =
      .ok (n s) := by
  have mem : s ∈ statuses := by cases s <;> decide
  have found := Record.find?_of_names name_inj (fun _ => .bigint) (fun s => .integer (n s)) mem
  have value : Record.value ⟨statuses.map fun s => (s.name, .bigint),
      statuses.map fun s => .integer (n s)⟩ s.name .bigint = .ok (n s : Int) := by
    rw [Record.value, found]
    rfl
  exact bind_ok value rfl

/-- The counts of a record are read by the names of the statuses. -/
theorem readStats_tallied {xs : List Tuple} {ps : List Datum} {s : Stats}
    (counted : ∀ x, xs.countP ((Condition.tallied x).takes ps) = s.count x) :
    readStats ⟨tallies.map fun t => (t.name, .bigint),
      tallies.map fun t => .integer (xs.countP (t.condition.takes ps))⟩ = .ok s := by
  have record : (⟨tallies.map fun t => (t.name, .bigint),
      tallies.map fun t => .integer (xs.countP (t.condition.takes ps))⟩ : Record) =
      ⟨statuses.map fun s => (s.name, .bigint), statuses.map fun x => .integer (s.count x)⟩ := by
    have values : tallies.map (fun t => Datum.integer (xs.countP (t.condition.takes ps))) =
        statuses.map fun x => .integer (xs.countP ((Condition.tallied x).takes ps)) := rfl
    rw [values]
    simp only [counted]
    rfl
  rw [record]
  exact bind_ok (readCount_statuses .pending) (bind_ok (readCount_statuses .backingOff)
    (bind_ok (readCount_statuses .claimed) (bind_ok (readCount_statuses .processed)
    (bind_ok (readCount_statuses .poisoned) (bind_ok (readCount_statuses .stalled) rfl)))))

/-- The counts of the rows of every status. -/
theorem yields_stats (stored : ∀ r ∈ t.rows, r.IsStorable) (holds : db.Holds o t) {due : Due}
    (sent : due.IsStorable) :
    (respond o (.stats due)).Yields db o t (.ok (Table.countRows due t.rows)) := by
  refine Yields.observed (c := .stats due) (yields_read holds fun rows perm => ⟨_, rfl, ?_⟩)
  have counted : ∀ s : Status, (rows.map Row.datum).countP
      ((Condition.tallied s).takes (dueData due)) = (Table.countRows due t.rows).count s := by
    intro s
    have takes : ∀ r ∈ rows, (Condition.tallied s).takes (dueData due) r.datum =
        decide (r.status due = s) := fun r mem =>
      Condition.takes_tallied (stored r (perm.mem_iff.1 mem)) sent s
    rw [countP_takes takes, perm.countP_eq, Table.countRows_eq]
  exact congrArg (Except.mapError _) (readStats_tallied counted)

theorem yields_markProcessed (keyed : t.Keyed) (holds : db.Holds o t) (id : Uuid) (now : Instant) :
    (respond o (.markProcessed id now)).Yields db o (t.answer (.markProcessed id now)).1
      (t.answer (.markProcessed id now)).2 := by
  have answer : (t.answer (.markProcessed id now)).2 = .ok
      (decide ((t.rows.countP fun r => r.id = id && !r.isTerminal) = 1)) := by
    have counted := keyed.updateLive_snd_eq id fun r => some { r with processed := some now }
    simp only [Option.isSome_some, Bool.and_true] at counted
    rw [← counted]
    rfl
  rw [answer]
  refine Yields.observed (c := .markProcessed id now)
    (yields_update rfl (fun _ => nofun) keyed holds
      (fun r _ => Condition.takes_liveChosen rfl) (fun r passes => ?_) fun r fails => ?_)
  · simp only [Bool.and_eq_true, decide_eq_true_eq, Bool.not_eq_true'] at passes
    rw [Call.effect, if_pos passes]
    funext c
    cases c <;> rfl
  · refine if_neg fun h => ?_
    rw [h.1, h.2] at fails
    simp at fails

theorem yields_markPoisoned (keyed : t.Keyed) (holds : db.Holds o t) (id : Uuid)
    (reason : String) :
    (respond o (.markPoisoned id reason)).Yields db o (t.answer (.markPoisoned id reason)).1
      (t.answer (.markPoisoned id reason)).2 := by
  have answer : (t.answer (.markPoisoned id reason)).2 = .ok
      (decide ((t.rows.countP fun r => r.id = id && !r.isTerminal) = 1)) := by
    have counted := keyed.updateLive_snd_eq id fun r =>
      some { r with poisoned := true, lastError := some reason }
    simp only [Option.isSome_some, Bool.and_true] at counted
    rw [← counted]
    rfl
  rw [answer]
  refine Yields.observed (c := .markPoisoned id reason)
    (yields_update rfl (fun _ => nofun) keyed holds
      (fun r _ => Condition.takes_liveChosen rfl) (fun r passes => ?_) fun r fails => ?_)
  · simp only [Bool.and_eq_true, decide_eq_true_eq, Bool.not_eq_true'] at passes
    rw [Call.effect, if_pos passes]
    funext c
    cases c <;> rfl
  · refine if_neg fun h => ?_
    rw [h.1, h.2] at fails
    simp at fails

/-- A failed attempt is recorded for a row that had no other one since. -/
theorem yields_recordFailure (keyed : t.Keyed) (stored : ∀ r ∈ t.rows, r.IsStorable)
    (holds : db.Holds o t) (id : Uuid) {a : Attempt}
    (fits : a.previous.toNat < mostStoredAttempts) :
    (respond o (.recordFailure id a)).Yields db o (t.answer (.recordFailure id a)).1
      (t.answer (.recordFailure id a)).2 := by
  have answer : (t.answer (.recordFailure id a)).2 = .ok
      (decide ((t.rows.countP fun r =>
        r.id = id && (!r.isTerminal && decide (r.attempts = a.previous))) = 1)) := by
    have counted := keyed.updateLive_snd_eq id fun r =>
      if r.attempts = a.previous then some (Table.failed a r) else none
    have passes : ∀ r : Row, (if r.attempts = a.previous then some (Table.failed a r)
        else none).isSome = decide (r.attempts = a.previous) := by
      intro r
      by_cases h : r.attempts = a.previous <;> simp [h]
    simp only [passes] at counted
    rw [← counted]
    rfl
  have takes : ∀ r ∈ t.rows, (Condition.and .chosen (.and (.compares .attempts .equal
      (.parameter 2)) .live)).takes (query o (.recordFailure id a)).parameters r.datum =
      (r.id = id && (!r.isTerminal && decide (r.attempts = a.previous))) := by
    intro r mem
    have sent : Term.value (query o (.recordFailure id a)).parameters (.parameter 2) =
        .integer a.previous.toNat := attemptsDatum_eq (Nat.le_of_lt fits)
    have same : (r.attempts.toNat : Int) = a.previous.toNat ↔ r.attempts = a.previous := by
      rw [Int.natCast_inj, UInt32.toNat_inj]
    rw [Condition.takes_and, Condition.takes_and, Condition.takes_chosen rfl,
      Condition.takes_attempts (stored r mem) sent, Condition.takes_live,
      admits_equal Int.lt_irrefl, Bool.and_comm _ (!r.isTerminal)]
    simp only [same]
  rw [answer]
  refine Yields.observed (c := .recordFailure id a)
    (yields_update rfl (fun _ => nofun) keyed holds takes (fun r passes => ?_) fun r fails => ?_)
  · simp only [Bool.and_eq_true, decide_eq_true_eq, Bool.not_eq_true'] at passes
    rw [Call.effect, if_pos passes]
    funext c
    have more : (a.previous + 1).toNat = a.previous.toNat + 1 := by
      rw [UInt32.toNat_add]
      simp only [mostStoredAttempts] at fits
      simp
      omega
    cases c with
    | attempts =>
      show Datum.integer _ = attemptsDatum (a.previous + 1)
      rw [attemptsDatum, more]
      rfl
    | id | name | version | tenant | username | occurred | correlation | causation | traceId
    | parentSpan | traceFlags | traceState | payload | created | processed | notBefore | claimedBy
    | claimedUntil | poisoned | lastError => rfl
  · refine if_neg fun h => ?_
    rw [h.1, h.2.1, h.2.2] at fails
    simp at fails

/-- The rows that are asked for are claimed if they are due. -/
theorem yields_claim (keyed : t.Keyed) (stored : ∀ r ∈ t.rows, r.IsStorable)
    (holds : db.Holds o t) {ids : List Uuid} (distinct : ids.Nodup) {due : Due}
    (sent : due.IsStorable) (claim : Claim) (expiry : Instant) :
    (respond o (.claim ids due claim expiry)).Yields db o
      (t.answer (.claim ids due claim expiry)).1 (t.answer (.claim ids due claim expiry)).2 := by
  by_cases none : ids = []
  · subst none
    exact Yields.observed (c := .claim [] due claim expiry) (Yields.done holds _)
  · have some_ : ids.isEmpty = false := by simpa using none
    rw [keyed.answer_claim distinct]
    refine Yields.observed (c := .claim ids due claim expiry) ?_
    rw [some_]
    refine yields_update rfl (fun _ => nofun) keyed holds (fun r mem => ?_) (fun r passes => ?_)
      fun r fails => ?_
    · rw [Condition.takes_and, Condition.takes_among rfl rfl,
        Condition.takes_due (stored r mem) sent]
    · simp only [Bool.and_eq_true, decide_eq_true_eq] at passes
      rw [Call.effect, if_pos passes]
      funext c
      cases c <;> rfl
    · refine if_neg fun h => ?_
      simp [h.1, h.2] at fails

/-- A row that has nothing to be given back is looked for. -/
theorem yields_requeue (keyed : t.Keyed) (stored : ∀ r ∈ t.rows, r.IsStorable)
    (holds : db.Holds o t) (id : Uuid) :
    (respond o (.requeue id)).Yields db o (t.answer (.requeue id)).1
      (t.answer (.requeue id)).2 := by
  have update : (performed o (.requeue id) changedOne).Yields db o (t.answer (.requeue id)).1
      (.ok (decide ((t.rows.countP fun r => r.id = id && Table.isRenewable r) = 1))) := by
    refine yields_update rfl (fun _ => nofun) keyed holds
      (fun r mem => Condition.takes_renewable (stored r mem) id) (fun r passes => ?_)
      fun r fails => ?_
    · simp only [Bool.and_eq_true, decide_eq_true_eq] at passes
      rw [Call.effect, if_pos passes]
      funext c
      cases c <;> rfl
    · refine if_neg fun h => ?_
      simp [h.1, h.2] at fails
  have looked := fun (db' : Contents) (holds' : db'.Holds o t) =>
    yields_lookUp keyed stored holds' id
  refine Yields.observed (c := .requeue id) (update.bind fun db' holds' => ?_)
  rw [keyed.countP_id]
  cases found : t.find? id with
  | none =>
    have answer : t.answer (.requeue id) = (t, .error (.notFound id)) := by
      simp [Table.answer, found]
    rw [answer] at holds' ⊢
    exact (found ▸ looked db' holds').bind fun _ holds'' => Yields.done holds'' _
  | some r =>
    cases renewable : Table.isRenewable r with
    | true =>
      have answer : (t.answer (.requeue id)).2 = .ok true := by
        simp [Table.answer, found, renewable]
      rw [answer, Option.any_some, renewable]
      exact Yields.done holds' _
    | false =>
      have answer : t.answer (.requeue id) = (t, .ok false) := by
        simp [Table.answer, found, renewable]
      rw [answer] at holds' ⊢
      rw [Option.any_some, renewable]
      exact (found ▸ looked db' holds').bind fun _ holds'' => Yields.done holds'' _

end Database

/-! ## All calls -/

/-- What a call sends comes back as it is, and its answer fits a statement. -/
def Call.Fits (t : Table) : Call → Prop
  | .insert _ => False
  | .hasDue due | .stats due => due.IsStorable
  | .selectDue due limit => due.IsStorable ∧ min limit t.rows.length ≤ Database.mostRows
  | .claim ids due _ expiry => due.IsStorable ∧ expiry.IsStorable ∧ ids.Nodup
  | .fetchClaimed _ now | .markProcessed _ now => now.IsStorable
  | .recordFailure _ a =>
    a.previous.toNat < mostStoredAttempts ∧ ∀ until_ ∈ a.retryAt, until_.IsStorable
  | .get _ | .markPoisoned _ _ | .requeue _ => True

/-- A call that fits leaves a row that is stored as it is. -/
theorem Row.IsStorable.effect {t : Table} {r : Row} {c : Call} (h : r.IsStorable)
    (fits : c.Fits t) : (c.effect r).IsStorable := by
  cases c with
  | insert row => exact fits.elim
  | claim ids due claim expiry =>
    simp only [Call.effect]
    split
    · exact { h with claimedUntil := fun x e => Option.some.inj e ▸ fits.2.1 }
    · exact h
  | markProcessed id now =>
    simp only [Call.effect]
    split
    · exact { h with processed := fun x e => Option.some.inj e ▸ fits }
    · exact h
  | markPoisoned id reason =>
    simp only [Call.effect]
    split
    · exact { h with }
    · exact h
  | recordFailure id a =>
    have counted : (a.previous + 1).toNat ≤ mostStoredAttempts := by
      have less := fits.1
      rw [UInt32.toNat_add, UInt32.toNat_one]
      omega
    simp only [Call.effect]
    split
    · exact { h with attempts := counted, notBefore := fits.2 }
    · exact h
  | requeue id =>
    simp only [Call.effect]
    split
    · have none : ∀ x ∈ (none : Option Instant), x.IsStorable := fun x e => by cases e
      exact { h with attempts := Nat.zero_le _, notBefore := none, claimedUntil := none }
    · exact h
  | hasDue | selectDue | fetchClaimed | get | stats => exact h

namespace Database

theorem yields_respond {db : Contents} {o : Outbox} {t : Table} {c : Call} (keyed : t.Keyed)
    (stored : ∀ r ∈ t.rows, r.IsStorable) (holds : db.Holds o t) (fits : c.Fits t) :
    (respond o c).Yields db o (t.answer c).1 (t.answer c).2 := by
  cases c with
  | insert row => exact fits.elim
  | hasDue due => exact yields_hasDue stored holds fits
  | selectDue due limit => exact yields_selectDue keyed stored holds fits.1 fits.2
  | claim ids due claim expiry =>
    exact yields_claim keyed stored holds fits.2.2 fits.1 claim expiry
  | fetchClaimed claim now => exact yields_fetchClaimed keyed stored holds claim fits
  | get id => exact yields_lookUp keyed stored holds id
  | markProcessed id now => exact yields_markProcessed keyed holds id now
  | markPoisoned id reason => exact yields_markPoisoned keyed holds id reason
  | recordFailure id a => exact yields_recordFailure keyed stored holds id fits.1
  | stats due => exact yields_stats stored holds fits
  | requeue id => exact yields_requeue keyed stored holds id

/-- An attempt that fits its column can be counted, so the table answers. -/
theorem respond_of_fits {t : Table} {c : Call} (works : t.broken = false) (fits : c.Fits t) :
    t.respond c = ((t.answer c).1, some (t.answer c).2) := by
  refine Table.respond_unbroken works (Table.not_breaksOff_of_counts ?_)
  rintro id a rfl
  have counted : a.previous.toNat < mostStoredAttempts := fits.1
  have most : mostStoredAttempts < 1 <<< 31 := by decide
  omega

theorem stored_answer {t : Table} {c : Call} (keyed : t.Keyed)
    (stored : ∀ r ∈ t.rows, r.IsStorable) (fits : c.Fits t) :
    ∀ r ∈ (t.answer c).1.rows, r.IsStorable := by
  have effect : (t.answer c).1.rows = t.rows.map c.effect :=
    keyed.rows_answer fun row e => by
      rw [e] at fits
      exact fits
  rw [effect]
  intro r mem
  obtain ⟨s, there, rfl⟩ := List.mem_map.1 mem
  exact (stored s there).effect fits

/-- **A store in a database answers as a table does** that holds the same rows, and changes its
rows as the table changes them. -/
theorem respond_refines_table {db : Contents} {o : Outbox} {t : Table} {c : Call}
    (works : t.broken = false) (keyed : t.Keyed) (stored : ∀ r ∈ t.rows, r.IsStorable)
    (holds : db.Holds o t) (fits : c.Fits t) :
    ∃ db' notes t' answer, (respond o c).run Contents.serve db = (db', notes, answer) ∧
      t.respond c = (t', some answer) ∧ db'.Holds o t' ∧ (∀ r ∈ t'.rows, r.IsStorable) ∧
      ∀ x, x ≠ o → db' x = db x := by
  obtain ⟨answer, holds', others⟩ := yields_respond keyed stored holds fits
  exact ⟨_, _, _, (t.answer c).2, Prod.ext rfl (Prod.ext rfl answer), respond_of_fits works fits,
    holds', stored_answer keyed stored fits, others⟩

/-- Two new rows, of which the one that was added first lies last in the database. -/
def pair : Table := { rows := [Row.sample 1, Row.sample 2] }

theorem isStorable_sample (n : Nat) : (Row.sample n).IsStorable where
  attempts := Nat.zero_le _
  occurred := ⟨rfl, rfl⟩
  created := ⟨rfl, rfl⟩
  processed := fun x e => by cases e
  notBefore := fun x e => by cases e
  claimedUntil := fun x e => by cases e

theorem respond_refines_table_pair :
    ∃ db' notes t' answer,
      (respond .domain (.claim [.ofNat 2, .ofNat 1] ⟨.epoch, 5⟩ "a/1" .epoch)).run Contents.serve
        (fun _ => [(Row.sample 2).datum, (Row.sample 1).datum]) = (db', notes, answer) ∧
      pair.respond (.claim [.ofNat 2, .ofNat 1] ⟨.epoch, 5⟩ "a/1" .epoch) = (t', some answer) ∧
      db'.Holds .domain t' ∧ (∀ r ∈ t'.rows, r.IsStorable) ∧
      ∀ x, x ≠ .domain → db' x = [(Row.sample 2).datum, (Row.sample 1).datum] := by
  have epoch : Instant.epoch.IsStorable := ⟨rfl, rfl⟩
  have keyed : pair.Keyed := by
    unfold Table.Keyed
    decide
  refine respond_refines_table rfl keyed ?_ ⟨[Row.sample 2, Row.sample 1], .swap .., rfl⟩
    ⟨⟨epoch, by decide⟩, epoch, by decide⟩
  intro r mem
  simp only [pair, List.mem_cons, List.not_mem_nil, or_false] at mem
  rcases mem with rfl | rfl <;> exact isStorable_sample _

/-! ## Many calls -/

/-- The answers to calls, one after the other. -/
abbrev Answers := List ((c : Call) × Option (Except StoreError c.Result))

/-- What a table is left as by calls in turn, and its answers. -/
def inMemory : Table → List Call → Table × Answers
  | t, [] => (t, [])
  | t, c :: cs =>
    let (t', answer) := t.respond c
    ((inMemory t' cs).1, ⟨c, answer⟩ :: (inMemory t' cs).2)

/-- What a database is left as by calls in turn to the store of an outbox, and their answers. -/
def inDatabase (o : Outbox) : Contents → List Call → Contents × Answers
  | db, [] => (db, [])
  | db, c :: cs =>
    let (db', answer) := (respond o c).outcome Contents.serve db
    ((inDatabase o db' cs).1, ⟨c, some answer⟩ :: (inDatabase o db' cs).2)

/-- Each of some calls fits the table that those before it leave. -/
def FitInTurn : Table → List Call → Prop
  | _, [] => True
  | t, c :: cs => c.Fits t ∧ FitInTurn (t.respond c).1 cs

/-- **Nobody can tell the two stores apart** by any number of calls. -/
theorem inDatabase_eq_inMemory {db : Contents} {o : Outbox} {t : Table} {cs : List Call}
    (works : t.broken = false) (keyed : t.Keyed) (stored : ∀ r ∈ t.rows, r.IsStorable)
    (holds : db.Holds o t) (fit : FitInTurn t cs) :
    (inDatabase o db cs).2 = (inMemory t cs).2 ∧
      (inDatabase o db cs).1.Holds o (inMemory t cs).1 := by
  induction cs generalizing db t with
  | nil => exact ⟨rfl, holds⟩
  | cons c cs ih =>
    obtain ⟨fits, later⟩ := fit
    have responds := respond_of_fits works fits
    rw [responds] at later
    obtain ⟨answer, holds', -⟩ := yields_respond keyed stored holds fits
    have rest := ih ((t.broken_answer c).trans works) (keyed.answer c)
      (stored_answer keyed stored fits) holds' later
    constructor
    · simp only [inDatabase, inMemory, responds, answer, rest.1]
    · simp only [inDatabase, inMemory, responds]
      exact rest.2

/-! ## Inside a leap second -/

/-- Half a second into the leap second at the end of the year 2016. -/
def leapTime : Instant :=
  ⟨1483228799, 1_500_000_000, by decide, by decide, by decide⟩

/-- A row whose lease ends in the second after that. -/
def leapRow : Row :=
  { Row.sample 1 with
    claimedBy := some "a/1"
    claimedUntil :=
      some ⟨1483228800, 200_000_000, by decide, by decide, by decide⟩ }

/-- Inside a leap second, a lease that ends right after it holds in memory; in a database, which
is told a time after the leap second, it has run out. -/
theorem leap_second_divides :
    leapRow.IsStorable ∧ leapTime.nanos % 1000 = 0 ∧
      Contents.Holds (fun _ => [leapRow.datum]) .domain { rows := [leapRow] } ∧
      (Table.respond { rows := [leapRow] } (.hasDue ⟨leapTime, 5⟩)).2 = some (.ok false) ∧
      ((respond .domain (.hasDue ⟨leapTime, 5⟩)).run Contents.serve
        fun _ => [leapRow.datum]).2.2 = .ok true := by
  have lease : ∀ t ∈ leapRow.claimedUntil, t.IsStorable := by decide
  refine ⟨{ isStorable_sample 1 with claimedUntil := lease }, rfl, ⟨[leapRow], .refl _, rfl⟩, ?_,
    ?_⟩
  · rfl
  · rfl

end Database

end Relay
