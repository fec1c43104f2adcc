import Relay.Proofs.Keys
import Relay.Table.Memory

/-!
# What happens to one row

Whatever is done to a table is an `Operation`: a call, or the commit of a unit of work. A table is
seen here through the row of one id, `Table.find?`, and the lemmas of this module say once what an
operation does to it:

* a row that is there stays there, and is either as it was or `Operation.effect` of what it was
  (`Table.find?_after`); a call that is answered has its full effect (`Table.find?_answer`);
* a row that is not there can only come in as one of `Operation.inserted`
  (`Table.find?_after_none`).

`Table.find?_of_after` says the same of a row that is found afterwards.

`Table.run_keeps` and `Table.run_induction` carry both along any number of operations, and
`Table.keyed_run` says that a table never holds two rows of one id.
-/

namespace Relay

/-- Something done to a table. -/
inductive Operation where
  | call (c : Call)
  | commit (w : Work)

namespace Row

/-- The row under a claim. -/
def heldBy (r : Row) (claim : Claim) (expiry : Instant) : Row :=
  { r with claimedBy := some claim, claimedUntil := some expiry }

theorem heldBy_heldBy (r : Row) (claim : Claim) (expiry : Instant) :
    (r.heldBy claim expiry).heldBy claim expiry = r.heldBy claim expiry := rfl

end Row

/-- What a call does to a row that is there, when it is answered. -/
def Call.effect : Call → Row → Row
  | .claim ids due c expiry, r => if r.id ∈ ids ∧ r.isDue due then r.heldBy c expiry else r
  | .markProcessed id now, r =>
    if r.id = id ∧ r.isTerminal = false then { r with processed := some now } else r
  | .markPoisoned id reason, r =>
    if r.id = id ∧ r.isTerminal = false then { r with poisoned := true, lastError := some reason }
    else r
  | .recordFailure id a, r =>
    if r.id = id ∧ r.isTerminal = false ∧ r.attempts = a.previous then Table.failed a r else r
  | .requeue id, r => if r.id = id ∧ Table.isRenewable r then Table.renewed r else r
  | .insert _, r | .hasDue _, r | .selectDue _ _, r | .fetchClaimed _ _, r | .get _, r
  | .stats _, r => r

/-- What an operation does to a row that is there, when it goes through. -/
def Operation.effect : Operation → Row → Row
  | .call c, r => c.effect r
  | .commit _, r => r

/-- The rows that an operation may add. -/
def Operation.inserted : Operation → List Row
  | .call (.insert r) => [r]
  | .commit w => w.staged
  | _ => []

@[simp] theorem Call.id_effect (c : Call) (r : Row) : (c.effect r).id = r.id := by
  cases c <;> simp only [Call.effect] <;> first | rfl | (split <;> rfl)

@[simp] theorem Operation.id_effect (op : Operation) (r : Row) : (op.effect r).id = r.id := by
  cases op with
  | call c => exact c.id_effect r
  | commit w => rfl

namespace Table

/-- The table after an operation. -/
def after (t : Table) : Operation → Table
  | .call c => (t.respond c).1
  | .commit w =>
    match w.commit t with
    | .ok (t', _) => t'
    | .error _ => t

/-- The table after one operation after another. -/
def run (t : Table) (ops : List Operation) : Table := ops.foldl after t

@[simp] theorem run_nil (t : Table) : t.run [] = t := rfl

@[simp] theorem run_cons (t : Table) (op : Operation) (ops : List Operation) :
    t.run (op :: ops) = (t.after op).run ops := rfl

theorem run_append (t : Table) (ops ops' : List Operation) :
    t.run (ops ++ ops') = (t.run ops).run ops' := List.foldl_append

theorem run_concat (t : Table) (ops : List Operation) (op : Operation) :
    t.run (ops ++ [op]) = (t.run ops).after op := by
  rw [run_append, run_cons, run_nil]

/-! ## Looking a row up -/

variable {t : Table} {id x : Uuid} {r : Row}

theorem id_of_find? (h : t.find? id = some r) : r.id = id := by
  simpa using List.find?_some h

/-- The row of an id is found under that id only. -/
theorem eq_of_find? {s : Row} (hx : t.find? x = some r) (hid : t.find? id = some s)
    (e : r.id = id) : r = s := by
  rw [← id_of_find? hx, e, hid] at hx
  exact (Option.some.inj hx).symm

/-- A row that is there has no id that is missing. -/
theorem id_ne_of_find?_none (absent : t.find? id = none) (there : t.find? x = some r) :
    r.id ≠ id := by
  rintro rfl
  rw [id_of_find? there, there] at absent
  cases absent

/-- A change that does nothing to the row of an id. -/
theorem map_find?_self {f : Row → Row} (h : ∀ r, t.find? x = some r → f r = r) :
    (t.find? x).map f = t.find? x := by
  cases hx : t.find? x with
  | none => rfl
  | some r => rw [Option.map_some, h r hx]

theorem mem_of_find? (h : t.find? id = some r) : r ∈ t.rows := List.mem_of_find?_eq_some h

theorem find?_modify (t : Table) {f : Row → Row} (hf : ∀ r, r.id = id → (f r).id = id) (x : Uuid) :
    (t.modify id f).find? x = (t.find? x).map fun r => if r.id = id then f r else r := by
  have same : ((fun r : Row => decide (r.id = x)) ∘ fun r => if r.id = id then f r else r) =
      fun r => decide (r.id = x) := by
    funext r
    by_cases h : r.id = id
    · simp [h, hf r h]
    · simp [h]
  simp only [find?, modify, List.find?_map, same]

/-- Setting the row of an id. -/
theorem find?_modify_const (t : Table) {r' : Row} (hr' : r'.id = id) (x : Uuid) :
    (t.modify id fun _ => r').find? x =
      if id = x then (t.find? x).map fun _ => r' else t.find? x := by
  rw [t.find?_modify (fun _ _ => hr')]
  cases h : t.find? x with
  | none => simp
  | some r =>
    have hr := id_of_find? h
    by_cases e : id = x
    · simp [hr, e]
    · simp [hr, e, Ne.symm e]

theorem contains_eq_true (t : Table) (id : Uuid) :
    t.contains id = true ↔ ∃ r, t.find? id = some r :=
  Option.isSome_iff_exists

theorem contains_eq_false (t : Table) (id : Uuid) : t.contains id = false ↔ t.find? id = none := by
  simp [contains]

theorem find?_put (t : Table) (r : Row) (x : Uuid) :
    (t.put r).find? x = if r.id = x then some r else t.find? x := by
  unfold put
  split
  · rename_i there
    obtain ⟨r', h⟩ := (t.contains_eq_true r.id).1 there
    rw [find?_modify_const t rfl]
    split
    · rename_i e
      rw [← e, h, Option.map_some]
    · rfl
  · rename_i absent
    have h : t.find? r.id = none := (t.contains_eq_false r.id).1 (by simpa using absent)
    show List.find? _ (t.rows ++ [r]) = _
    rw [List.find?_append]
    by_cases e : r.id = x
    · subst e
      have h' : List.find? (fun r' => decide (r'.id = r.id)) t.rows = none := h
      simp [h']
    · simp [e, find?]

/-- Rows that were put in can be found, and no others can that were not there before. -/
theorem find?_foldl_put {rows : List Row} (h : (rows.foldl put t).find? x = some r) :
    (r ∈ rows ∧ r.id = x) ∨ t.find? x = some r := by
  induction rows generalizing t with
  | nil => exact Or.inr h
  | cons row rows ih =>
    rcases ih h with ⟨mem, e⟩ | h
    · exact Or.inl ⟨List.mem_cons_of_mem _ mem, e⟩
    · rw [find?_put] at h
      split at h
      · rename_i e
        obtain rfl := Option.some.inj h
        exact Or.inl ⟨List.mem_cons_self, e⟩
      · exact Or.inr h

/-- Rows of other ids make no difference. -/
theorem find?_foldl_put_of_ne {rows : List Row} (h : ∀ row ∈ rows, row.id ≠ x) (t : Table) :
    (rows.foldl put t).find? x = t.find? x := by
  induction rows generalizing t with
  | nil => rfl
  | cons row rows ih =>
    rw [List.foldl_cons, ih (fun r hr => h r (List.mem_cons_of_mem _ hr)), find?_put,
      if_neg (h row List.mem_cons_self)]

/-- Rows are added to a table that works and has none of them. -/
theorem insertAll_ok {rows : List Row} {t' : Table} {n : Nat}
    (h : t.insertAll rows = .ok (t', n)) :
    t.broken = false ∧ (∀ row ∈ rows, t.find? row.id = none) ∧ t' = rows.foldl put t := by
  unfold insertAll at h
  split at h
  · cases h
  · rename_i works
    split at h
    · cases h
    · rename_i none_there
      simp only [Except.ok.injEq, Prod.mk.injEq] at h
      refine ⟨by simpa using works, fun row hrow => ?_, h.1.symm⟩
      have := List.find?_eq_none.1 none_there row hrow
      exact (t.contains_eq_false _).1 (by simpa using this)

/-- The rows that are there are as they were after others are added. -/
theorem find?_insertAll {rows : List Row} {t' : Table} {n : Nat}
    (h : t.insertAll rows = .ok (t', n)) (there : t.find? x = some r) : t'.find? x = some r := by
  obtain ⟨-, absent, rfl⟩ := insertAll_ok h
  have others : ∀ row ∈ rows, row.id ≠ x := fun row hrow e =>
    id_ne_of_find?_none (absent row hrow) there ((id_of_find? there).trans e.symm)
  rw [find?_foldl_put_of_ne others t, there]

/-! ## Claims -/

/-- A claim of one row takes it if it is due. -/
theorem find?_claimOne (acc : Table × Nat) (due : Due) (claim : Claim) (expiry : Instant)
    (id x : Uuid) :
    (claimOne due claim expiry acc id).1.find? x =
      (acc.1.find? x).map fun r =>
        if r.id = id ∧ r.isDue due then r.heldBy claim expiry else r := by
  cases hid : acc.1.find? id with
  | none =>
    simp only [claimOne, hid]
    exact (map_find?_self fun r hx => if_neg fun h => id_ne_of_find?_none hid hx h.1).symm
  | some s =>
    simp only [claimOne, hid]
    split
    · rename_i sDue
      show (acc.1.modify id fun r => r.heldBy claim expiry).find? x = _
      have keeps : ∀ r : Row, r.id = id → (r.heldBy claim expiry).id = id := fun _ h => h
      rw [find?_modify acc.1 keeps]
      cases hx : acc.1.find? x with
      | none => rfl
      | some r =>
        by_cases e : r.id = id
        · simp [eq_of_find? hx hid e, id_of_find? hid, sDue]
        · simp [e]
    · rename_i sRests
      refine (map_find?_self fun r hx => if_neg fun h => sRests ?_).symm
      exact eq_of_find? hx hid h.1 ▸ h.2

/-- Claiming one row leaves all other rows as they are. -/
theorem find?_claimOne_of_ne (acc : Table × Nat) (due : Due) (claim : Claim) (expiry : Instant)
    (ne : x ≠ id) : (claimOne due claim expiry acc id).1.find? x = acc.1.find? x := by
  rw [find?_claimOne]
  exact map_find?_self fun r hr => if_neg fun h => ne ((id_of_find? hr).symm.trans h.1)

/-- Of the rows that are asked for, a claim takes those that are due, and no others. -/
theorem find?_foldl_claimOne (ids : List Uuid) (acc : Table × Nat) (due : Due) (claim : Claim)
    (expiry : Instant) (x : Uuid) :
    (ids.foldl (claimOne due claim expiry) acc).1.find? x =
      (acc.1.find? x).map (Call.claim ids due claim expiry).effect := by
  induction ids generalizing acc with
  | nil => exact (map_find?_self fun r _ => by simp [Call.effect]).symm
  | cons id ids ih =>
    rw [List.foldl_cons, ih, find?_claimOne, Option.map_map]
    refine congrArg (fun f => (acc.1.find? x).map f) (funext fun r => ?_)
    simp only [Function.comp_apply, Call.effect, List.mem_cons]
    by_cases taken : r.id = id ∧ r.isDue due
    · -- a row that was taken stays under the same claim, whether or not it is still due
      simp [taken, Row.heldBy_heldBy]
    · by_cases later : r.id ∈ ids ∧ r.isDue due
      · have e : r.id ≠ id := fun e => taken ⟨e, later.2⟩
        simp [e, later]
      · have : ¬ ((r.id = id ∨ r.id ∈ ids) ∧ r.isDue due) := by tauto
        simp [taken, later, this]

/-! ## Rows that are alive -/

/-- A row that is alive changes as `f` says, and no other row does. -/
theorem find?_updateLive (t : Table) {f : Row → Option Row}
    (hf : ∀ r r', f r = some r' → r'.id = r.id) (id x : Uuid) :
    (t.updateLive id f).1.find? x =
      (t.find? x).map fun r =>
        if r.id = id ∧ r.isTerminal = false then (f r).getD r else r := by
  cases hid : t.find? id with
  | none =>
    simp only [updateLive, hid]
    exact (map_find?_self fun r hx => if_neg fun h => id_ne_of_find?_none hid hx h.1).symm
  | some s =>
    simp only [updateLive, hid]
    split
    · rename_i terminal
      refine (map_find?_self fun r hx => if_neg fun h => ?_).symm
      rw [eq_of_find? hx hid h.1, terminal] at h
      cases h.2
    · rename_i alive
      split
      · rename_i refused
        refine (map_find?_self fun r hx => ?_).symm
        split
        · rename_i h
          rw [eq_of_find? hx hid h.1, refused, Option.getD_none]
        · rfl
      · rename_i s' accepted
        have ids : s'.id = id := (hf s s' accepted).trans (id_of_find? hid)
        rw [find?_modify_const t ids]
        cases hx : t.find? x with
        | none => simp
        | some r =>
          by_cases e : r.id = id
          · obtain rfl := eq_of_find? hx hid e
            have ex : id = x := e.symm.trans (id_of_find? hx)
            simp only [Bool.not_eq_true] at alive
            rw [if_pos ex, Option.map_some, Option.map_some, if_pos ⟨e, alive⟩, accepted,
              Option.getD_some]
          · have ex : id ≠ x := fun ex => e ((id_of_find? hx).trans ex.symm)
            simp [ex, e]

/-- A row whose attempt is counted keeps its id. -/
theorem id_of_counted {a : Attempt} {r' : Row}
    (h : (if r.attempts = a.previous then some (failed a r) else none) = some r') :
    r'.id = r.id := by
  split at h
  · cases h
    rfl
  · cases h

/-! ## Calls -/

/-- A call that is answered has its effect on every row that is there. -/
theorem find?_answer (there : t.find? x = some r) (c : Call) :
    (t.answer c).1.find? x = some (c.effect r) := by
  cases c with
  | insert row =>
    simp only [answer]
    split
    · rename_i h
      exact find?_insertAll h there
    · exact there
  | claim ids due claim expiry =>
    simp only [answer, find?_foldl_claimOne, there, Option.map_some]
  | markProcessed id now =>
    simp only [answer]
    rw [find?_updateLive t (fun r r' h => by cases h; rfl), there]
    rfl
  | markPoisoned id reason =>
    simp only [answer]
    rw [find?_updateLive t (fun r r' h => by cases h; rfl), there]
    rfl
  | recordFailure id a =>
    simp only [answer]
    rw [find?_updateLive t (fun r r' h => id_of_counted h), there, Option.map_some]
    by_cases h : r.id = id ∧ r.isTerminal = false <;> by_cases e : r.attempts = a.previous <;>
      simp [Call.effect, h, e]
  | requeue id =>
    simp only [answer]
    cases hid : t.find? id with
    | none =>
      have e := id_ne_of_find?_none hid there
      simp [Call.effect, e, there]
    | some s =>
      have keeps : ∀ r : Row, r.id = id → (renewed r).id = id := fun _ h => h
      by_cases e : r.id = id
      · obtain rfl := eq_of_find? there hid e
        by_cases renewable : isRenewable r
        · simp [renewable, find?_modify t keeps, there, Call.effect, e]
        · simp [renewable, there, Call.effect]
      · by_cases renewable : isRenewable s
        · simp [renewable, find?_modify t keeps, there, Call.effect, e]
        · simp [renewable, there, Call.effect, e]
  | hasDue | selectDue | fetchClaimed | get | stats => exact there

/-- A call can only bring in the row that it inserts. -/
theorem find?_answer_none (absent : t.find? x = none) (c : Call) :
    (t.answer c).1.find? x = none ∨
      ∃ row, c = .insert row ∧ row.id = x ∧ (t.answer c).1.find? x = some row := by
  cases c with
  | insert row =>
    simp only [answer]
    split
    · rename_i h
      obtain ⟨-, -, rfl⟩ := insertAll_ok h
      rw [List.foldl_cons, List.foldl_nil, find?_put]
      by_cases e : row.id = x
      · exact Or.inr ⟨row, rfl, e, if_pos e⟩
      · exact Or.inl ((if_neg e).trans absent)
    · exact Or.inl absent
  | claim ids due claim expiry =>
    exact Or.inl (by simp only [answer, find?_foldl_claimOne, absent, Option.map_none])
  | markProcessed id now =>
    refine Or.inl ?_
    simp only [answer]
    rw [find?_updateLive t (fun r r' h => by cases h; rfl), absent, Option.map_none]
  | markPoisoned id reason =>
    refine Or.inl ?_
    simp only [answer]
    rw [find?_updateLive t (fun r r' h => by cases h; rfl), absent, Option.map_none]
  | recordFailure id a =>
    refine Or.inl ?_
    simp only [answer]
    rw [find?_updateLive t (fun r r' h => id_of_counted h), absent, Option.map_none]
  | requeue id =>
    refine Or.inl ?_
    have keeps : ∀ r : Row, r.id = id → (renewed r).id = id := fun _ h => h
    simp only [answer]
    split
    · exact absent
    · split
      · rw [find?_modify t keeps, absent, Option.map_none]
      · exact absent
  | hasDue | selectDue | fetchClaimed | get | stats => exact Or.inl absent

/-- Nothing changes in a table that is poisoned, nor in the rows of one that becomes so. -/
theorem rows_respond (t : Table) (c : Call) :
    (t.respond c).1.rows = t.rows ∨ (t.broken = false ∧ (t.respond c).1 = (t.answer c).1) := by
  unfold respond
  split
  · exact Or.inl rfl
  · rename_i works
    dsimp only
    split <;> split
    · exact Or.inl rfl
    · exact Or.inr ⟨by simpa using works, rfl⟩
    · exact Or.inl rfl
    · exact Or.inr ⟨by simpa using works, rfl⟩

theorem find?_respond (there : t.find? x = some r) (c : Call) :
    (t.respond c).1.find? x = some r ∨ (t.respond c).1.find? x = some (c.effect r) := by
  rcases t.rows_respond c with h | ⟨-, h⟩
  · exact Or.inl (by rw [find?, h]; exact there)
  · exact Or.inr (by rw [h]; exact find?_answer there c)

/-- A table that works answers a call, unless an attempt cannot be counted. -/
theorem respond_of_works (works : t.broken = false) {c : Call}
    (hc : ∀ id a, c ≠ .recordFailure id a) : (t.respond c).1 = (t.answer c).1 := by
  cases c with
  | recordFailure id a => exact absurd rfl (hc id a)
  | insert | hasDue | selectDue | claim | fetchClaimed | get | markProcessed | markPoisoned | stats
  | requeue => simp [respond, works]

/-- Reading a row changes nothing. -/
theorem respond_get (t : Table) (id : Uuid) :
    t.respond (.get id) =
      (t, some (if t.broken then .error lockPoisoned else .ok (t.find? id))) := by
  unfold respond
  split <;> rfl

/-- A row that was read is there. -/
theorem find?_of_get (h : (t.respond (.get id)).2 = some (.ok (some r))) :
    t.broken = false ∧ t.find? id = some r := by
  rw [respond_get] at h
  cases works : t.broken with
  | true => simp [works] at h
  | false =>
    simp only [works, Bool.false_eq_true, if_false, Option.some.injEq, Except.ok.injEq] at h
    exact ⟨rfl, h⟩

/-! ## Operations -/

/-- A unit of work comes in as a whole or not at all. -/
theorem after_commit (t : Table) (w : Work) :
    (∃ t' n, t.insertAll w.staged = .ok (t', n) ∧ t.after (.commit w) = t') ∨
      t.after (.commit w) = t := by
  cases h : t.insertAll w.staged with
  | error e => exact Or.inr (by simp [after, Work.commit, h])
  | ok added => exact Or.inl ⟨added.1, added.2, rfl, by simp [after, Work.commit, h]⟩

/-- A row that is there stays there, and an operation does to it what it says or nothing. -/
theorem find?_after (there : t.find? x = some r) (op : Operation) :
    (t.after op).find? x = some r ∨ (t.after op).find? x = some (op.effect r) := by
  cases op with
  | call c => exact find?_respond there c
  | commit w =>
    rcases t.after_commit w with ⟨t', n, h, e⟩ | e
    · exact Or.inl (by rw [e]; exact find?_insertAll h there)
    · exact Or.inl (by rw [e]; exact there)

/-- A row that is not there can only come in as one that is inserted. -/
theorem find?_after_none (absent : t.find? x = none) (op : Operation) :
    (t.after op).find? x = none ∨
      ∃ row ∈ op.inserted, row.id = x ∧ (t.after op).find? x = some row := by
  cases op with
  | call c =>
    rcases t.rows_respond c with h | ⟨-, h⟩
    · exact Or.inl (by rw [after, find?, h]; exact absent)
    · rcases find?_answer_none absent c with none_still | ⟨row, rfl, e, found⟩
      · exact Or.inl (by rw [after, h]; exact none_still)
      · exact Or.inr ⟨row, List.mem_singleton_self row, e, by rw [after, h]; exact found⟩
  | commit w =>
    rcases t.after_commit w with ⟨t', n, h, e⟩ | e
    · rw [e]
      obtain ⟨-, -, rfl⟩ := insertAll_ok h
      cases found : (w.staged.foldl put t).find? x with
      | none => exact Or.inl rfl
      | some row =>
        rcases find?_foldl_put found with ⟨mem, e⟩ | there
        · exact Or.inr ⟨row, mem, e, rfl⟩
        · rw [absent] at there
          cases there
    · exact Or.inl (by rw [e]; exact absent)

/-- A row that is there after an operation was there before, is what the operation makes of one that
was, or has just come in. -/
theorem find?_of_after {op : Operation} (there : (t.after op).find? x = some r) :
    t.find? x = some r ∨ (∃ s, t.find? x = some s ∧ op.effect s = r) ∨ r ∈ op.inserted := by
  cases before : t.find? x with
  | none =>
    rcases find?_after_none before op with absent | ⟨row, new, -, found⟩
    · rw [absent] at there
      cases there
    · rw [found] at there
      cases there
      exact Or.inr (Or.inr new)
  | some s =>
    rcases find?_after before op with same | changed
    · exact Or.inl (same.symm.trans there)
    · rw [changed] at there
      exact Or.inr (Or.inl ⟨s, rfl, Option.some.inj there⟩)

/-- What holds of a row, and is kept by every operation of a run, holds of it after the run. -/
theorem run_keeps {P : Row → Prop} {ops : List Operation}
    (keeps : ∀ op ∈ ops, ∀ r, r.id = x → P r → P (op.effect r))
    (there : t.find? x = some r) (h : P r) : ∃ r', (t.run ops).find? x = some r' ∧ P r' := by
  induction ops generalizing t r with
  | nil => exact ⟨r, there, h⟩
  | cons op ops ih =>
    have keeps' : ∀ op ∈ ops, ∀ r, r.id = x → P r → P (op.effect r) :=
      fun op' hop => keeps op' (List.mem_cons_of_mem _ hop)
    rcases find?_after there op with there' | there'
    · exact ih keeps' there' h
    · exact ih keeps' there' (keeps op List.mem_cons_self r (id_of_find? there) h)

/-- What holds of every row when it comes in, and is kept by every operation, holds of the rows of
every table. -/
theorem run_induction {P : Row → Prop} {ops : List Operation}
    (keeps : ∀ op ∈ ops, ∀ r, P r → P (op.effect r))
    (comes : ∀ op ∈ ops, ∀ r ∈ op.inserted, P r)
    (start : ∀ x r, t.find? x = some r → P r) (there : (t.run ops).find? x = some r) : P r := by
  induction ops generalizing t with
  | nil => exact start x r there
  | cons op ops ih =>
    refine ih (fun op' hop => keeps op' (List.mem_cons_of_mem _ hop))
      (fun op' hop => comes op' (List.mem_cons_of_mem _ hop)) (fun y s hs => ?_) there
    rcases find?_of_after hs with before | ⟨s', before, rfl⟩ | new
    · exact start y s before
    · exact keeps op List.mem_cons_self s' (start y s' before)
    · exact comes op List.mem_cons_self s new

/-! ## One row for each id -/

/-- No two rows have one id. -/
def Keyed (t : Table) : Prop := (t.rows.map Row.id).Nodup

theorem Keyed.find?_eq (keyed : t.Keyed) (h : r ∈ t.rows) : t.find? r.id = some r := by
  refine find?_of_unique (by simp) h fun s there same => ?_
  exact List.inj_on_of_nodup_map keyed there h (by simpa using same)

theorem ids_modify (t : Table) {f : Row → Row} (hf : ∀ r, r.id = id → (f r).id = id) :
    (t.modify id f).rows.map Row.id = t.rows.map Row.id := by
  simp only [modify, List.map_map]
  refine List.map_congr_left fun r _ => ?_
  by_cases e : r.id = id
  · simp [e, hf r e]
  · simp [e]

theorem Keyed.modify (keyed : t.Keyed) {f : Row → Row} (hf : ∀ r, r.id = id → (f r).id = id) :
    (t.modify id f).Keyed := by
  unfold Keyed
  rw [ids_modify t hf]
  exact keyed

theorem Keyed.put (keyed : t.Keyed) (r : Row) : (t.put r).Keyed := by
  unfold Table.put
  split
  · exact keyed.modify fun _ _ => rfl
  · rename_i absent
    have fresh : r.id ∉ t.rows.map Row.id := by
      intro mem
      obtain ⟨s, hs, e⟩ := List.mem_map.1 mem
      exact absent ((t.contains_eq_true _).2 ⟨s, e ▸ keyed.find?_eq hs⟩)
    exact nodup_map_concat keyed fresh

theorem Keyed.foldl_put {rows : List Row} (keyed : t.Keyed) : (rows.foldl Table.put t).Keyed := by
  induction rows generalizing t with
  | nil => exact keyed
  | cons row rows ih => exact ih (keyed.put row)

theorem Keyed.insertAll {rows : List Row} {t' : Table} {n : Nat} (keyed : t.Keyed)
    (h : t.insertAll rows = .ok (t', n)) : t'.Keyed := by
  obtain ⟨-, -, rfl⟩ := insertAll_ok h
  exact keyed.foldl_put

theorem Keyed.updateLive (keyed : t.Keyed) {f : Row → Option Row}
    (hf : ∀ r r', f r = some r' → r'.id = r.id) (id : Uuid) : (t.updateLive id f).1.Keyed := by
  unfold Table.updateLive
  split
  · exact keyed
  · rename_i found
    split
    · exact keyed
    · split
      · exact keyed
      · rename_i accepted
        exact keyed.modify fun _ _ => (hf _ _ accepted).trans (id_of_find? found)

theorem Keyed.claim (ids : List Uuid) {acc : Table × Nat} (keyed : acc.1.Keyed) (due : Due)
    (claim : Claim) (expiry : Instant) :
    (ids.foldl (claimOne due claim expiry) acc).1.Keyed := by
  induction ids generalizing acc with
  | nil => exact keyed
  | cons id ids ih =>
    refine ih ?_
    unfold claimOne
    split
    · exact keyed
    · split
      · exact keyed.modify fun _ e => e
      · exact keyed

theorem Keyed.answer (keyed : t.Keyed) (c : Call) : (t.answer c).1.Keyed := by
  cases c with
  | insert row =>
    simp only [Table.answer]
    split
    · rename_i h
      exact keyed.insertAll h
    · exact keyed
  | claim ids due claim expiry => exact Keyed.claim ids keyed due claim expiry
  | markProcessed id now =>
    simp only [Table.answer]
    exact keyed.updateLive (fun r r' h => by cases h; rfl) id
  | markPoisoned id reason =>
    simp only [Table.answer]
    exact keyed.updateLive (fun r r' h => by cases h; rfl) id
  | recordFailure id a =>
    simp only [Table.answer]
    exact keyed.updateLive (fun r r' h => id_of_counted h) id
  | requeue id =>
    simp only [Table.answer]
    split
    · exact keyed
    · split
      · exact keyed.modify fun _ e => e
      · exact keyed
  | hasDue | selectDue | fetchClaimed | get | stats => exact keyed

theorem Keyed.after (keyed : t.Keyed) (op : Operation) : (t.after op).Keyed := by
  cases op with
  | call c =>
    rcases t.rows_respond c with h | ⟨-, h⟩
    · unfold Keyed
      rw [Table.after, h]
      exact keyed
    · rw [Table.after, h]
      exact keyed.answer c
  | commit w =>
    rcases t.after_commit w with ⟨t', n, h, e⟩ | e
    · rw [e]
      exact keyed.insertAll h
    · rw [e]
      exact keyed

theorem keyed_empty : ({} : Table).Keyed := List.nodup_nil

/-- A table that is filled by operations holds one row for each id. -/
theorem Keyed.run (keyed : t.Keyed) (ops : List Operation) : (t.run ops).Keyed := by
  induction ops generalizing t with
  | nil => exact keyed
  | cons op ops ih => exact ih (keyed.after op)

end Table

/-! ## A row for examples -/

/-- A row that has just come in. -/
def Row.sample (n : Nat) : Row where
  id := .ofNat n
  name := "TenantCreated"
  version := 1
  tenant := .ofNat 10
  username := "system"
  occurred := .epoch
  correlation := some "req-1"
  causation := none
  traceId := none
  parentSpan := none
  traceFlags := none
  traceState := none
  payload :=
    "\x7b\"tenant_id\":\"00000000-0000-0000-0000-00000000000a\",\"name\":\"Atelier\"," ++
      "\"occurred_at\":\"1970-01-01T00:00:00Z\"\x7d"
  created := .epoch
  processed := none
  attempts := 0
  notBefore := none
  claimedBy := none
  claimedUntil := none
  poisoned := false
  lastError := none

end Relay
