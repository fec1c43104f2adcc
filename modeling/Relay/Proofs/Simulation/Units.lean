import Relay.Simulation.World
import Relay.Proofs.Table.Rows
import Mathlib.Data.Finset.Dedup
import Mathlib.Data.Finset.Card

/-!
# Units of work

Rows that are staged in a unit of work come into the table together, when the unit is committed, or
not at all. Between its begin and its end anything else may be done to the world.

`World.units_are_atomic` says what a commit does, whatever was staged: it fails and leaves the table
alone, or it answers the number of staged rows and adds one row for every id among them, the one
that was staged last. So the answer is the number of rows that came in exactly when no two rows were
staged under one id (`World.twins_are_counted_twice` has two). It also says that nobody can see the
staged rows before the commit, or ever, if the unit is dropped: every other action has the effect
and the reply that it would have had without them.
-/

namespace Relay

namespace Table

variable {t : Table} {x : Uuid}

/-- Of rows that are put in under one id, the last is found. -/
theorem find?_foldl_put_eq (rows : List Row) (t : Table) (x : Uuid) :
    (rows.foldl put t).find? x = (rows.reverse.find? (·.id = x)).or (t.find? x) := by
  induction rows generalizing t with
  | nil => rfl
  | cons r rows ih =>
    rw [List.foldl_cons, ih, List.reverse_cons, List.find?_append, Option.or_assoc, find?_put]
    congr 1
    by_cases own : r.id = x <;> simp [own]

theorem mem_ids_iff : x ∈ t.rows.map Row.id ↔ (t.find? x).isSome := by
  simp [find?]

theorem mem_ids_foldl_put (rows : List Row) :
    x ∈ (rows.foldl put t).rows.map Row.id ↔ x ∈ t.rows.map Row.id ∨ x ∈ rows.map Row.id := by
  rw [mem_ids_iff, mem_ids_iff, find?_foldl_put_eq, Option.isSome_or, Bool.or_eq_true, or_comm]
  simp

/-- Rows that are not there yet add one row for every id among them. -/
theorem Keyed.length_foldl_put (keyed : t.Keyed) {rows : List Row}
    (absent : ∀ r ∈ rows, t.find? r.id = none) :
    (rows.foldl Table.put t).rows.length = t.rows.length + (rows.map Row.id).dedup.length := by
  have disjoint : Disjoint (t.rows.map Row.id).toFinset (rows.map Row.id).toFinset := by
    refine Finset.disjoint_left.mpr fun x there staged => ?_
    obtain ⟨r, mem, rfl⟩ := List.mem_map.mp (List.mem_toFinset.mp staged)
    have found := mem_ids_iff.mp (List.mem_toFinset.mp there)
    rw [absent r mem] at found
    exact Bool.noConfusion found
  have ids : ((rows.foldl Table.put t).rows.map Row.id).toFinset =
      (t.rows.map Row.id).toFinset ∪ (rows.map Row.id).toFinset := by
    ext x
    rw [Finset.mem_union, List.mem_toFinset, List.mem_toFinset, List.mem_toFinset,
      mem_ids_foldl_put]
  calc (rows.foldl Table.put t).rows.length
      = ((rows.foldl Table.put t).rows.map Row.id).toFinset.card := by
        rw [List.toFinset_card_of_nodup keyed.foldl_put, List.length_map]
    _ = (t.rows.map Row.id).toFinset.card + (rows.map Row.id).toFinset.card := by
        rw [ids, Finset.card_union_of_disjoint disjoint]
    _ = t.rows.length + (rows.map Row.id).dedup.length := by
        rw [List.toFinset_card_of_nodup keyed, List.length_map, List.card_toFinset]

/-- Rows of different ids are all found. -/
theorem find?_foldl_put_of_nodup {rows : List Row} (distinct : (rows.map Row.id).Nodup) {r : Row}
    (mem : r ∈ rows) : (rows.foldl put t).find? r.id = some r := by
  have last : rows.reverse.find? (·.id = r.id) = some r := by
    have keyed : Keyed { rows := rows.reverse } := by
      rw [Keyed, List.map_reverse, List.nodup_reverse]
      exact distinct
    exact keyed.find?_eq (List.mem_reverse.mpr mem)
  rw [find?_foldl_put_eq, last, Option.some_or]

/-- Rows cannot be added exactly when the table is poisoned or has one of them. -/
theorem insertAll_cases (t : Table) (rows : List Row) :
    (∃ e, t.insertAll rows = .error e ∧ (t.broken = true ∧ e = lockPoisoned ∨
        ∃ r ∈ rows, t.contains r.id = true ∧ e = .alreadyExists r.id)) ∨
      t.insertAll rows = .ok (rows.foldl put t, rows.length) ∧ t.broken = false ∧
        ∀ r ∈ rows, t.find? r.id = none := by
  unfold insertAll
  split
  · rename_i broken
    exact .inl ⟨_, rfl, .inl ⟨broken, rfl⟩⟩
  · rename_i works
    split
    · rename_i r found
      have there : t.contains r.id = true := by simpa using List.find?_some found
      exact .inl ⟨_, rfl, .inr ⟨r, List.mem_of_find?_eq_some found, there, rfl⟩⟩
    · rename_i missing
      refine .inr ⟨rfl, by simpa using works, fun r mem => ?_⟩
      exact (t.contains_eq_false r.id).mp (by simpa using List.find?_eq_none.mp missing r mem)

end Table

namespace Simulation

/-! ## What concerns a unit of work -/

namespace Action

/-- The rows that an action stages in a unit of work. -/
def staged (name : String) : Action → List Row
  | .write work row => if work = name then [row] else []
  | _ => []

/-- Whether an action begins a unit of work, or ends it. -/
def bounds (name : String) : Action → Bool
  | .begin work | .commit work | .discard work => work = name
  | _ => false

end Action

namespace World

variable {w : World} {name : String}

/-- The world after some actions. -/
def after (w : World) (actions : List Action) : World := actions.foldl (fun w a => (w.act a).1) w

/-- Every action with its reply. -/
def replies (w : World) : List Action → List (Action × Reply)
  | [] => []
  | a :: actions => (a, (w.act a).2) :: (w.act a).1.replies actions

theorem after_cons (w : World) (a : Action) (actions : List Action) :
    w.after (a :: actions) = (w.act a).1.after actions := rfl

/-! ## What is staged -/

theorem work_setWork (w : World) (name : String) (work : Work) :
    (w.setWork name work).work name = work := by
  simp [setWork, World.work]

theorem lookup_filter_of_ne {works : List (String × Work)} {other : String} (ne : other ≠ name) :
    (works.filter (·.1 ≠ name)).lookup other = works.lookup other := by
  induction works with
  | nil => rfl
  | cons p works ih =>
    obtain ⟨key, work⟩ := p
    by_cases own : key = name
    · subst own
      have skip : (other == key) = false := beq_false_of_ne ne
      simpa [List.lookup_cons, skip] using ih
    · by_cases hit : other = key
      · subst hit
        simp [own]
      · have skip : (other == key) = false := beq_false_of_ne hit
        simpa [own, List.lookup_cons, skip] using ih

theorem work_dropWork {other : String} (ne : name ≠ other) :
    (w.dropWork other).work name = w.work name := by
  unfold World.work dropWork
  rw [lookup_filter_of_ne ne]

theorem work_setWork_of_ne {other : String} (ne : name ≠ other) (work : Work) :
    (w.setWork other work).work name = w.work name := by
  have skip : (name == other) = false := beq_false_of_ne ne
  unfold World.work setWork
  rw [List.lookup_cons, skip, lookup_filter_of_ne ne]

/-- A unit of work that goes on grows by what is staged in it. -/
theorem staged_act {a : Action} (ongoing : a.bounds name = false) :
    ((w.act a).1.work name).staged = (w.work name).staged ++ a.staged name := by
  have same : ∀ w' : World, w'.works = w.works →
      (w'.work name).staged = (w.work name).staged ++ [] := by
    intro w' works
    rw [List.append_nil, World.work, works]
    rfl
  cases a with
  | write work row =>
    by_cases own : work = name
    · subst own
      simp only [act, work_setWork, Action.staged]
      rfl
    · simp only [act, work_setWork_of_ne (Ne.symm own), Action.staged, if_neg own,
        List.append_nil]
  | begin work =>
    have ne : name ≠ work := fun e => of_decide_eq_false ongoing e.symm
    simp only [act, work_setWork_of_ne ne, Action.staged, List.append_nil]
  | commit work =>
    have ne : name ≠ work := fun e => of_decide_eq_false ongoing e.symm
    have dropped := congrArg Work.staged (w.work_dropWork ne)
    simp only [act, Action.staged, List.append_nil]
    split <;> exact dropped
  | discard work =>
    have ne : name ≠ work := fun e => of_decide_eq_false ongoing e.symm
    simp only [act, work_dropWork ne, Action.staged, List.append_nil]
  | call | setClock | refuse | cancel => exact same _ rfl
  | advance nanos | update id f | breakOff id =>
    simp only [act]
    split <;> exact same _ rfl

theorem staged_after {actions : List Action} (ongoing : ∀ a ∈ actions, a.bounds name = false) :
    ((w.after actions).work name).staged =
      (w.work name).staged ++ actions.flatMap (Action.staged name) := by
  induction actions generalizing w with
  | nil => simp [after]
  | cons a actions ih =>
    rw [after_cons, ih fun b mem => ongoing b (.tail _ mem), staged_act (ongoing a (.head _)),
      List.flatMap_cons, List.append_assoc]

/-! ## What can be seen -/

theorem filter_apart (works : List (String × Work)) (name other : String) :
    ((works.filter (·.1 ≠ name)).filter (·.1 ≠ other)).filter (·.1 ≠ name) =
      (works.filter (·.1 ≠ other)).filter (·.1 ≠ name) := by
  simp only [List.filter_filter]
  refine List.filter_congr fun p _ => ?_
  by_cases own : p.1 = name <;> simp [own]

theorem dropWork_setWork (w : World) (name other : String) (work : Work) :
    ((w.dropWork name).setWork other work).dropWork name =
      (w.setWork other work).dropWork name := by
  simp only [setWork, dropWork, List.filter_cons, filter_apart]

theorem dropWork_setWork_self (w : World) (name : String) (work : Work) :
    (w.setWork name work).dropWork name = w.dropWork name := by
  simp [setWork, dropWork]

theorem dropWork_dropWork (w : World) (name other : String) :
    ((w.dropWork name).dropWork other).dropWork name = (w.dropWork other).dropWork name := by
  simp only [dropWork, filter_apart]

theorem dropWork_self (w : World) (name : String) :
    (w.dropWork name).dropWork name = w.dropWork name := by
  simp [dropWork, List.filter_filter]

theorem table_dropWork (w : World) (name : String) : (w.dropWork name).table = w.table := rfl

theorem clock_dropWork (w : World) (name : String) : (w.dropWork name).clock = w.clock := rfl

/-- What an action does and answers does not depend on a unit of work that goes on. -/
theorem dropWork_act (w : World) {a : Action} (ongoing : a.bounds name = false)
    (apart : (a.staged name).isEmpty = true) :
    ((w.dropWork name).act a).1.dropWork name = (w.act a).1.dropWork name ∧
      ((w.dropWork name).act a).2 = (w.act a).2 := by
  have self := (w.act a).1.dropWork_self name
  cases a with
  | write work row =>
    have ne : work ≠ name := by
      rintro rfl
      simp [Action.staged] at apart
    simp only [act, work_dropWork ne, dropWork_setWork, and_self]
  | begin work => exact ⟨w.dropWork_setWork name work {}, rfl⟩
  | commit work =>
    have ne : work ≠ name := of_decide_eq_false ongoing
    have works := w.dropWork_dropWork name work
    simp only [act, work_dropWork ne, table_dropWork]
    cases (w.work work).commit w.table with
    | error e => exact ⟨works, rfl⟩
    | ok added => exact ⟨congrArg (fun v : World => { v with table := added.1 }) works, rfl⟩
  | discard work => exact ⟨w.dropWork_dropWork name work, rfl⟩
  | call | setClock | refuse | cancel => exact ⟨self, rfl⟩
  | advance nanos =>
    simp only [act, clock_dropWork]
    cases w.clock.shift nanos with
    | none => exact ⟨w.dropWork_self name, rfl⟩
    | some t => exact ⟨({ w with clock := t } : World).dropWork_self name, rfl⟩
  | update id f =>
    simp only [act, table_dropWork]
    cases w.table.update id f with
    | error e => exact ⟨w.dropWork_self name, rfl⟩
    | ok table => exact ⟨({ w with table } : World).dropWork_self name, rfl⟩
  | breakOff id =>
    simp only [act, table_dropWork]
    cases w.table.breakOff id with
    | error e => exact ⟨w.dropWork_self name, rfl⟩
    | ok table => exact ⟨({ w with table } : World).dropWork_self name, rfl⟩

theorem dropWork_stage (w : World) {a : Action}
    (stages : (a.staged name).isEmpty = false) :
    (w.act a).1.dropWork name = w.dropWork name := by
  cases a with
  | write work row =>
    by_cases own : work = name
    · subst own
      exact w.dropWork_setWork_self work _
    · simp [Action.staged, own] at stages
  | _ => exact Bool.noConfusion stages

/-- Two worlds that are alike but for a unit of work go on alike, whatever is staged in it. -/
theorem dropWork_after {v : World} {actions : List Action}
    (ongoing : ∀ a ∈ actions, a.bounds name = false) (alike : w.dropWork name = v.dropWork name) :
    (w.after actions).dropWork name =
        (v.after (actions.filter fun a => (a.staged name).isEmpty)).dropWork name ∧
      (w.replies actions).filter (fun r => (r.1.staged name).isEmpty) =
        v.replies (actions.filter fun a => (a.staged name).isEmpty) := by
  induction actions generalizing w v with
  | nil => exact ⟨alike, rfl⟩
  | cons a actions ih =>
    have ongoing' := fun b mem => ongoing b (.tail a mem)
    cases apart : (a.staged name).isEmpty with
    | false =>
      obtain ⟨worlds, replies⟩ := ih ongoing' ((w.dropWork_stage apart).trans alike)
      simp only [World.replies, after_cons, List.filter_cons, apart]
      exact ⟨worlds, replies⟩
    | true =>
      obtain ⟨mine, answer⟩ := w.dropWork_act (ongoing a (.head _)) apart
      obtain ⟨others, answer'⟩ := v.dropWork_act (ongoing a (.head _)) apart
      rw [alike] at mine answer
      obtain ⟨worlds, replies⟩ := ih ongoing' (mine.symm.trans others)
      simp only [World.replies, after_cons, List.filter_cons, apart, if_true]
      exact ⟨worlds, by rw [replies, ← answer, answer']⟩

/-! ## Commits -/

/-- **A unit of work is committed as a whole or not at all.** Let a unit be begun and anything be
done after that, short of ending it or beginning it anew, with some rows staged in between. A commit
fails, and leaves the table as it was, if the table is poisoned or already has one of the staged
ids; otherwise it answers how many rows were staged, changes no row that was there, and adds for
every staged id the row that was staged last, which are as many rows as the answer says exactly when
no two had one id. Until then everything else is done and answered as if nothing had been staged,
and when the unit is dropped the world is as if nothing had been. -/
theorem units_are_atomic (w : World) (name : String) (actions : List Action)
    (ongoing : ∀ a ∈ actions, a.bounds name = false)
    (keyed : (w.after (.begin name :: actions)).table.Keyed) :
    let staged := actions.flatMap (Action.staged name)
    let before := w.after (.begin name :: actions)
    let others := actions.filter fun a => (a.staged name).isEmpty
    let without := w.after (.begin name :: others)
    ((∃ e, before.act (.commit name) = (before.dropWork name, .failed e) ∧
        (before.table.broken = true ∧ e = Table.lockPoisoned ∨
          ∃ r ∈ staged, before.table.contains r.id = true ∧ e = .alreadyExists r.id)) ∨
      ∃ table, before.act (.commit name) =
          ({ before.dropWork name with table }, .count staged.length) ∧
        before.table.broken = false ∧ (∀ r ∈ staged, before.table.find? r.id = none) ∧
        (∀ x, table.find? x = (before.table.find? x).or (staged.reverse.find? (·.id = x))) ∧
        table.rows.length = before.table.rows.length + (staged.map Row.id).dedup.length ∧
        (table.rows.length = before.table.rows.length + staged.length ↔
          (staged.map Row.id).Nodup) ∧
        ((staged.map Row.id).Nodup → ∀ r ∈ staged, table.find? r.id = some r)) ∧
    before.dropWork name = without.dropWork name ∧
    (w.replies (.begin name :: actions)).filter (fun r => (r.1.staged name).isEmpty) =
      w.replies (.begin name :: others) ∧
    before.act (.discard name) = without.act (.discard name) := by
  intro staged before others without
  have begun : (before.work name).staged = staged := by
    have grown := staged_after (w := (w.act (.begin name)).1) ongoing
    rw [show ((w.act (.begin name)).1.work name).staged = [] from
      congrArg Work.staged (w.work_setWork name {})] at grown
    exact grown
  obtain ⟨unseen, replies⟩ := dropWork_after (w := (w.act (.begin name)).1) ongoing rfl
  refine ⟨?_, unseen, congrArg (List.cons _) replies, congrArg (·, Reply.done) unseen⟩
  rcases before.table.insertAll_cases staged with ⟨e, failed, why⟩ | ⟨added, works, absent⟩
  · have refused : before.act (.commit name) = (before.dropWork name, .failed e) := by
      simp only [act, Work.commit, begun, failed]
    exact .inl ⟨e, refused, why⟩
  · have committed : before.act (.commit name) =
        ({ before.dropWork name with table := staged.foldl Table.put before.table },
          .count staged.length) := by
      simp only [act, Work.commit, begun, added]
    have count := keyed.length_foldl_put absent
    refine .inr ⟨staged.foldl Table.put before.table, committed, works, absent, fun x => ?_, count,
      ?_, fun distinct r mem => Table.find?_foldl_put_of_nodup distinct mem⟩
    · rw [Table.find?_foldl_put_eq]
      cases there : before.table.find? x with
      | none => rw [Option.or_none, Option.none_or]
      | some r =>
        have others : staged.reverse.find? (·.id = x) = none := by
          refine List.find?_eq_none.mpr fun s mem own => ?_
          have missing := absent s (List.mem_reverse.mp mem)
          exact Table.id_ne_of_find?_none missing there
            ((Table.id_of_find? there).trans (of_decide_eq_true own).symm)
        rw [others, Option.none_or, Option.some_or]
    · rw [count, Nat.add_left_cancel_iff, ← List.length_map (f := Row.id)]
      exact ⟨fun same => List.dedup_eq_self.mp
          ((List.dedup_sublist _).eq_of_length same), fun distinct => by rw [distinct.dedup]⟩

/-- Two rows of one id, staged in one unit of work. -/
def twins : List Action :=
  [.write "t" (.sample 1), .write "t" { Row.sample 1 with attempts := 1 }]

/-- Of two rows that were staged under one id the first is lost, though both are counted. -/
theorem twins_are_counted_twice :
    let before := ({ clock := .epoch } : World).after (.begin "t" :: twins)
    let (world, reply) := before.act (.commit "t")
    reply = .count 2 ∧ before.table.rows.length = 0 ∧ world.table.rows.length = 1 ∧
      world.table.find? (Row.sample 1).id ≠ some (.sample 1) := by
  refine ⟨rfl, rfl, rfl, ?_⟩
  decide

/-- Two rows of different ids, with another put in between. -/
theorem units_are_atomic_pair :
    ∃ table, (({ clock := .epoch } : World).after
        [.begin "t", .write "t" (.sample 1), .call fun _ => .insert (.sample 3),
          .write "t" (.sample 2)]).act (.commit "t") =
      ({ clock := .epoch, table }, .count 2) ∧ table.rows.length = 3 ∧
      table.find? (Row.sample 1).id = some (.sample 1) := by
  obtain ⟨⟨e, failed, -⟩ | ⟨table, committed, -, -, -, -, count, stored⟩, -⟩ :=
    units_are_atomic { clock := .epoch } "t"
      [.write "t" (.sample 1), .call fun _ => .insert (.sample 3), .write "t" (.sample 2)]
      (by decide) (by unfold Table.Keyed; decide)
  · cases failed
  · exact ⟨table, committed, count.mpr (by decide), stored (by decide) _ (.head _)⟩

end World

end Simulation

end Relay
