import Relay.Proofs.Fleet.Basic

/-!
# What a run does to the table

A turn carries out at most one operation (`Fleet.operation`), and a run carries out a list of them
(`Fleet.operations`). The table after a run is the table after these operations
(`Fleet.table_run`), so what holds of any table that is used in some way holds of the table of a
fleet. `Fleet.forall_operations` says of all operations of a run what holds of every operation that
a turn can carry out, and `Fleet.run_keeps_past` is the induction over a run for properties that
speak about the operations so far.
-/

namespace Relay

deriving instance DecidableEq for Work
deriving instance DecidableEq for Operation

namespace Fleet

variable {ι : Type} {workers : ι → Worker}

/-- The operation that a turn carries out, if it does. -/
def operation (f : Fleet workers) : Turn ι → Option Operation
  | .serve i _ =>
    match f.post i with
    | .asking phase =>
      match phase.request (workers i) with
      | .store c => some (.call c)
      | .publish _ => none
    | _ => none
  | .outside op => some op
  | .start _ _ | .fail _ _ | .resume _ _ | .tick _ => none

theorem operation_eq_some {f : Fleet workers} {u : Turn ι} {op : Operation} :
    f.operation u = some op ↔ f.Does u op := by
  constructor
  · intro h
    unfold operation at h
    split at h
    · rename_i i reply
      split at h
      · rename_i phase asking
        split at h
        · rename_i c hc
          cases h
          exact .calls i reply phase c asking hc
        · cases h
      · cases h
    · cases h
      exact .outside _
    all_goals cases h
  · rintro (⟨i, reply, phase, c, asking, hc⟩ | ⟨⟩)
    · simp only [operation, asking, hc]
    · rfl

variable [DecidableEq ι]

/-- The operations that a run carries out, in order. -/
def operations : Fleet workers → List (Turn ι) → List Operation
  | _, [] => []
  | f, u :: turns => (f.operation u).toList ++ operations (f.turn u) turns

variable {f g : Fleet workers} {turns : List (Turn ι)}

theorem operations_append (f : Fleet workers) (turns turns' : List (Turn ι)) :
    f.operations (turns ++ turns') = f.operations turns ++ (f.run turns).operations turns' := by
  induction turns generalizing f with
  | nil => rfl
  | cons u turns ih => simp [operations, ih]

/-- A turn changes the table by its operation only. -/
theorem table_turn (f : Fleet workers) (u : Turn ι) :
    (f.turn u).table = f.table.run (f.operation u).toList := by
  cases h : f.operation u with
  | none =>
    refine (f.moves u).table.resolve_right ?_
    rintro ⟨op, does, -⟩
    rw [← operation_eq_some, h] at does
    cases does
  | some op =>
    cases operation_eq_some.1 h with
    | outside => rfl
    | calls i reply phase c asking hc =>
      have answered : ((phase.request (workers i)).serve f.table reply).1 =
          (f.table.respond c).1 := by
        rw [hc]
        rfl
      simp only [turn, asking]
      exact answered

/-- **The table of a fleet** is the table after the operations of the run. -/
theorem table_run (f : Fleet workers) (turns : List (Turn ι)) :
    (f.run turns).table = f.table.run (f.operations turns) := by
  induction turns generalizing f with
  | nil => rfl
  | cons u turns ih => rw [run_cons, ih, table_turn, operations, Table.run_append]

/-- What holds of a fleet and of the operations that led to it, and is kept by every turn of a run,
holds after the run. -/
theorem run_keeps_past {P : Fleet workers → Turn ι → Fleet workers → Prop}
    {I : Fleet workers → List Operation → Prop}
    (keeps : ∀ f past u, I f past → P f u (f.turn u) →
      I (f.turn u) (past ++ (f.operation u).toList))
    {past : List Operation} (start : I f past) (h : Along P f turns) :
    I (f.run turns) (past ++ f.operations turns) := by
  induction turns generalizing f past with
  | nil => simpa [operations] using start
  | cons u turns ih =>
    rw [run_cons, operations, ← List.append_assoc]
    exact ih (keeps f past u start h.1) h.2

/-- What is true of every operation that a turn of the run may carry out is true of those that the
run does carry out. -/
theorem forall_operations {P : Fleet workers → Turn ι → Fleet workers → Prop}
    {I : Fleet workers → Prop} {Q : Operation → Prop}
    (keeps : ∀ f u g, I f → P f u g → f.Moves u g → I g)
    (does : ∀ f u g op, I f → P f u g → f.Does u op → Q op) (start : I f) (h : Along P f turns) :
    ∀ op ∈ f.operations turns, Q op := by
  induction turns generalizing f with
  | nil =>
    intro op mem
    cases mem
  | cons u turns ih =>
    intro op mem
    rcases List.mem_append.1 mem with mem | mem
    · exact does f u _ op start h.1 (operation_eq_some.1 (Option.mem_toList.1 mem))
    · exact ih (keeps f u _ start h.1 (f.moves u)) h.2 op mem

end Fleet

end Relay
