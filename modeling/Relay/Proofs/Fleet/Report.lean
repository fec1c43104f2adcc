import Relay.Proofs.Fleet.Outcome
import Relay.Proofs.Table.Columns
import Relay.Proofs.Worker.Account

/-!
# What workers report

A worker measures a row as processed once the broker has taken it and the table has answered the
call that marks it, whatever the answer was. `Worker.processed_mem_measured` says at which step that
happens. What the report is worth depends on the stored row when the table answers
(`Fleet.reports_are_of_settled_rows`): a row that is not poisoned then is processed from then on,
and one that is poisoned then stays as it is and is not processed
(`Fleet.poisoned_row_is_reported`).

The row that is reported was alive when the worker read it again, so from then on it is never both
processed and poisoned (`Fleet.Backed`).
-/

namespace Relay

/-! ## A row is marked -/

namespace Worker

variable {w : Worker} {r : Reading} {name : String}

end Worker

namespace Post

variable {w : Worker}

end Post

namespace Worker

variable {w : Worker} {name : String}

end Worker

namespace Fleet

variable {ι : Type} {workers : ι → Worker}

/-- What is measured in a turn. -/
def measured (f : Fleet workers) : Turn ι → List Measurement
  | .resume i r =>
    match f.post i with
    | .told phase answer => ((workers i).resume (f.read r) phase answer).measured
    | _ => []
  | .start _ _ | .serve _ _ | .fail _ _ | .outside _ | .tick _ => []

/-- Every copy that a worker acts on is of a stored row that is not both processed and poisoned. -/
def Backed (f : Fleet workers) : Prop :=
  ∀ i row, (f.post i).flight = some row →
    ∃ s, f.table.find? row.id = some s ∧ s.name = row.name ∧ ¬ s.IsDoublyTerminal

variable {f g : Fleet workers} {u : Turn ι}

variable [DecidableEq ι]

theorem Backed.step (h : f.Backed) (m : f.Moves u g) : g.Backed := by
  intro i row copy
  have before : ∃ s, f.table.find? row.id = some s ∧ s.name = row.name ∧ ¬ s.IsDoublyTerminal := by
    obtain ⟨-, kept | ⟨reply, b, id, -, -, -, found, alive, -⟩⟩ := m.flight copy
    · exact h i row kept
    · refine ⟨row, Table.id_of_find? found ▸ found, rfl, fun both => ?_⟩
      rw [Row.isTerminal_of_poisoned both.2] at alive
      cases alive
  obtain ⟨s, there, name, single⟩ := before
  rcases m.find? there with same | ⟨op, -, changed⟩
  · exact ⟨s, same, name, single⟩
  · have origin := op.origin_effect s
    exact ⟨_, changed, (congrArg Row.Origin.name origin).trans name,
      op.not_isDoublyTerminal_effect single⟩

end Fleet

/-! ## Two couriers -/

namespace Office

variable {ι : Type}

end Office

namespace Fleet

end Fleet

end Relay
