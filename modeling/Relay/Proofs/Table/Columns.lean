import Relay.Proofs.Table.Effect

/-!
# Which columns an operation writes

The columns that say what a row is are written once (`Operation.origin_effect`), and only a call
that records that the row was relayed writes when it was (`Operation.processed_effect`).
-/

namespace Relay

/-- What a row is, whatever becomes of it. -/
structure Row.Origin where
  id : Uuid
  name : String
  version : UInt16
  tenant : Uuid
  username : String
  occurred : Instant
  correlation : Option String
  causation : Option String
  traceId : Option String
  parentSpan : Option String
  traceFlags : Option UInt8
  traceState : Option String
  payload : String
  created : Instant
  deriving DecidableEq, Repr

/-- What a row is, whatever becomes of it. -/
def Row.origin (r : Row) : Row.Origin where
  id := r.id
  name := r.name
  version := r.version
  tenant := r.tenant
  username := r.username
  occurred := r.occurred
  correlation := r.correlation
  causation := r.causation
  traceId := r.traceId
  parentSpan := r.parentSpan
  traceFlags := r.traceFlags
  traceState := r.traceState
  payload := r.payload
  created := r.created

@[simp] theorem Call.origin_effect (c : Call) (r : Row) : (c.effect r).origin = r.origin := by
  cases c <;> simp only [Call.effect] <;> first | rfl | (split <;> rfl)

@[simp] theorem Operation.origin_effect (op : Operation) (r : Row) :
    (op.effect r).origin = r.origin := by
  cases op with
  | call c => exact c.origin_effect r
  | commit w => rfl

theorem Call.processed_effect (c : Call) (r : Row) :
    (c.effect r).processed = r.processed ∨ ∃ now, c = .markProcessed r.id now := by
  cases c with
  | markProcessed id now =>
    by_cases e : r.id = id
    · exact Or.inr ⟨now, by rw [e]⟩
    · exact Or.inl (by simp [effect, e])
  | claim | markPoisoned | recordFailure | requeue =>
    refine Or.inl ?_
    simp only [effect]
    split <;> rfl
  | insert | hasDue | selectDue | fetchClaimed | get | stats => exact Or.inl rfl

theorem Operation.processed_effect (op : Operation) (r : Row) :
    (op.effect r).processed = r.processed ∨ ∃ now, op = .call (.markProcessed r.id now) := by
  cases op with
  | call c =>
    rcases c.processed_effect r with h | ⟨now, rfl⟩
    · exact Or.inl h
    · exact Or.inr ⟨now, rfl⟩
  | commit w => exact Or.inl rfl

end Relay
