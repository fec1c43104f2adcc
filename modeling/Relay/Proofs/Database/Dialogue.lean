import Relay.Database.Dialogue

/-!
# How a dialogue ends

`Dialogue.outcome` is what a dialogue leaves of the server and the value that it ends with. One
dialogue after another is one outcome after another (`outcome_bind`), and spans change nothing.
-/

namespace Relay

namespace Dialogue

variable {α β σ : Type} (serve : σ → Query → σ × Reply)

/-- What a dialogue leaves of the server, and how it ends. -/
def outcome (s : σ) (d : Dialogue α) : σ × α := ((d.run serve s).1, (d.run serve s).2.2)

@[simp] theorem outcome_done (s : σ) (a : α) : (done a).outcome serve s = (s, a) := rfl

@[simp] theorem outcome_note (s : σ) (n : Journal.Note) (d : Dialogue α) :
    (note n d).outcome serve s = d.outcome serve s := rfl

@[simp] theorem outcome_ask (s : σ) (q : Query) (next : Reply → Dialogue α) :
    (ask q next).outcome serve s = (next (serve s q).2).outcome serve (serve s q).1 := rfl

theorem outcome_bind (s : σ) (d : Dialogue α) (f : α → Dialogue β) :
    (d.bind f).outcome serve s = (f (d.outcome serve s).2).outcome serve (d.outcome serve s).1 := by
  induction d generalizing s with
  | done a => rfl
  | ask q next ih => exact ih (serve s q).2 (serve s q).1
  | note n next ih => exact ih s

/-- A span changes nothing about how a dialogue ends. -/
@[simp] theorem outcome_within (s : σ) (span : Journal.Span)
    (d : Dialogue (Except StoreError α)) :
    (d.within span).outcome serve s = d.outcome serve s := by
  rw [within, outcome_note, outcome_bind]
  cases h : (d.outcome serve s).2 <;> simp [← h]

end Dialogue

end Relay
