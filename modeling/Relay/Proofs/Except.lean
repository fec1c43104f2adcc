/-!
# Computations that succeed

A computation made of several that succeed succeeds with what they yield, and fails with the first
that fails. `Except` is taken apart here once, so that proofs about readers and stores name the
values and not the binds.
-/

namespace Relay

variable {ε α β : Type}

/-- A computation goes on from a value that was read. -/
theorem bind_ok {x : Except ε α} {a : α} {f : α → Except ε β} {b : β} (h : x = .ok a)
    (h' : f a = .ok b) : (x >>= f) = .ok b := by
  rw [h]
  exact h'

/-- A computation goes on from a value that was read, whatever comes of it. -/
theorem bind_eq {x : Except ε α} {a : α} {f : α → Except ε β} {y : Except ε β} (h : x = .ok a)
    (h' : f a = y) : (x >>= f) = y := by
  rw [h]
  exact h'

/-- A computation stops at what could not be read. -/
theorem bind_error {x : Except ε α} {e : ε} {f : α → Except ε β} (h : x = .error e) :
    (x >>= f) = .error e := by
  rw [h]
  rfl

/-- A computation that succeeded went on from a value that was read. -/
theorem exists_of_bind_ok {x : Except ε α} {f : α → Except ε β} {b : β}
    (h : (x >>= f) = .ok b) : ∃ a, x = .ok a ∧ f a = .ok b := by
  cases x with
  | error e => cases h
  | ok a => exact ⟨a, rfl, h⟩

/-- What was read is passed through a function. -/
theorem map_ok {x : Except ε α} {a : α} (f : α → β) (h : x = .ok a) : x.map f = .ok (f a) := by
  rw [h]
  rfl

/-- Reading is done with every one of some values that can be read. -/
theorem mapM_ok {f : α → Except ε β} {g : α → β} {l : List α} (h : ∀ a ∈ l, f a = .ok (g a)) :
    l.mapM f = .ok (l.map g) := by
  induction l with
  | nil => rfl
  | cons a l ih =>
    rw [List.mapM_cons, h a List.mem_cons_self, ih fun b mem => h b (List.mem_cons_of_mem _ mem)]
    rfl

end Relay
