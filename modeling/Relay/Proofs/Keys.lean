import Mathlib.Data.List.Nodup

/-!
# Lists looked up by a key

What is sought in a list is found if nothing else there is like it (`find?_of_unique`), as where no
two members have one key; and one more member of a fresh key leaves the keys different
(`nodup_map_concat`).
-/

namespace Relay

variable {α κ : Type} {l : List α} {a : α}

theorem find?_of_unique {p : α → Bool} (holds : p a = true) (mem : a ∈ l)
    (unique : ∀ b ∈ l, p b = true → b = a) : l.find? p = some a := by
  cases found : l.find? p with
  | none => exact absurd holds (List.find?_eq_none.1 found a mem)
  | some b => rw [unique b (List.mem_of_find?_eq_some found) (List.find?_some found)]

theorem nodup_map_concat {key : α → κ} (nodup : (l.map key).Nodup) (fresh : key a ∉ l.map key) :
    ((l ++ [a]).map key).Nodup := by
  rw [List.map_append, List.map_singleton, ← List.concat_eq_append]
  exact nodup.concat fresh

end Relay
