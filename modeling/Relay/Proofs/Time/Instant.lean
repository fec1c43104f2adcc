import Relay.Time.Instant

/-!
# Instants that follow each other

`Instant.Follows t n u` says that `u` comes `n` nanoseconds after `t`, without naming a way to find
it: outside leap seconds the two lie so far apart, inside a leap second the clock runs on beside the
same second, and who leaves a leap second has passed that second twice. There is at most one such
instant, and moving an instant finds it if it is in range (`Instant.shift_eq_some_iff`).

A duration later is therefore the instant that follows, or the last one when none does
(`Instant.saturates_after`). Either way it lies ahead, unless the clock stands behind the last
instant (`Instant.Saturates.lt`, `Instant.le_after`).
-/

namespace Relay

/-- The longest number of milliseconds that a signed duration of 64 bits holds. -/
def Duration.signedLimit : Nat := 1 <<< 63 - 1

namespace Instant

/-- The nanoseconds since the beginning of 1970, inside a leap second those of the second behind
it. -/
def elapsed (t : Instant) : Int := t.second * 1_000_000_000 + t.nanos

/-- One instant comes so many nanoseconds after another. -/
inductive Follows (t : Instant) (n : Nat) (u : Instant) : Prop
  /-- Neither lies inside a leap second. -/
  | plain (outside : t.isLeap = false) (ends : u.isLeap = false) (apart : u.elapsed = t.elapsed + n)
  /-- Both lie inside the same leap second. -/
  | inside (leap : t.isLeap) (ends : u.isLeap) (same : u.second = t.second)
    (apart : u.nanos = t.nanos + n)
  /-- The first lies inside a leap second, which takes a second more than the calendar has. -/
  | leaves (leap : t.isLeap) (ends : u.isLeap = false) (later : t.second < u.second)
    (apart : u.elapsed + 1_000_000_000 = t.elapsed + n)

/-- The instant that comes so many nanoseconds after another, or the last one if there is none. -/
def Saturates (t : Instant) (n : Nat) (u : Instant) : Prop :=
  t.Follows n u ∨ (∀ v, ¬ t.Follows n v) ∧ u = last

variable {t u v : Instant} {n : Nat}

theorem isLeap_eq_true_iff : t.isLeap = true ↔ 1_000_000_000 ≤ t.nanos := decide_eq_true_iff

theorem isLeap_eq_false_iff : t.isLeap = false ↔ t.nanos < 1_000_000_000 :=
  decide_eq_false_iff_not.trans Nat.not_le

theorem ofParts_eq_some_iff {second : Int} {nanos : Nat} :
    ofParts second nanos = some u ↔ u.second = second ∧ u.nanos = nanos := by
  unfold ofParts
  constructor
  · intro h
    split at h
    · obtain rfl := Option.some.inj h
      exact ⟨rfl, rfl⟩
    · cases h
  · rintro ⟨rfl, rfl⟩
    rw [dif_pos ⟨u.first_le, u.le_last, u.nanos_lt⟩]

/-! ## The instant that follows -/

/-- At most one instant follows another so many nanoseconds later. -/
theorem Follows.unique (h : t.Follows n u) (h' : t.Follows n v) : u = v := by
  have := u.nanos_lt
  have := v.nanos_lt
  cases h <;> cases h' <;> apply ext_parts <;>
    simp only [isLeap_eq_true_iff, isLeap_eq_false_iff, elapsed] at * <;> omega

/-- Where an instant is moved to by a number of nanoseconds that is not negative. -/
theorem moved_natCast (second : Int) {nanos : Nat} (bound : nanos < 2 * 1_000_000_000) (n : Nat) :
    moved second nanos n =
      if nanos < 1_000_000_000 then
        (second + (nanos + n) / 1_000_000_000, (nanos + n) % 1_000_000_000)
      else if nanos + n < 2 * 1_000_000_000 then (second, nanos + n)
      else (second + (nanos + n) / 1_000_000_000 - 1, (nanos + n) % 1_000_000_000) := by
  have seconds : (n : Int).tdiv 1_000_000_000 = n / 1_000_000_000 :=
    Int.tdiv_eq_ediv_of_nonneg (by omega)
  have rest : (n : Int).tmod 1_000_000_000 = n % 1_000_000_000 :=
    Int.tmod_eq_emod_of_nonneg (by omega)
  simp only [moved, seconds, rest]
  split
  · exact Prod.ext (by dsimp only; omega) (by dsimp only; omega)
  · split
    · rw [if_neg (by omega)]
      exact Prod.ext (by dsimp only; omega) (by dsimp only; omega)
    · rw [if_neg (by omega), if_pos (by omega)]
      exact Prod.ext rfl (by dsimp only; omega)

/-- **An instant is moved on to the one that follows**, if that is in range. -/
theorem shift_eq_some_iff : t.shift n = some u ↔ t.Follows n u := by
  have bound := u.nanos_lt
  simp only [shift, moved_natCast t.second t.nanos_lt]
  constructor
  · split
    · rename_i outside
      rw [ofParts_eq_some_iff]
      rintro ⟨second, nanos⟩
      refine .plain (isLeap_eq_false_iff.2 outside) (isLeap_eq_false_iff.2 (by omega)) ?_
      simp only [elapsed]
      omega
    · rename_i leap
      have leap : t.isLeap := isLeap_eq_true_iff.2 (by omega)
      split
      · rw [ofParts_eq_some_iff]
        rintro ⟨second, nanos⟩
        exact .inside leap (isLeap_eq_true_iff.2 (by omega)) second nanos
      · rw [ofParts_eq_some_iff]
        rintro ⟨second, nanos⟩
        refine .leaves leap (isLeap_eq_false_iff.2 (by omega)) (by omega) ?_
        simp only [elapsed]
        omega
  · intro h
    cases h with
    | plain outside ends apart =>
      simp only [isLeap_eq_false_iff, elapsed] at outside ends apart
      rw [if_pos outside, ofParts_eq_some_iff]
      omega
    | inside leap ends same apart =>
      rw [isLeap_eq_true_iff] at leap
      rw [if_neg (by omega), if_pos (by omega), ofParts_eq_some_iff]
      exact ⟨same, apart⟩
    | leaves leap ends later apart =>
      simp only [isLeap_eq_true_iff, isLeap_eq_false_iff, elapsed] at leap ends apart
      rw [if_neg (by omega), if_neg (by omega), ofParts_eq_some_iff]
      omega

/-- A duration later is the instant that follows, or the last one. -/
theorem saturates_after (t : Instant) (d : Duration) : t.Saturates d.toNanos (t.after d) := by
  unfold after
  cases shifted : t.shift d.toNanos with
  | none =>
    refine Or.inr ⟨fun v follows => ?_, rfl⟩
    rw [shift_eq_some_iff.2 follows] at shifted
    cases shifted
  | some u => exact Or.inl (shift_eq_some_iff.1 shifted)

/-- There is one such instant only. -/
theorem Saturates.unique (h : t.Saturates n u) (h' : t.Saturates n v) : u = v := by
  rcases h with h | ⟨none, rfl⟩ <;> rcases h' with h' | ⟨none', rfl⟩
  · exact h.unique h'
  · exact absurd h (none' u)
  · exact absurd h' (none v)
  · rfl

/-! ## Later -/

theorem Follows.le (h : t.Follows n u) : t ≤ u := by
  rw [le_iff]
  cases h <;> simp only [isLeap_eq_true_iff, isLeap_eq_false_iff, elapsed] at * <;> omega

/-- What comes some time after an instant is later. -/
theorem Follows.lt (h : t.Follows n u) (pos : 0 < n) : t < u := by
  rw [lt_iff]
  cases h <;> simp only [isLeap_eq_true_iff, isLeap_eq_false_iff, elapsed] at * <;> omega

theorem Saturates.lt (h : t.Saturates n u) (early : t < last) (pos : 0 < n) : t < u := by
  rcases h with h | ⟨-, rfl⟩
  · exact h.lt pos
  · exact early

/-- An instant that is moved on does not go back, unless it lies behind the last one. -/
theorem le_after (early : t ≤ last) (d : Duration) : t ≤ t.after d := by
  rcases t.saturates_after d with h | ⟨-, e⟩
  · exact h.le
  · exact e ▸ early

/-- Nothing follows after a time that a signed number of milliseconds cannot hold. -/
theorem not_follows_of_long (long : Duration.signedLimit * 1_000_000 < n) : ¬ t.Follows n u := by
  have first := t.first_le
  have last := u.le_last
  have bound := u.nanos_lt
  simp only [firstSecond, lastSecond, Duration.signedLimit] at first last long
  intro h
  cases h with
  | plain _ _ apart | leaves _ _ _ apart =>
    simp only [elapsed] at apart
    omega
  | inside _ _ _ apart => omega

theorem Saturates.eq_last (h : t.Saturates n u)
    (long : Duration.signedLimit * 1_000_000 < n) : u = last := by
  rcases h with h | ⟨-, e⟩
  · exact absurd h (not_follows_of_long long)
  · exact e

end Instant

end Relay
