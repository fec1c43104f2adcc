import Mathlib.Data.Rat.Floor
import Mathlib.Tactic.Linarith
import Mathlib.Tactic.NormNum
import Mathlib.Tactic.Ring
import Relay.Retry

/-!
# Delays

Over the rational numbers a delay is what its policy says. Before it is spread it is the base delay
times the factor of the attempt, cut off at the longest delay (`RetryPolicy.steady_eq`): the
exponent of a doubling delay is cut off only where the longest delay is reached already
(`Strategy.exponent_suffices`). Spreading moves it by no more than its part
(`Arithmetic.spread_le`, `Arithmetic.le_spread`), and cutting it off and rounding it down keep it in
between. `RetryPolicy.delay_bounds` puts this together.
-/

namespace Relay

/-- Exact numbers. -/
instance : Arithmetic ℚ where
  zero := 0
  one := 1
  ofNat n := n
  add := (· + ·)
  sub := (· - ·)
  mul := (· * ·)
  le a b := a ≤ b
  isFinite _ := true
  truncate q := min ⌊q⌋₊ (1 <<< 64 - 1)

/-! ## Numbers -/

namespace Arithmetic

theorem smaller_eq_min (a b : ℚ) : smaller a b = min a b := by
  simp only [smaller, le, decide_eq_true_eq, min_def]

theorem clamp_eq {low high : ℚ} (h : low ≤ high) (a : ℚ) :
    clamp low high a = max low (min high a) := by
  simp only [clamp, le, decide_eq_true_eq]
  split
  next small => rw [max_eq_left ((min_le_right _ _).trans small)]
  next large =>
    split
    next above => rw [min_eq_left above, max_eq_right h]
    next below => rw [min_eq_right (le_of_not_ge below), max_eq_right (le_of_not_ge large)]

variable {millis factor draw : ℚ}

/-- A number of milliseconds moves by the drawn part of its factor. -/
theorem spread_eq (pos : 0 ≤ millis) (low : 0 ≤ factor) (high : factor ≤ 1) (draw : ℚ) :
    spread millis factor draw = millis + millis * factor * draw := by
  have inside : clamp zero one factor = factor := by
    rw [show (zero : ℚ) = 0 from rfl, show (one : ℚ) = 1 from rfl, clamp_eq zero_le_one,
      min_eq_right high, max_eq_right low]
  simp only [spread, isFinite, Bool.not_true, Bool.or_self, Bool.false_eq_true, if_false, inside,
    Bool.or_eq_true, le, decide_eq_true_eq]
  split
  next still =>
    rcases still with none | none
    · rw [le_antisymm none low]
      simp [show (zero : ℚ) = 0 from rfl]
    · rw [le_antisymm none pos]
      simp [show (zero : ℚ) = 0 from rfl]
  next => rfl

theorem spread_zero (pos : 0 ≤ millis) : spread millis 0 draw = millis := by
  rw [spread_eq pos le_rfl zero_le_one]
  ring

theorem le_spread (pos : 0 ≤ millis) (low : 0 ≤ factor) (high : factor ≤ 1) (drawn : -1 ≤ draw) :
    (1 - factor) * millis ≤ spread millis factor draw := by
  have part : 0 ≤ millis * factor := mul_nonneg pos low
  rw [spread_eq pos low high]
  nlinarith

theorem spread_le (pos : 0 ≤ millis) (low : 0 ≤ factor) (high : factor ≤ 1) (drawn : draw ≤ 1) :
    spread millis factor draw ≤ (1 + factor) * millis := by
  have part : 0 ≤ millis * factor := mul_nonneg pos low
  rw [spread_eq pos low high]
  nlinarith

end Arithmetic

/-! ## Strategies -/

namespace Strategy

/-- What the base delay is multiplied with after an attempt, counted from one. -/
def factor : Strategy → Nat → Nat
  | .fixed, _ => 1
  | .linear, n => n
  | .exponential, n => 2 ^ (n - 1)

theorem factor_mono (s : Strategy) {m n : Nat} (h : m ≤ n) : s.factor m ≤ s.factor n := by
  cases s with
  | fixed => exact Nat.le_refl 1
  | linear => exact h
  | exponential => exact Nat.pow_le_pow_right (by decide) (by omega)

/-- A base delay that is doubled as often as is allowed has reached the longest delay, so that no
more doubling changes what is cut off there. -/
theorem exponent_suffices (base n : Nat) {longest : Nat} (short : longest ≤ 1 <<< 53) :
    min (base * 1 <<< min n 62) longest = min (base * 2 ^ n) longest := by
  rw [Nat.one_shiftLeft]
  rcases Nat.le_total n 62 with few | many
  · rw [Nat.min_eq_left few]
  · rcases Nat.eq_zero_or_pos base with rfl | pos
    · simp
    · have reached : longest ≤ base * 2 ^ 62 :=
        (short.trans (by decide : 1 <<< 53 ≤ 2 ^ 62)).trans (Nat.le_mul_of_pos_left _ pos)
      have further : base * 2 ^ 62 ≤ base * 2 ^ n :=
        Nat.mul_le_mul_left _ (Nat.pow_le_pow_right (by decide) many)
      rw [Nat.min_eq_right many, Nat.min_eq_right reached,
        Nat.min_eq_right (reached.trans further)]

end Strategy

/-! ## Policies -/

namespace RetryPolicy

open Arithmetic

/-- The same policy, whose delays are not spread. -/
def unspread (p : RetryPolicy ℚ) : RetryPolicy ℚ := { p with jitter := 0 }

/-- The delay of a policy after an attempt before it is spread, in whole milliseconds. -/
def millis (p : RetryPolicy ℚ) (attempt : UInt32) : Nat :=
  min (p.base.toMillis * p.strategy.factor attempt.toNat) p.longest.toMillis

variable {p : RetryPolicy ℚ} {attempt : UInt32} {draw : ℚ}

theorem millis_le (p : RetryPolicy ℚ) (attempt : UInt32) :
    (p.millis attempt : ℚ) ≤ p.longest.toMillis :=
  Nat.cast_le.2 (Nat.min_le_right _ _)

theorem steady_eq (short : p.longest.toMillis ≤ 1 <<< 53) (attempt : UInt32) :
    p.steady attempt = p.millis attempt := by
  rw [steady, smaller_eq_min, growth, millis]
  cases p.strategy with
  | fixed => simp [ofNat, Strategy.factor]
  | linear => simp [ofNat, mul, Strategy.factor]
  | exponential =>
    rw [Strategy.factor, ← Strategy.exponent_suffices _ _ short]
    simp [ofNat, mul]

/-- The milliseconds of a delay, none of which are cut off by their type. -/
theorem toNanos_delay (short : p.longest.toMillis ≤ 1 <<< 53) (later : attempt ≠ 0) (draw : ℚ) :
    (p.delay attempt draw).toNanos =
      ⌊max 0 (min (p.longest.toMillis : ℚ) (spread (p.millis attempt) p.jitter draw))⌋₊ *
        1_000_000 := by
  have capped : clamp zero (ofNat p.longest.toMillis) (spread (p.steady attempt) p.jitter draw) =
      max 0 (min (p.longest.toMillis : ℚ) (spread (p.millis attempt) p.jitter draw)) := by
    rw [steady_eq short]
    exact clamp_eq (Nat.cast_nonneg _) _
  have small : ⌊max 0 (min (p.longest.toMillis : ℚ) (spread (p.millis attempt) p.jitter draw))⌋₊ ≤
      p.longest.toMillis :=
    Nat.floor_le_of_le (max_le (Nat.cast_nonneg _) (min_le_left _ _))
  simp only [delay, if_neg later]
  rw [capped]
  show (Duration.ofMillis (min _ (1 <<< 64 - 1))).toNanos = _
  rw [Duration.ofMillis, Nat.min_eq_left (by omega), Nat.min_eq_left (by omega),
    Duration.toNanos_ofNanos (by omega)]

theorem delay_zero (p : RetryPolicy ℚ) (draw : ℚ) : p.delay 0 draw = .zero := if_pos rfl

/-- A delay that is not spread is the delay of the policy. -/
theorem toNanos_unspread (short : p.longest.toMillis ≤ 1 <<< 53) (later : attempt ≠ 0) (draw : ℚ) :
    (p.unspread.delay attempt draw).toNanos = p.millis attempt * 1_000_000 := by
  have cut : (p.millis attempt : ℚ) ≤ p.unspread.longest.toMillis := p.millis_le attempt
  have same : p.unspread.millis attempt = p.millis attempt := rfl
  have still : p.unspread.jitter = 0 := rfl
  rw [toNanos_delay (p := p.unspread) short later, same, still, spread_zero (Nat.cast_nonneg _),
    min_eq_right cut, max_eq_right (Nat.cast_nonneg _), Nat.floor_natCast]

/-- Later delays of a policy are not shorter. -/
theorem toNanos_unspread_mono (short : p.longest.toMillis ≤ 1 <<< 53) {earlier later : UInt32}
    (h : earlier ≤ later) (draw draw' : ℚ) :
    (p.unspread.delay earlier draw).toNanos ≤ (p.unspread.delay later draw').toNanos := by
  have order : earlier.toNat ≤ later.toNat := UInt32.le_iff_toNat_le.1 h
  by_cases first : earlier = 0
  · rw [first, delay_zero]
    exact Nat.zero_le _
  · have second : later ≠ 0 := by
      rintro rfl
      exact first (UInt32.toNat_inj.1 (Nat.le_zero.1 order))
    have grown : p.millis earlier ≤ p.millis later :=
      min_le_min_right _ (Nat.mul_le_mul_left _ (p.strategy.factor_mono order))
    rw [toNanos_unspread short first, toNanos_unspread short second]
    exact Nat.mul_le_mul_right _ grown

theorem toNanos_delay_le (short : p.longest.toMillis ≤ 1 <<< 53) (attempt : UInt32) (draw : ℚ) :
    (p.delay attempt draw).toNanos ≤ p.longest.toNanos := by
  by_cases first : attempt = 0
  · rw [first, delay_zero]
    exact Nat.zero_le _
  · have cut : ⌊max 0 (min (p.longest.toMillis : ℚ) (spread (p.millis attempt) p.jitter draw))⌋₊ ≤
        p.longest.toMillis :=
      Nat.floor_le_of_le (max_le (Nat.cast_nonneg _) (min_le_left _ _))
    have whole : p.longest.toMillis * 1_000_000 ≤ p.longest.toNanos := Nat.div_mul_le_self _ _
    rw [toNanos_delay short first]
    exact (Nat.mul_le_mul_right _ cut).trans whole

/-- A delay is spread by no more than its part, rounded down to milliseconds at both ends. -/
theorem toNanos_delay_mem (short : p.longest.toMillis ≤ 1 <<< 53) (later : attempt ≠ 0)
    (low : 0 ≤ p.jitter) (high : p.jitter ≤ 1) (drawn : -1 ≤ draw ∧ draw ≤ 1) :
    ⌊(1 - p.jitter) * p.millis attempt⌋₊ * 1_000_000 ≤ (p.delay attempt draw).toNanos ∧
      (p.delay attempt draw).toNanos ≤ ⌊(1 + p.jitter) * p.millis attempt⌋₊ * 1_000_000 := by
  have pos : (0 : ℚ) ≤ p.millis attempt := Nat.cast_nonneg _
  rw [toNanos_delay short later]
  constructor <;> refine Nat.mul_le_mul_right _ (Nat.floor_mono ?_)
  · have below : (1 - p.jitter) * p.millis attempt ≤ p.millis attempt := by nlinarith
    have least := le_spread pos low high drawn.1
    exact le_max_of_le_right (le_min (below.trans (p.millis_le attempt)) least)
  · have above : 0 ≤ (1 + p.jitter) * (p.millis attempt : ℚ) := by positivity
    exact max_le above ((min_le_right _ _).trans (spread_le pos low high drawn.2))

/-- **Delays follow the policy and its cap.** There is no delay after no attempt. A policy whose
delays are not spread waits for its base delay times the factor of the attempt, or for its longest
delay if that is shorter, in whole milliseconds, so that its delays never get shorter. Whatever is
drawn, no delay is longer than the longest one, and one that is spread by a part of it lies between
the ends of that part, rounded down to milliseconds. -/
theorem delay_bounds {p : RetryPolicy ℚ} (short : p.longest.toMillis ≤ 1 <<< 53) :
    (∀ draw, p.delay 0 draw = .zero) ∧
    (∀ attempt draw, 1 ≤ attempt → (p.unspread.delay attempt draw).toNanos =
      min (p.base.toMillis * p.strategy.factor attempt.toNat) p.longest.toMillis * 1_000_000) ∧
    (∀ earlier later draw draw', earlier ≤ later →
      (p.unspread.delay earlier draw).toNanos ≤ (p.unspread.delay later draw').toNanos) ∧
    (∀ attempt draw, (p.delay attempt draw).toNanos ≤ p.longest.toNanos) ∧
    ∀ attempt draw draw', 0 ≤ p.jitter → p.jitter ≤ 1 → -1 ≤ draw → draw ≤ 1 →
      ⌊(1 - p.jitter) * (p.unspread.delay attempt draw').toMillis⌋₊ * 1_000_000 ≤
          (p.delay attempt draw).toNanos ∧
        (p.delay attempt draw).toNanos ≤
          ⌊(1 + p.jitter) * (p.unspread.delay attempt draw').toMillis⌋₊ * 1_000_000 := by
  refine ⟨delay_zero p, fun attempt draw first => ?_, fun _ _ draw draw' order =>
    toNanos_unspread_mono short order draw draw', toNanos_delay_le short,
    fun attempt draw draw' low high drawn drawn' => ?_⟩
  · refine toNanos_unspread short ?_ draw
    rintro rfl
    exact absurd first (by decide)
  · by_cases none : attempt = 0
    · subst none
      simp [delay_zero, Duration.zero, Duration.toMillis]
    · have steady : (p.unspread.delay attempt draw').toMillis = p.millis attempt := by
        rw [Duration.toMillis, toNanos_unspread short none]
        exact Nat.mul_div_cancel _ (by decide)
      rw [steady]
      exact toNanos_delay_mem short none low high ⟨drawn, drawn'⟩

/-- One second, doubled up to five minutes, a tenth up or down. -/
def tenth : RetryPolicy ℚ := ⟨.exponential, .ofSeconds 1, .ofSeconds 300, 1 / 10⟩

theorem delay_bounds_tenth :
    tenth.longest.toMillis ≤ 1 <<< 53 ∧
    (tenth.unspread.delay 9 0).toNanos = 256_000 * 1_000_000 ∧
    (tenth.unspread.delay 70 0).toNanos = 300_000 * 1_000_000 ∧
    (tenth.unspread.delay 9 0).toNanos ≤ (tenth.unspread.delay 70 0).toNanos ∧
    (tenth.delay 70 1).toNanos ≤ 300_000 * 1_000_000 ∧
    230_400 * 1_000_000 ≤ (tenth.delay 9 (-1)).toNanos ∧
      (tenth.delay 9 (-1)).toNanos ≤ 281_600 * 1_000_000 := by
  have short : tenth.longest.toMillis ≤ 1 <<< 53 := by decide
  obtain ⟨-, steady, grows, capped, spread⟩ := delay_bounds short
  have ninth : (tenth.unspread.delay 9 0).toNanos = 256_000 * 1_000_000 := steady 9 0 (by decide)
  have late : (tenth.unspread.delay 70 0).toNanos = 300_000 * 1_000_000 := steady 70 0 (by decide)
  have whole : (tenth.unspread.delay 9 0).toMillis = 256_000 := by rw [Duration.toMillis, ninth]
  have ends := spread 9 (-1) 0 (by norm_num [tenth]) (by norm_num [tenth]) le_rfl (by norm_num)
  rw [whole] at ends
  refine ⟨short, ninth, late, grows 9 70 0 0 (by decide), capped 70 1, ?_, ?_⟩
  · exact le_of_eq_of_le (by norm_num [tenth]) ends.1
  · exact ends.2.trans_eq (by norm_num [tenth])

end RetryPolicy

end Relay
