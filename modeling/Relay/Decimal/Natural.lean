/-!
# Natural numbers in decimal

`readNatural` reads an unsigned number below a bound: ASCII digits, leading zeros and one leading
plus sign allowed. Reading goes digit by digit, so of two faults the one further left is reported.
`readDigits_digits` says that the usual digits of a number read back, and `readDigits_padded` that
they do with zeros before them.
-/

namespace Relay.Decimal

/-- Why a text is no number of the wanted range. -/
inductive NumberError where
  | empty
  | invalidDigit
  | tooLarge
  deriving DecidableEq, Repr

/-- The wording of a fault in a number. -/
def NumberError.message : NumberError → String
  | .empty => "cannot parse integer from empty string"
  | .invalidDigit => "invalid digit found in string"
  | .tooLarge => "number too large to fit in target type"

/-- The value of an ASCII digit. -/
def digitValue (c : Char) : Nat := c.toNat - '0'.toNat

/-- Reads digits onto what was read before, as long as the value stays within `max`. -/
def readDigits (max : Nat) : Nat → List Char → Except NumberError Nat
  | n, [] => .ok n
  | n, c :: rest =>
    if !c.isDigit then .error .invalidDigit
    else if 10 * n + digitValue c > max then .error .tooLarge
    else readDigits max (10 * n + digitValue c) rest

/-- Reads an unsigned number of at most `max`. -/
def readNatural (max : Nat) : List Char → Except NumberError Nat
  | [] => .error .empty
  | ['+'] => .error .invalidDigit
  | '+' :: rest => readDigits max 0 rest
  | s => readDigits max 0 s

/-- The decimal digits of a number, without leading zeros. -/
def digits (n : Nat) : List Char := Nat.toDigits 10 n

/-- A number padded with zeros to a width. -/
def padded (width n : Nat) : List Char :=
  List.replicate (width - (digits n).length) '0' ++ digits n

theorem digits_of_lt {n : Nat} (h : n < 10) : digits n = [n.digitChar] :=
  Nat.toDigits_of_lt_base h

theorem digits_of_le {n : Nat} (h : 10 ≤ n) :
    digits n = digits (n / 10) ++ [(n % 10).digitChar] :=
  Nat.toDigits_of_base_le (by omega) h

theorem isDigit_of_mem_digits {n : Nat} {c : Char} (h : c ∈ digits n) : c.isDigit = true :=
  Nat.isDigit_of_mem_toDigits (by omega) (by omega) h

theorem digits_ne_nil (n : Nat) : digits n ≠ [] := by
  rcases Nat.lt_or_ge n 10 with h | h
  · simp [digits_of_lt h]
  · simp [digits_of_le h]

theorem isDigit_digitChar {d : Nat} (h : d < 10) : d.digitChar.isDigit = true := by
  rcases d with _ | _ | _ | _ | _ | _ | _ | _ | _ | _ | d <;> first | rfl | omega

theorem digitValue_digitChar {d : Nat} (h : d < 10) : digitValue d.digitChar = d := by
  rcases d with _ | _ | _ | _ | _ | _ | _ | _ | _ | _ | d <;> first | rfl | omega

theorem readDigits_append (max n : Nat) (s t : List Char) :
    readDigits max n (s ++ t) = (readDigits max n s).bind fun m => readDigits max m t := by
  induction s generalizing n with
  | nil => rfl
  | cons c s ih =>
    simp only [List.cons_append, readDigits]
    split
    · rfl
    · split
      · rfl
      · exact ih _

/-- The digits of a number within the bound read back. -/
theorem readDigits_digits {max n : Nat} (h : n ≤ max) : readDigits max 0 (digits n) = .ok n := by
  induction n using Nat.strongRecOn with
  | _ n ih =>
    rcases Nat.lt_or_ge n 10 with hn | hn
    · simp [digits_of_lt hn, readDigits, isDigit_digitChar hn, digitValue_digitChar hn,
        Nat.not_lt.2 h]
    · have hd : n % 10 < 10 := Nat.mod_lt _ (by omega)
      have hq : 10 * (n / 10) + n % 10 = n := by omega
      rw [digits_of_le hn, readDigits_append, ih (n / 10) (by omega) (by omega)]
      simp [Except.bind, readDigits, isDigit_digitChar hd, digitValue_digitChar hd, hq,
        Nat.not_lt.2 h]

theorem length_digits_le {width n : Nat} (h : n < Nat.pow 10 width) (wide : 0 < width) :
    (digits n).length ≤ width := by
  induction width generalizing n with
  | zero => exact absurd wide (Nat.lt_irrefl 0)
  | succ width ih =>
    rcases Nat.lt_or_ge n 10 with hn | hn
    · simp [digits_of_lt hn]
    · have hq : n / 10 < Nat.pow 10 width := by
        rw [Nat.div_lt_iff_lt_mul (by omega)]
        exact h
      have positive : 0 < width := by
        rcases width with _ | width
        · simp only [Nat.pow_eq, Nat.pow_zero] at hq
          omega
        · omega
      have fewer := ih hq positive
      simp only [digits_of_le hn, List.length_append, List.length_singleton]
      omega

/-- A number that fits is padded to the width. -/
theorem length_padded {width n : Nat} (h : n < Nat.pow 10 width) (wide : 0 < width) :
    (padded width n).length = width := by
  have fits := length_digits_le h wide
  simp only [padded, List.length_append, List.length_replicate]
  omega

theorem isDigit_of_mem_padded {width n : Nat} {c : Char} (h : c ∈ padded width n) :
    c.isDigit = true := by
  rcases List.mem_append.1 h with h | h
  · rw [(List.mem_replicate.1 h).2]
    rfl
  · exact isDigit_of_mem_digits h

theorem padded_ne_nil (width n : Nat) : padded width n ≠ [] :=
  fun h => digits_ne_nil n (List.append_eq_nil_iff.1 h).2

/-- Zeros before a number are passed over. -/
theorem readDigits_padded {max width n : Nat} (h : n ≤ max) :
    readDigits max 0 (padded width n) = .ok n := by
  have zeros : ∀ k, readDigits max 0 (List.replicate k '0') = .ok 0 := by
    intro k
    induction k with
    | zero => rfl
    | succ k ih => exact ih
  rw [padded, readDigits_append, zeros]
  exact readDigits_digits h

/-- Two numbers with the same digits are one number. -/
theorem digits_injective {m n : Nat} (h : digits m = digits n) : m = n := by
  have hm := readDigits_digits (Nat.le_max_left m n)
  have hn := readDigits_digits (Nat.le_max_right m n)
  rw [h, hn] at hm
  exact (Except.ok.inj hm).symm

end Relay.Decimal
