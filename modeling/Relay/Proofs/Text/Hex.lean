import Mathlib.Data.List.Induction
import Mathlib.Tactic.IntervalCases
import Relay.Text.Blank
import Relay.Text.Hex

/-!
# Digits of numbers

Texts of hexadecimal digits in lower case and the numbers of as many digits are the same thing: the
digits of the value of a text are the text (`Text.hex_hexOnto`), so that every such text has a
number (`Text.IsLowerHex.exists_hex`) and no two numbers have one text (`Text.hex_inj`).
-/

namespace Relay.Text

/-- A text of `width` hexadecimal digits in lower case. -/
def IsLowerHex (width : Nat) (s : List Char) : Prop :=
  s.length = width ∧ ∀ c ∈ s, isLowerHexDigit c = true

theorem toNat_of_isLowerHexDigit {c : Char} (h : isLowerHexDigit c = true) :
    48 ≤ c.toNat ∧ c.toNat ≤ 57 ∨ 97 ≤ c.toNat ∧ c.toNat ≤ 102 := by
  simpa [isLowerHexDigit, Char.isDigit, Char.le_def, UInt32.le_iff_toNat_le] using h

theorem digitChar_hexValue {c : Char} (h : isLowerHexDigit c = true) :
    hexValue c < 16 ∧ (hexValue c).digitChar = c := by
  have whole : Char.ofNat c.toNat = c := Char.ofNat_toNat c
  rcases toNat_of_isLowerHexDigit h with ⟨low, high⟩ | ⟨low, high⟩ <;>
    interval_cases n : c.toNat <;> rw [← whole] <;> decide

theorem isBlank_of_isLowerHexDigit {c : Char} (h : isLowerHexDigit c = true) :
    isBlank c = false := by
  have code := toNat_of_isLowerHexDigit h
  simp only [isBlank, Bool.or_eq_false_iff, Bool.and_eq_false_iff, decide_eq_false_iff_not,
    beq_eq_false_iff_ne]
  omega

/-- Digits in lower case are the digits of their value. -/
theorem hex_hexOnto (n : Nat) {s : List Char} (h : ∀ c ∈ s, isLowerHexDigit c = true) :
    hex s.length (hexOnto n s) = s := by
  induction s using List.reverseRecOn with
  | nil => rfl
  | append_singleton s c ih =>
    obtain ⟨small, char⟩ := digitChar_hexValue (h c (by simp))
    have value : hexOnto n (s ++ [c]) = 16 * hexOnto n s + hexValue c := hexOnto_append n s [c]
    have leading : (16 * hexOnto n s + hexValue c) / 16 = hexOnto n s := by omega
    have last : (16 * hexOnto n s + hexValue c) % 16 = hexValue c := by omega
    rw [List.length_append, List.length_singleton, hex, value, leading, last, char,
      ih fun c mem => h c (List.mem_append_left _ mem)]

theorem hexOnto_lt {s : List Char} (h : ∀ c ∈ s, isLowerHexDigit c = true) :
    hexOnto 0 s < Nat.pow 16 s.length := by
  induction s using List.reverseRecOn with
  | nil => exact Nat.one_pos
  | append_singleton s c ih =>
    have small := (digitChar_hexValue (h c (by simp))).1
    have leading := ih fun c mem => h c (List.mem_append_left _ mem)
    have value : hexOnto 0 (s ++ [c]) = 16 * hexOnto 0 s + hexValue c := hexOnto_append 0 s [c]
    have shifted : Nat.pow 16 (s.length + 1) = 16 * Nat.pow 16 s.length := Nat.mul_comm _ 16
    rw [List.length_append, List.length_singleton, value, shifted]
    omega

theorem isLowerHex_hex (width n : Nat) : IsLowerHex width (hex width n) :=
  ⟨length_hex width n, fun _ => isLowerHexDigit_of_mem_hex⟩

theorem IsLowerHex.exists_hex {width : Nat} {s : List Char} (h : IsLowerHex width s) :
    ∃ n : Fin (Nat.pow 16 width), s = hex width n := by
  obtain ⟨rfl, digits⟩ := h
  exact ⟨⟨hexOnto 0 s, hexOnto_lt digits⟩, (hex_hexOnto 0 digits).symm⟩

/-- No two numbers of `width` digits have the same digits. -/
theorem hex_inj {width m n : Nat} (hm : m < Nat.pow 16 width) (hn : n < Nat.pow 16 width) :
    hex width m = hex width n ↔ m = n := by
  constructor
  · intro h
    rw [← hexOnto_hex hm, h, hexOnto_hex hn]
  · exact congrArg _

theorem hex_zero (width : Nat) : hex width 0 = List.replicate width '0' := by
  induction width with
  | zero => rfl
  | succ width ih => rw [hex, Nat.zero_div, ih, List.replicate_succ']; rfl

/-- A number is not zero just if one of its digits is not. -/
theorem exists_digit_ne_iff {width n : Nat} (h : n < Nat.pow 16 width) :
    (∃ c ∈ hex width n, c ≠ '0') ↔ 0 < n := by
  have zero : n = 0 ↔ ∀ c ∈ hex width n, c = '0' := by
    rw [← hex_inj h (Nat.zero_lt_of_lt h), hex_zero, List.eq_replicate_iff]
    simp
  rw [Nat.pos_iff_ne_zero, Ne, zero]
  simp

end Relay.Text
