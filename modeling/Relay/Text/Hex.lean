/-!
# Hexadecimal text

`hex width n` writes the last `width` hexadecimal digits of a number in lower case, and
`readHex` reads digits of either case. `readHex_hex` says that a number of that many digits reads
back.
-/

namespace Relay.Text

/-- Whether a character is a hexadecimal digit, in either case. -/
def isHexDigit (c : Char) : Bool :=
  c.isDigit || ('a' ≤ c && c ≤ 'f') || ('A' ≤ c && c ≤ 'F')

/-- Whether a character is a hexadecimal digit in lower case. -/
def isLowerHexDigit (c : Char) : Bool := c.isDigit || ('a' ≤ c && c ≤ 'f')

/-- The value of a hexadecimal digit. -/
def hexValue (c : Char) : Nat :=
  if c.isDigit then c.toNat - '0'.toNat
  else if 'a' ≤ c then c.toNat - 'a'.toNat + 10
  else c.toNat - 'A'.toNat + 10

/-- The value of a text of hexadecimal digits, read onto `n`. -/
def hexOnto (n : Nat) : List Char → Nat
  | [] => n
  | c :: rest => hexOnto (16 * n + hexValue c) rest

/-- Reads a text of hexadecimal digits, in either case. -/
def readHex (s : List Char) : Option Nat := if s.all isHexDigit then some (hexOnto 0 s) else none

/-- The last `width` hexadecimal digits of a number. -/
def hex : (width n : Nat) → List Char
  | 0, _ => []
  | width + 1, n => hex width (n / 16) ++ [(n % 16).digitChar]

@[simp] theorem length_hex (width n : Nat) : (hex width n).length = width := by
  induction width generalizing n with
  | zero => rfl
  | succ width ih => simp [hex, ih]

theorem isLowerHexDigit_digitChar {d : Nat} (h : d < 16) : isLowerHexDigit d.digitChar = true := by
  rcases d with _ | _ | _ | _ | _ | _ | _ | _ | _ | _ | _ | _ | _ | _ | _ | _ | d <;>
    first | rfl | omega

theorem hexValue_digitChar {d : Nat} (h : d < 16) : hexValue d.digitChar = d := by
  rcases d with _ | _ | _ | _ | _ | _ | _ | _ | _ | _ | _ | _ | _ | _ | _ | _ | d <;>
    first | rfl | omega

theorem isLowerHexDigit_of_mem_hex {width n : Nat} {c : Char} (h : c ∈ hex width n) :
    isLowerHexDigit c = true := by
  induction width generalizing n with
  | zero => simp [hex] at h
  | succ width ih =>
    rcases List.mem_append.1 h with h | h
    · exact ih h
    · rw [List.mem_singleton.1 h]
      exact isLowerHexDigit_digitChar (Nat.mod_lt _ (by omega))

theorem isHexDigit_of_lower {c : Char} (h : isLowerHexDigit c = true) : isHexDigit c = true := by
  simp only [isLowerHexDigit, isHexDigit, Bool.or_eq_true] at *
  exact Or.inl h

/-- The digits of a number split at any place. -/
theorem hex_add (a b n : Nat) : hex (a + b) n = hex a (n / Nat.pow 16 b) ++ hex b n := by
  induction b generalizing n with
  | zero => simp [hex]
  | succ b ih =>
    have shifted : Nat.pow 16 (b + 1) = 16 * Nat.pow 16 b := Nat.mul_comm _ 16
    rw [← Nat.add_assoc, hex, ih (n / 16), hex, Nat.div_div_eq_div_mul, shifted,
      List.append_assoc]

theorem hexOnto_append (n : Nat) (s t : List Char) :
    hexOnto n (s ++ t) = hexOnto (hexOnto n s) t := by
  induction s generalizing n with
  | nil => rfl
  | cons c s ih => exact ih _

theorem hexOnto_hex {width n : Nat} (h : n < Nat.pow 16 width) :
    hexOnto 0 (hex width n) = n := by
  induction width generalizing n with
  | zero =>
    have h : n < 1 := h
    simp only [hex, hexOnto]
    omega
  | succ width ih =>
    have hq : n / 16 < Nat.pow 16 width := by
      rw [Nat.div_lt_iff_lt_mul (by omega)]
      exact h
    rw [hex, hexOnto_append, ih hq]
    simp only [hexOnto, hexValue_digitChar (Nat.mod_lt n (show 0 < 16 by omega))]
    omega

/-- A number of at most `width` digits reads back. -/
theorem readHex_hex {width n : Nat} (h : n < Nat.pow 16 width) :
    readHex (hex width n) = some n := by
  have all : (hex width n).all isHexDigit = true :=
    List.all_eq_true.2 fun c hc => isHexDigit_of_lower (isLowerHexDigit_of_mem_hex hc)
  simp [readHex, all, hexOnto_hex h]

end Relay.Text
