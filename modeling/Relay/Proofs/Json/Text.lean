import Mathlib.Data.List.Basic
import Mathlib.Tactic.SplitIfs
import Relay.Json.Reader
import Relay.Json.Writer

/-!
# Strings that come back

A string reads back from its JSON text, whatever characters it holds and whatever follows it
(`readText_writeString`). Every character reads back from its escape (`readUnit_escape`), and the
text is long enough that reading does not run out of fuel. A text whose characters need no escape
stands between its quotes as it is (`writeString_ofList`).
-/

namespace Relay.Json

open Relay.Text

/-! ## Escapes -/

theorem utf8Size_of_isLowerHexDigit {c : Char} (h : isLowerHexDigit c = true) : c.utf8Size = 1 := by
  simp only [isLowerHexDigit, Char.isDigit, Bool.or_eq_true, Bool.and_eq_true,
    decide_eq_true_eq, Char.le_def, ge_iff_le] at h
  obtain ⟨-, high⟩ | ⟨-, high⟩ := h
  · exact Char.utf8Size_eq_one_iff.2 (UInt32.le_trans high (by decide))
  · exact Char.utf8Size_eq_one_iff.2 (UInt32.le_trans high (by decide))

theorem foldl_utf8Size {s : List Char} (h : ∀ c ∈ s, c.utf8Size = 1) (n : Nat) :
    s.foldl (fun n c => n + c.utf8Size) n = n + s.length := by
  induction s generalizing n with
  | nil => rfl
  | cons c s ih =>
    rw [List.foldl_cons, ih (fun d mem => h d (List.mem_cons_of_mem _ mem)), h c (by simp),
      List.length_cons]
    omega

/-- Four digits read back. -/
theorem readHex4_hex {n : Nat} (h : n < Nat.pow 16 4) (rest : List Char) :
    readHex4 (hex 4 n ++ rest) = .ok (n, rest) := by
  have four : (hex 4 n).length = 4 := length_hex 4 n
  have taken : (hex 4 n ++ rest).take 4 = hex 4 n := List.take_left' four
  have left : (hex 4 n ++ rest).drop 4 = rest := List.drop_left' four
  have bytes : byteCount (hex 4 n) = 4 := by
    have digits : ∀ c ∈ hex 4 n, c.utf8Size = 1 := fun c mem =>
      utf8Size_of_isLowerHexDigit (isLowerHexDigit_of_mem_hex mem)
    rw [byteCount, foldl_utf8Size digits, four]
  simp only [readHex4, taken, left, bytes, readHex_hex h, Nat.lt_irrefl, if_false]

/-- The escape of a control has four digits, the first two of which are zeros. -/
theorem hex_four_of_lt {n : Nat} (h : n < 0x100) : hex 4 n = '0' :: '0' :: hex 2 n := by
  rw [show 4 = 2 + 2 from rfl, hex_add, Nat.div_eq_of_lt h]
  rfl

/-- **A character reads back from its escape.** -/
theorem readUnit_escape (c : Char) (rest : List Char) :
    readUnit (escape c ++ rest) = .ok (some c, rest) := by
  unfold escape
  split_ifs with quote slash backspace feed line carriage tab control
  case pos => subst quote; rfl
  case pos => subst slash; rfl
  case pos => subst backspace; rfl
  case pos => subst feed; rfl
  case pos => subst line; rfl
  case pos => subst carriage; rfl
  case pos => subst tab; rfl
  case pos =>
    have digits : ['\\', 'u', '0', '0'] ++ hex 2 c.toNat ++ rest =
        '\\' :: 'u' :: (hex 4 c.toNat ++ rest) := by
      rw [hex_four_of_lt (by omega)]
      rfl
    have low : ¬ (0xdc00 ≤ c.toNat ∧ c.toNat ≤ 0xdfff) := by omega
    have high : ¬ (0xd800 ≤ c.toNat ∧ c.toNat ≤ 0xdbff) := by omega
    have read : readEscape ('u' :: (hex 4 c.toNat ++ rest)) = .ok (c, rest) := by
      rw [readEscape, readHex4_hex (Nat.lt_trans control (by decide))]
      simp [bind, Except.bind, low, high, Char.ofNat_toNat]
    rw [digits, readUnit, read]
    rfl
  case neg =>
    rw [List.singleton_append, readUnit, if_neg control]
    · exact quote
    · exact slash

/-- The characters of a string read back, with more fuel than characters. -/
theorem readUnits_escape (cs rest : List Char) {fuel : Nat} (h : cs.length < fuel) :
    readUnits fuel (cs.flatMap escape ++ '"' :: rest) = .ok (cs, rest) := by
  induction cs generalizing fuel with
  | nil =>
    obtain ⟨fuel, rfl⟩ := Nat.exists_eq_add_one_of_ne_zero (Nat.ne_of_gt h)
    rfl
  | cons c cs ih =>
    obtain ⟨fuel, rfl⟩ := Nat.exists_eq_add_one_of_ne_zero (Nat.ne_of_gt (Nat.zero_lt_of_lt h))
    have more : cs.length < fuel := by simpa using h
    rw [List.flatMap_cons, List.append_assoc, readUnits, readUnit_escape]
    simp only [bind, Except.bind, ih more]

theorem one_le_length_escape (c : Char) : 1 ≤ (escape c).length := by
  unfold escape
  split_ifs <;> simp

theorem length_le_flatMap_escape (cs : List Char) : cs.length ≤ (cs.flatMap escape).length := by
  induction cs with
  | nil => simp
  | cons c cs ih =>
    have one := one_le_length_escape c
    rw [List.flatMap_cons, List.length_append, List.length_cons]
    omega

/-! ## Strings -/

/-- A string reads back, once its opening quote is read. -/
theorem readString_escape (s : String) (rest : List Char) :
    readString (s.toList.flatMap escape ++ '"' :: rest) = .ok (s, rest) := by
  have fuel : s.toList.length < (s.toList.flatMap escape ++ '"' :: rest).length + 1 := by
    have long := length_le_flatMap_escape s.toList
    rw [List.length_append]
    omega
  rw [readString, readUnits_escape s.toList rest fuel]
  simp [Except.map, String.ofList_toList]

theorem writeString_append (s : String) (rest : List Char) :
    writeString s ++ rest = '"' :: (s.toList.flatMap escape ++ '"' :: rest) := by
  simp [writeString]

/-- **A string reads back from its text.** -/
theorem readText_writeString (wanted s : String) (rest : List Char) :
    readText wanted (writeString s ++ rest) = .ok (s, rest) := by
  rw [writeString_append]
  exact readString_escape s rest

example : writeString "\"a\n\x00" = "\"\\\"a\\n\\u0000\"".toList := by decide

/-- What a string holds reads back, if it reads back from the characters of the string. -/
theorem readContent_writeString {α : Type} (wanted : String) {content : List Char → Except String α}
    {s : String} {v : α} (h : content s.toList = .ok v) (rest : List Char) :
    readContent wanted content (writeString s ++ rest) = .ok (v, rest) := by
  rw [readContent, readText_writeString]
  simp only [bind, Except.bind, h]

/-- A character from the blank on is its own escape, unless it is a quote or a backslash. -/
theorem escape_of_le {c : Char} (printed : 0x20 ≤ c.toNat) (quote : c ≠ '"') (slash : c ≠ '\\') :
    escape c = [c] := by
  have other : ∀ d : Char, d.toNat < 0x20 → c ≠ d := by
    rintro d low rfl
    omega
  have controls : c ≠ '\x08' ∧ c ≠ '\x0c' ∧ c ≠ '\n' ∧ c ≠ '\r' ∧ c ≠ '\t' :=
    ⟨other _ (by decide), other _ (by decide), other _ (by decide), other _ (by decide),
      other _ (by decide)⟩
  simp only [escape, quote, slash, controls, Nat.not_lt.2 printed, if_false]

/-- Characters that are their own escapes stand between the quotes as they are. -/
theorem writeString_ofList {cs : List Char} (h : ∀ c ∈ cs, escape c = [c]) :
    writeString (String.ofList cs) = '"' :: cs ++ ['"'] := by
  have same : cs.flatMap escape = cs := by
    induction cs with
    | nil => rfl
    | cons c cs ih =>
      rw [List.flatMap_cons, h c (by simp), ih fun d mem => h d (List.mem_cons_of_mem _ mem)]
      rfl
  rw [writeString, String.toList_ofList, same]

end Relay.Json
