import Relay.Text.Hex

/-!
# UUIDs

A `Uuid` is a 128-bit number written as five groups of hexadecimal digits. `Uuid.read` takes the
plain 32 digits, the five groups, and the five groups in braces or behind `urn:uuid:`, in either
case. `Uuid.readGroups_chars` says that the five groups of an identifier read back.
-/

namespace Relay

/-- A universally unique identifier. -/
structure Uuid where
  toNat : Nat
  toNat_lt : toNat < 1 <<< 128
  deriving DecidableEq, Repr

/-- Why a text is no identifier. -/
inductive UuidError where
  /-- The length is that of no form. -/
  | length (found : Nat)
  /-- A character that is neither a hexadecimal digit nor a hyphen, and its place in bytes. -/
  | character (found : Char) (place : Nat)
  /-- The number of groups is not five. -/
  | groupCount (found : Nat)
  /-- A group has the wrong length. -/
  | groupLength (group expected found : Nat)
  deriving DecidableEq, Repr

/-- The wording of a fault in an identifier. -/
def UuidError.message : UuidError → String
  | .length n => s!"invalid length: found {n}"
  | .character c place =>
    String.ofList ("invalid character: found `".toList ++ [c] ++ "` at ".toList) ++ toString place
  | .groupCount n => s!"invalid group count: expected 5, found {n}"
  | .groupLength group expected found =>
    s!"invalid group length in group {group}: expected {expected}, found {found}"

namespace Uuid

open Relay.Text

instance : Inhabited Uuid := ⟨⟨0, by omega⟩⟩

instance : Ord Uuid := ⟨fun a b => compare a.toNat b.toNat⟩
instance : LE Uuid := ⟨fun a b => a.toNat ≤ b.toNat⟩
instance : LT Uuid := ⟨fun a b => a.toNat < b.toNat⟩
instance (a b : Uuid) : Decidable (a ≤ b) := inferInstanceAs (Decidable (a.toNat ≤ b.toNat))
instance (a b : Uuid) : Decidable (a < b) := inferInstanceAs (Decidable (a.toNat < b.toNat))

theorem ext_toNat {a b : Uuid} (h : a.toNat = b.toNat) : a = b := by
  cases a; cases b; simpa using h

/-- The identifier with the given 128 bits. -/
def ofNat (n : Nat) : Uuid := ⟨n % 1 <<< 128, Nat.mod_lt _ (by omega)⟩

/-- The characters of an identifier: groups of 8, 4, 4, 4 and 12 digits. -/
def chars (u : Uuid) : List Char :=
  hex 8 (u.toNat / Nat.pow 16 24) ++ '-' :: hex 4 (u.toNat / Nat.pow 16 20)
    ++ '-' :: hex 4 (u.toNat / Nat.pow 16 16) ++ '-' :: hex 4 (u.toNat / Nat.pow 16 12)
    ++ '-' :: hex 12 u.toNat

/-- The text of an identifier. -/
def text (u : Uuid) : String := String.ofList u.chars

instance : ToString Uuid := ⟨text⟩

/-- The number of bytes a text takes. -/
def byteLength (s : List Char) : Nat := s.foldl (fun n c => n + c.utf8Size) 0

/-- Reads 32 digits. -/
def readDigits32 (s : List Char) : Option Uuid :=
  if s.length = 32 then (readHex s).map ofNat else none

/-- Reads five groups of digits with hyphens between them. -/
def readGroups (s : List Char) : Option Uuid :=
  if s.length = 36 ∧ s[8]? = some '-' ∧ s[13]? = some '-' ∧ s[18]? = some '-' ∧
      s[23]? = some '-' then
    readDigits32 (s.take 8 ++ (s.drop 9).take 4 ++ (s.drop 14).take 4 ++ (s.drop 19).take 4
      ++ s.drop 24)
  else none

/-- What is around an identifier in one of the longer forms is taken off, and its length told. -/
def unwrap (s : List Char) : Option (List Char × Nat) :=
  if s.length ≥ 2 ∧ s.head? = some '\x7b' ∧ s.getLast? = some '\x7d' then
    some ((s.drop 1).dropLast, 1)
  else if (s.take 9).map Char.toLower = "urn:uuid:".toList then some (s.drop 9, 9)
  else none

/-- The first character that belongs to no identifier, and its place in bytes. -/
def firstStray (place : Nat) : List Char → Option (Char × Nat)
  | [] => none
  | c :: rest =>
    if c = '-' || isHexDigit c then firstStray (place + c.utf8Size) rest else some (c, place)

/-- The places of the hyphens. -/
def hyphens (place : Nat) : List Char → List Nat
  | [] => []
  | c :: rest => if c = '-' then place :: hyphens (place + 1) rest else hyphens (place + 1) rest

/-- The first group of the wrong length, given the places of four hyphens and the length of the
whole text. -/
def wrongGroup (length : Nat) : List Nat → UuidError
  | [a, b, c, d] =>
    if a ≠ 8 then .groupLength 0 8 a
    else if b ≠ 13 then .groupLength 1 4 (b - 9)
    else if c ≠ 18 then .groupLength 2 4 (c - 14)
    else if d ≠ 23 then .groupLength 3 4 (d - 19)
    else .groupLength 4 12 (length - 24)
  | hs => .groupCount (hs.length + 1)

/-- The part of a text in which the groups are looked for, the place from which its characters are
counted, and whether it must have groups. A text of the length of a form is taken for that form. -/
def suspect (s : List Char) : List Char × Nat × Bool :=
  match byteLength s, unwrap s with
  | 32, _ => (s, 0, false)
  | 36, _ => (s, 0, true)
  | 38, some (body, 1) => (body, 0, true)
  | 45, some (body, 9) => (body, 0, true)
  | _, some (body, start) => (body, start, true)
  | _, none => (s, 0, false)

/-- What is wrong with a text that is no identifier. -/
def fault (s : List Char) : UuidError :=
  let length := byteLength s
  if length = 0 ∨ 45 < length then .length length
  else
    let (body, start, grouped) := suspect s
    match firstStray start body with
    | some (c, place) => .character c place
    | none =>
      let hs := hyphens 0 body
      if hs.isEmpty && !grouped then .length length else wrongGroup length hs

/-- Reads an identifier. -/
def read (s : List Char) : Except UuidError Uuid :=
  let found := match unwrap s with
    | some (body, _) => readGroups body
    | none => (readDigits32 s).or (readGroups s)
  match found with
  | some u => .ok u
  | none => .error (fault s)

/-- Hyphens between groups of the right lengths are passed over. -/
theorem readGroups_groups {a b c d e : List Char} (ha : a.length = 8) (hb : b.length = 4)
    (hc : c.length = 4) (hd : d.length = 4) (he : e.length = 12) :
    readGroups (a ++ '-' :: b ++ '-' :: c ++ '-' :: d ++ '-' :: e)
      = readDigits32 (a ++ b ++ c ++ d ++ e) := by
  have short : ∀ {s : List Char} {n : Nat} (m : Nat), s.length = n → n ≤ m → s.drop m = [] :=
    fun m h hm => List.drop_eq_nil_of_le (by omega)
  simp [readGroups, List.drop_append, ha, hb, hc, hd, he, short _ ha, short _ hb,
    short _ hc, short _ hd]

/-- The five groups of an identifier read back. -/
theorem readGroups_chars (u : Uuid) : readGroups u.chars = some u := by
  have lt : u.toNat < Nat.pow 16 32 := u.toNat_lt
  have joined : hex 8 (u.toNat / Nat.pow 16 24) ++ hex 4 (u.toNat / Nat.pow 16 20)
      ++ hex 4 (u.toNat / Nat.pow 16 16) ++ hex 4 (u.toNat / Nat.pow 16 12) ++ hex 12 u.toNat
      = hex 32 u.toNat := by
    rw [show 32 = 8 + (4 + (4 + (4 + 12))) from rfl, hex_add, hex_add, hex_add, hex_add]
    simp only [List.append_assoc]
  rw [chars, readGroups_groups (length_hex ..) (length_hex ..) (length_hex ..) (length_hex ..)
    (length_hex ..), joined]
  simp only [readDigits32, length_hex, if_true, readHex_hex lt, Option.map_some, ofNat]
  exact congrArg some (ext_toNat (Nat.mod_eq_of_lt u.toNat_lt))

end Uuid

end Relay
