/-!
# Punycode

Punycode writes a name of any characters with ASCII letters, digits and hyphens: first the ASCII
characters of the name and a hyphen, then for every other character, in ascending order, how far it
is from the one before, counting both code points and places. `decode` reads such a text.
-/

namespace Relay.Text.Punycode

/-- The value of a digit: letters first, in either case. -/
def digitValue (c : Char) : Option Nat :=
  if 'a' ≤ c && c ≤ 'z' then some (c.toNat - 'a'.toNat)
  else if 'A' ≤ c && c ≤ 'Z' then some (c.toNat - 'A'.toNat)
  else if c.isDigit then some (c.toNat - '0'.toNat + 26)
  else none

/-- The least digit that is followed by another one, at a place of a number. -/
def threshold (place bias : Nat) : Nat := Nat.max 1 (Nat.min 26 (place - bias))

/-- Divides a distance until it is small, and counts how often. -/
def scaled (distance : Nat) : Nat × Nat :=
  if 455 < distance then
    let (d, times) := scaled (distance / 35)
    (d, times + 1)
  else (distance, 0)

/-- The bias after a distance, of which there have been so many. -/
def adapt (distance count : Nat) (isFirst : Bool) : Nat :=
  let d := if isFirst then distance / 700 else distance / 2
  let (d, times) := scaled (d + d / count)
  36 * times + 36 * d / (d + 38)

/-- A number of digits, the least first, and what follows it. -/
def takeNumber (bias : Nat) : (place weight sum : Nat) → List Char → Option (Nat × List Char)
  | _, _, _, [] => none
  | place, weight, sum, c :: rest => do
    let digit ← digitValue c
    let t := threshold place bias
    let sum := sum + digit * weight
    if digit < t then some (sum, rest)
    else takeNumber bias (place + 36) (weight * (36 - t)) sum rest

theorem length_lt_of_takeNumber {bias place weight sum n : Nat} {s rest : List Char}
    (h : takeNumber bias place weight sum s = some (n, rest)) : rest.length < s.length := by
  induction s generalizing place weight sum with
  | nil => simp [takeNumber] at h
  | cons c s ih =>
    cases hd : digitValue c with
    | none => simp [takeNumber, hd] at h
    | some digit =>
      simp only [takeNumber, hd, Option.bind_eq_bind, Option.bind_some] at h
      split at h
      · simp only [Option.some.injEq, Prod.mk.injEq] at h
        simp [← h.2]
      · exact Nat.lt_succ_of_lt (ih h)

/-- Puts characters into a name, given the last code point, the last place and the bias. -/
def insertAll (point place bias : Nat) (isFirst : Bool) (name : List Char) (s : List Char) :
    Option (List Char) :=
  if s.isEmpty then some name
  else
    match h : takeNumber bias 36 1 0 s with
    | none => none
    | some (distance, rest) =>
      let count := name.length + 1
      let point := point + (place + distance) / count
      let place := (place + distance) % count
      if point.isValidChar then
        insertAll point (place + 1) (adapt distance count isFirst) false
          (name.insertIdx place (Char.ofNat point)) rest
      else none
termination_by s.length
decreasing_by exact length_lt_of_takeNumber h

/-- Reads a name. -/
def decode (s : List Char) : Option (List Char) :=
  let digits := (s.reverse.takeWhile (· ≠ '-')).reverse
  insertAll 128 0 72 true (s.take (s.length - digits.length - 1)) digits

end Relay.Text.Punycode
