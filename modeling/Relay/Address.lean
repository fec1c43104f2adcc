import Relay.Decimal.Natural
import Relay.Text.Hex

/-!
# Network addresses

An `Address` is an address of either version of the internet protocol with a port. `Address.read`
reads `a.b.c.d:port` and `[v6]:port`, where a v6 address may end with a dotted v4 address, may leave
out one run of zero groups and may have a numeric scope. `Address.text` writes the canonical form:
the first of the longest runs of two zero groups or more is left out.
-/

namespace Relay

/-- An address and a port. -/
inductive Address where
  | v4 (octets : List Nat) (port : Nat)
  | v6 (groups : List Nat) (scope port : Nat)
  deriving DecidableEq, Repr

namespace Address

open Relay.Decimal Relay.Text

/-! ## Reading -/

/-- One to three digits below 256, without leading zeros. -/
def readOctet (s : List Char) : Option (Nat × List Char) :=
  let ds := s.takeWhile Char.isDigit
  if ds.isEmpty || 3 < ds.length || (ds.head? = some '0' && 1 < ds.length) then none
  else
    match readDigits 255 0 ds with
    | .ok n => some (n, s.drop ds.length)
    | .error _ => none

/-- Any number of digits of a number up to `max`. -/
def readAny (max : Nat) (s : List Char) : Option (Nat × List Char) :=
  let ds := s.takeWhile Char.isDigit
  if ds.isEmpty then none
  else
    match readDigits max 0 ds with
    | .ok n => some (n, s.drop ds.length)
    | .error _ => none

/-- A character that has to come next. -/
def expect (c : Char) : List Char → Option (List Char)
  | d :: rest => if d = c then some rest else none
  | [] => none

/-- A colon and a port. -/
def readPort (s : List Char) : Option (Nat × List Char) := do readAny 65535 (← expect ':' s)

/-- Four octets with points between them. -/
def readV4 (s : List Char) : Option (List Nat × List Char) := do
  let (a, s) ← readOctet s
  let (b, s) ← readOctet (← expect '.' s)
  let (c, s) ← readOctet (← expect '.' s)
  let (d, s) ← readOctet (← expect '.' s)
  some ([a, b, c, d], s)

/-- One to four hexadecimal digits. -/
def readGroup (s : List Char) : Option (Nat × List Char) :=
  let ds := s.takeWhile isHexDigit
  if ds.isEmpty || 4 < ds.length then none else some (hexOnto 0 ds, s.drop ds.length)

/-- Up to `room` groups with colons between them, and whether they end with a dotted address, which
takes the place of two groups. -/
def readGroups : (room : Nat) → (first : Bool) → List Char → List Nat × Bool × List Char
  | 0, _, s => ([], false, s)
  | room + 1, first, s =>
    let start := if first then some s else expect ':' s
    let dotted := if 0 < room then start.bind readV4 else none
    match dotted with
    | some ([a, b, c, d], rest) => ([256 * a + b, 256 * c + d], true, rest)
    | _ =>
      match start.bind readGroup with
      | none => ([], false, s)
      | some (g, rest) =>
        let (gs, isDotted, rest) := readGroups room false rest
        (g :: gs, isDotted, rest)

/-- Eight groups, a run of which may be left out. -/
def readV6 (s : List Char) : Option (List Nat × List Char) :=
  let (head, isDotted, rest) := readGroups 8 true s
  if head.length = 8 then some (head, rest)
  else if isDotted then none
  else do
    let rest ← expect ':' (← expect ':' rest)
    let (tail, _, rest) := readGroups (7 - head.length) true rest
    some (head ++ List.replicate (8 - head.length - tail.length) 0 ++ tail, rest)

/-- An address in brackets and its port. -/
def readBracketed (s : List Char) : Option (Address × List Char) := do
  let s ← expect '[' s
  let (groups, s) ← readV6 s
  let zone : Option (Nat × List Char) := do readAny (1 <<< 32 - 1) (← expect '%' s)
  let (scope, s) := zone.getD (0, s)
  let (port, s) ← readPort (← expect ']' s)
  some (.v6 groups scope port, s)

/-- A dotted address and its port. -/
def readDotted (s : List Char) : Option (Address × List Char) := do
  let (octets, s) ← readV4 s
  let (port, s) ← readPort s
  some (.v4 octets port, s)

/-- Reads an address, which has to take up the whole text. -/
def read (s : List Char) : Option Address :=
  match (readDotted s).or (readBracketed s) with
  | some (a, []) => some a
  | _ => none

/-! ## Writing -/

/-- Numbers with points between them. -/
def dottedText (octets : List Nat) : String := ".".intercalate (octets.map toString)

/-- Groups with colons between them. -/
def groupsText (groups : List Nat) : String :=
  ":".intercalate (groups.map fun g => String.ofList (Nat.toDigits 16 g))

/-- The length of the run of zeros at the start. -/
def zeroRun (groups : List Nat) : Nat := (groups.takeWhile (· = 0)).length

/-- The start and the length of the first of the longest runs of zeros. -/
def longestRun (place : Nat) : List Nat → Nat × Nat
  | [] => (place, 0)
  | g :: gs =>
    let here := zeroRun (g :: gs)
    let later := longestRun (place + 1) gs
    if later.2 ≤ here then (place, here) else later

/-- A v6 address. -/
def v6Text (groups : List Nat) : String :=
  match groups with
  | [0, 0, 0, 0, 0, 0xffff, a, b] =>
    "::ffff:" ++ dottedText [a / 256, a % 256, b / 256, b % 256]
  | _ =>
    let (start, length) := longestRun 0 groups
    if length ≤ 1 then groupsText groups
    else groupsText (groups.take start) ++ "::" ++ groupsText (groups.drop (start + length))

/-- The canonical text of an address. -/
def text : Address → String
  | .v4 octets port => dottedText octets ++ ":" ++ toString port
  | .v6 groups scope port =>
    "[" ++ v6Text groups ++ (if scope = 0 then "" else "%" ++ toString scope) ++ "]:"
      ++ toString port

end Address

end Relay
