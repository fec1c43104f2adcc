import Relay.Decimal.Natural

/-!
# The shortest decimal of a binary float

`Binary` is a positive binary float `mantissa · 2 ^ exponent`, and `Binary.shortest` the decimal
`digits · 10 ^ exponent` that reads back to it with the fewest digits, and of those the nearest.
The interval of reals that read back to a float reaches halfway to its two neighbours, ends
included when its mantissa is even; a decimal grid meets it only if one of the two grid points
around the float does, so the grids are tried from the coarsest on.
-/

namespace Relay.Decimal

/-- A positive float: `mantissa · 2 ^ exponent`. -/
structure Binary where
  mantissa : Nat
  exponent : Int
  /-- Whether the next smaller float is only half as far away as the next larger one. -/
  narrowBelow : Bool

/-- A decimal: `digits · 10 ^ exponent`. -/
structure Scaled where
  digits : Nat
  exponent : Int
  deriving DecidableEq, Repr

/-- The float with the given bits, its sign left out; the bits are not those of an infinity or
of no number. -/
def Binary.ofBits (bits : Nat) : Binary :=
  let fraction : Nat := bits % 1 <<< 52
  let biased : Nat := bits / 1 <<< 52 % 1 <<< 11
  if biased = 0 then ⟨fraction, -1074, false⟩
  else ⟨fraction + 1 <<< 52, (biased : Int) - 1075, fraction = 0 && 1 < biased⟩

/-- The least power of ten by which `num / den` has to be scaled up to reach one, counted from
`k`. -/
def scaleUp (num den : Nat) : Nat → Nat → Nat
  | 0, k => k
  | fuel + 1, k => if den ≤ num * Nat.pow 10 k then k else scaleUp num den fuel (k + 1)

/-- The exponent of the leading decimal digit of `num / den`, a positive number. -/
def leadingExponent (num den : Nat) : Int :=
  if den ≤ num then ((digits (num / den)).length : Int) - 1
  else -(scaleUp num den 400 1 : Int)

/-- `digits` without zeros at its end, the exponent raised instead. -/
def Scaled.normalize (fuel : Nat) (s : Scaled) : Scaled :=
  match fuel with
  | 0 => s
  | fuel + 1 =>
    if s.digits ≠ 0 ∧ s.digits % 10 = 0 then normalize fuel ⟨s.digits / 10, s.exponent + 1⟩ else s

/-- The point of the grid `10 ^ step` nearest to `num / den` that lies between `low / den` and
`high / den`, if any. -/
def onGrid (num low high den : Nat) (closed : Bool) (step : Int) : Option Scaled :=
  let up := Nat.pow 10 step.toNat
  let down := Nat.pow 10 (-step).toNat
  let below := num * down / (den * up)
  let inside (point : Nat) : Bool :=
    let scaled := point * up * den
    if closed then low * down ≤ scaled && scaled ≤ high * down
    else low * down < scaled && scaled < high * down
  let fromBelow := num * down - below * up * den
  let toAbove := (below + 1) * up * den - num * down
  match inside below && below ≠ 0, inside (below + 1) with
  | true, true =>
    if fromBelow < toAbove || (fromBelow = toAbove && below % 2 = 0) then some ⟨below, step⟩
    else some ⟨below + 1, step⟩
  | true, false => some ⟨below, step⟩
  | false, true => some ⟨below + 1, step⟩
  | false, false => none

/-- The first grid that meets the interval, from `count` digits on. -/
def firstGrid (num low high den : Nat) (closed : Bool) (lead : Int) : Nat → Nat → Scaled
  | 0, _ => ⟨num / den, 0⟩
  | fuel + 1, count =>
    match onGrid num low high den closed (lead - count + 1) with
    | some s => s
    | none => firstGrid num low high den closed lead fuel (count + 1)

/-- The decimal with the fewest digits that reads back to the float, and of those the nearest. -/
def Binary.shortest (b : Binary) : Scaled :=
  let shift := b.exponent - 2
  let up := 1 <<< shift.toNat
  let den := 1 <<< (-shift).toNat
  let num := 4 * b.mantissa * up
  let low := (4 * b.mantissa - if b.narrowBelow then 1 else 2) * up
  let high := (4 * b.mantissa + 2) * up
  (firstGrid num low high den (b.mantissa % 2 = 0) (leadingExponent num den) 17 1).normalize 400

end Relay.Decimal
