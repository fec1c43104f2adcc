import Relay.Decimal.Shortest

/-!
# Laying out a decimal

A `Layout` holds the choices that are free once the digits of a float are known: which magnitudes
are written without an exponent, whether a whole number keeps a point, and the sign of a positive
exponent. `Layout.text` writes a float by them.
-/

namespace Relay.Decimal

/-- The choices in writing a float. -/
structure Layout where
  /-- The exponents of the leading digit for which no exponent is written; `none` means all. -/
  positional : Option (Int × Int)
  /-- Whether a whole number keeps `.0`. -/
  wholePoint : Bool
  /-- Whether a positive exponent has a plus sign. -/
  plusSign : Bool

/-- Numbers in settings and messages: never an exponent, no point in a whole number. -/
def Layout.plain : Layout := ⟨none, false, false⟩

/-- Numbers in JSON: an exponent below `1e-5` and from `1e+16` on. -/
def Layout.json : Layout := ⟨some (-5, 15), true, true⟩

/-- Measured seconds: an exponent below `1e-4` and from `1e16` on. -/
def Layout.measure : Layout := ⟨some (-4, 15), true, false⟩

/-- Digits with the point `places` digits after the start, zeros filled in on either side. -/
def placePoint (whole : Bool) (ds : List Char) (places : Int) : List Char :=
  if places ≤ 0 then ['0', '.'] ++ List.replicate (-places).toNat '0' ++ ds
  else if places.toNat < ds.length then ds.take places.toNat ++ ['.'] ++ ds.drop places.toNat
  else ds ++ List.replicate (places.toNat - ds.length) '0' ++ (if whole then ['.', '0'] else [])

/-- One digit before the point, the others after it, and the exponent. -/
def withExponent (plus : Bool) (ds : List Char) (lead : Int) : List Char :=
  let mantissa := match ds with
    | [] => []
    | [d] => [d]
    | d :: rest => d :: '.' :: rest
  let sign := if lead < 0 then ['-'] else if plus then ['+'] else []
  mantissa ++ ['e'] ++ sign ++ digits lead.natAbs

/-- A positive decimal in a layout. -/
def Layout.write (l : Layout) (s : Scaled) : List Char :=
  let ds := digits s.digits
  let lead := s.exponent + ds.length - 1
  let isPositional := match l.positional with
    | none => true
    | some (low, high) => low ≤ lead && lead ≤ high
  if isPositional then placePoint l.wholePoint ds (lead + 1) else withExponent l.plusSign ds lead

/-- A float in a layout. -/
def Layout.text (l : Layout) (x : Float) : String :=
  let bits := x.toBits.toNat
  if x.isNaN then "NaN"
  else
    let sign := if bits / 1 <<< 63 = 1 then ['-'] else []
    let magnitude := bits % 1 <<< 63
    let body :=
      if x.isInf then ['i', 'n', 'f']
      else if magnitude = 0 then (if l.wholePoint then ['0', '.', '0'] else ['0'])
      else l.write (Binary.ofBits magnitude).shortest
    String.ofList (sign ++ body)

end Relay.Decimal
