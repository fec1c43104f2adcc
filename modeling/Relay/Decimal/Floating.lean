import Relay.Decimal.Natural

/-!
# Reading floats

`readFloat` reads a decimal with an optional sign, fraction and exponent, or one of the words for
infinity and for no number in any case, and rounds it correctly. At least one digit has to stand
before or after the point, and at least one in an exponent. `scaled` is the rounding, shared with
the numbers of JSON.
-/

namespace Relay.Decimal

/-- The text is no float. -/
structure FloatError where
  deriving DecidableEq, Repr

/-- The wording of a fault in a float. -/
def FloatError.message (_ : FloatError) : String := "invalid float literal"

/-- The value of a text of ASCII digits. -/
def natOfDigits (s : List Char) : Nat :=
  s.foldl (fun n c => 10 * n + digitValue c) 0

/-- The float nearest to `mantissa · 10 ^ exponent`; out of range is zero or infinity. -/
def scaled (mantissa : Nat) (exponent : Int) : Float :=
  let lead := exponent + (digits mantissa).length
  if mantissa = 0 || lead < -330 then 0
  else if lead > 310 then 1.0 / 0.0
  else if exponent < 0 then Float.ofScientific mantissa true exponent.natAbs
  else Float.ofScientific mantissa false exponent.natAbs

/-- A leading sign, and whether it is a minus. -/
def takeSign : List Char → Bool × List Char
  | '-' :: rest => (true, rest)
  | '+' :: rest => (false, rest)
  | s => (false, s)

/-- The exponent part of a decimal, which has to take up the whole text. -/
def readExponent : List Char → Option Int
  | [] => some 0
  | c :: rest =>
    if c = 'e' || c = 'E' then
      let (negative, ds) := takeSign rest
      if ds.isEmpty || !ds.all Char.isDigit then none
      else some (if negative then -(natOfDigits ds : Int) else natOfDigits ds)
    else none

/-- A decimal without sign. -/
def readDecimal (s : List Char) : Option Float :=
  let whole := s.takeWhile Char.isDigit
  let (fraction, rest) := match s.dropWhile Char.isDigit with
    | '.' :: r => (r.takeWhile Char.isDigit, r.dropWhile Char.isDigit)
    | r => ([], r)
  if whole.isEmpty && fraction.isEmpty then none
  else (readExponent rest).map fun e =>
    scaled (natOfDigits (whole ++ fraction)) (e - fraction.length)

/-- Reads a float. -/
def readFloat (s : List Char) : Except FloatError Float :=
  let (negative, body) := takeSign s
  let word := String.ofList (body.map Char.toLower)
  let magnitude : Option Float :=
    if word = "inf" || word = "infinity" then some (1.0 / 0.0)
    else if word = "nan" then some (0.0 / 0.0)
    else readDecimal body
  match magnitude with
  | none => .error {}
  | some x => .ok (if negative then -x else x)

end Relay.Decimal
