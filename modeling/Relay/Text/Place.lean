import Relay.Decimal.Natural

/-!
# Places at the end of a text

A text about another text may end by naming a place in it, as in `trailing comma at line 1 column
7`. `Place.words` is such an ending and `Place.after` the place behind some bytes. `splitPlace`
takes an ending off, `withoutPlace` drops it, and `settlePlace` gives it the form in which places
are named: without leading zeros, and not at all if there is no such line.
-/

namespace Relay.Text

/-- A line and a column, as they are written. -/
structure WrittenPlace where
  line : List Char
  column : List Char
  deriving DecidableEq, Repr

/-- The digits at the end of a text and the rest, if the rest ends with some words. -/
def splitNumber (words s : List Char) : Option (List Char × List Char) :=
  let digits := s.reverse.takeWhile Char.isDigit
  let rest := s.reverse.dropWhile Char.isDigit
  if !digits.isEmpty && words.reverse.isPrefixOf rest then
    some ((rest.drop words.length).reverse, digits.reverse)
  else none

/-- The words before a line and before a column. -/
def lineWords : String := " at line "
def columnWords : String := " column "

/-- A line, counted from one, and the number of bytes of it that come before the place. -/
structure Place where
  line : Nat
  column : Nat
  deriving DecidableEq, Repr

/-- The place behind some bytes. -/
def Place.after (bytes : List UInt8) : Place :=
  ⟨bytes.count 10 + 1, (bytes.reverse.takeWhile (· ≠ 10)).length⟩

/-- The ending that names a place. -/
def Place.words (p : Place) : String :=
  lineWords ++ toString p.line ++ columnWords ++ toString p.column

/-- A text without the place that is named at its end, and that place. -/
def splitPlace (s : List Char) : Option (List Char × WrittenPlace) := do
  let (s, column) ← splitNumber columnWords.toList s
  let (s, line) ← splitNumber lineWords.toList s
  some (s, ⟨line, column⟩)

/-- A text without the place that is named at its end. -/
def withoutPlace (s : String) : String :=
  match splitPlace s.toList with
  | some (text, _) => String.ofList text
  | none => s

/-- The largest line and column. -/
def largestPlace : Nat := 1 <<< 64 - 1

/-- A text whose place, if one is named at its end, is written as places are. Lines are counted from
one, so that a line zero is no place. -/
def settlePlace (s : String) : String :=
  match splitPlace s.toList with
  | none => s
  | some (text, place) =>
    match Decimal.readDigits largestPlace 0 place.line,
      Decimal.readDigits largestPlace 0 place.column with
    | .ok 0, .ok _ => String.ofList text
    | .ok line, .ok column => String.ofList text ++ (Place.mk line column).words
    | _, _ => s

end Relay.Text
