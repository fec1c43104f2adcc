import Relay.Decimal.Layout
import Relay.Text.Place
import Relay.Text.Quoted

/-!
# Faults in JSON text

A `Problem` is why a text is not the JSON of a wanted kind: it breaks off, a character stands where
another was needed, or a value is not of the kind. A `Fault` is a problem and the place in the text
where it was met. `Fault.message` words both.
-/

namespace Relay.Json

/-- What was found where something else was wanted. -/
inductive Found where
  | null
  | boolean (b : Bool)
  | integer (i : Int)
  | float (x : Float)
  | text (s : String)
  | sequence
  | map

/-- Why a text was refused. -/
inductive Problem where
  | endInList
  | endInObject
  | endInString
  | endInValue
  | colonWanted
  | listCommaWanted
  | objectCommaWanted
  | wordWanted
  | valueWanted
  | badEscape
  | badNumber
  | numberTooLarge
  | controlInString
  | keyNotText
  | loneSurrogate
  | endOfEscape
  | trailingComma
  | trailingCharacters
  /-- A value of another type. -/
  | type (found : Found) (wanted : String)
  /-- A value of the right type that is out of range. -/
  | range (found : Found) (wanted : String)
  /-- A list of the wrong length. -/
  | length (found : Nat) (wanted : String)
  | missingField (name : String)
  | duplicateField (name : String)
  | unknownField (name : String) (known : List String)
  | unknownVariant (name : String) (known : List String)
  /-- A text that cannot be read as what it should hold. -/
  | content (reason : String)

/-- A name between backticks. -/
def ticked (name : String) : String := String.ofList ('\x60' :: name.toList ++ ['\x60'])

/-- A choice of names. -/
def oneOf : List String → String
  | [] => "nothing"
  | [a] => ticked a
  | [a, b] => ticked a ++ " or " ++ ticked b
  | names => "one of " ++ ", ".intercalate (names.map ticked)

/-- The wording of what was found. -/
def Found.message : Found → String
  | .null => "null"
  | .boolean b => "boolean " ++ ticked (if b then "true" else "false")
  | .integer i => "integer " ++ ticked (toString i)
  | .float x => "floating point " ++ ticked (Decimal.Layout.json.text x)
  | .text s => "string " ++ Text.quote s
  | .sequence => "sequence"
  | .map => "map"

/-- The wording of a problem. -/
def Problem.message : Problem → String
  | .endInList => "EOF while parsing a list"
  | .endInObject => "EOF while parsing an object"
  | .endInString => "EOF while parsing a string"
  | .endInValue => "EOF while parsing a value"
  | .colonWanted => "expected " ++ ticked ":"
  | .listCommaWanted => "expected " ++ ticked "," ++ " or " ++ ticked "]"
  | .objectCommaWanted => "expected " ++ ticked "," ++ " or " ++ ticked "\x7d"
  | .wordWanted => "expected ident"
  | .valueWanted => "expected value"
  | .badEscape => "invalid escape"
  | .badNumber => "invalid number"
  | .numberTooLarge => "number out of range"
  | .controlInString => "control character (\\u0000-\\u001F) found while parsing a string"
  | .keyNotText => "key must be a string"
  | .loneSurrogate => "lone leading surrogate in hex escape"
  | .endOfEscape => "unexpected end of hex escape"
  | .trailingComma => "trailing comma"
  | .trailingCharacters => "trailing characters"
  | .type found wanted => "invalid type: " ++ found.message ++ ", expected " ++ wanted
  | .range found wanted => "invalid value: " ++ found.message ++ ", expected " ++ wanted
  | .length found wanted => "invalid length " ++ toString found ++ ", expected " ++ wanted
  | .missingField name => "missing field " ++ ticked name
  | .duplicateField name => "duplicate field " ++ ticked name
  | .unknownField name known => "unknown field " ++ ticked name ++ ", expected " ++ oneOf known
  | .unknownVariant name known => "unknown variant " ++ ticked name ++ ", expected " ++ oneOf known
  | .content reason => reason

/-- Why a text was refused, and where. -/
structure Fault where
  problem : Problem
  place : Text.Place

/-- The wording of a fault, which ends with its place. -/
def Fault.message (f : Fault) : String := f.problem.message ++ f.place.words

end Relay.Json
