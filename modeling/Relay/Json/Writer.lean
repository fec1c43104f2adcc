import Relay.Decimal.Layout
import Relay.Json.Kind
import Relay.Text.Hex
import Relay.Time.Text

/-!
# Writing JSON

`write` writes a value of a kind and `writeRecord` a record, compactly and with the fields in their
order. Strings escape quotes, backslashes and controls and nothing else.
-/

namespace Relay.Json

open Relay.Text

/-- How a character stands inside a string. -/
def escape (c : Char) : List Char :=
  if c = '"' then ['\\', '"']
  else if c = '\\' then ['\\', '\\']
  else if c = '\x08' then ['\\', 'b']
  else if c = '\x0c' then ['\\', 'f']
  else if c = '\n' then ['\\', 'n']
  else if c = '\r' then ['\\', 'r']
  else if c = '\t' then ['\\', 't']
  else if c.toNat < 0x20 then ['\\', 'u', '0', '0'] ++ hex 2 c.toNat
  else [c]

/-- A string. -/
def writeString (s : String) : List Char := '"' :: s.toList.flatMap escape ++ ['"']

/-- A signed number. -/
def writeInteger (i : Int) : List Char :=
  if i < 0 then '-' :: Decimal.digits i.natAbs else Decimal.digits i.natAbs

/-- A float; what is no number is null. -/
def writeFloat (x : Float) : List Char :=
  if x.isFinite then (Decimal.Layout.json.text x).toList else "null".toList

/-- A duration, by its seconds and nanoseconds. -/
def writeDuration (d : Duration) : List Char :=
  "\x7b\"secs\":".toList ++ Decimal.digits d.seconds ++ ",\"nanos\":".toList
    ++ Decimal.digits d.subsecond ++ ['\x7d']

/-- A value of a kind. -/
def write : (kind : Kind) → kind.Value → List Char
  | .text, s => writeString s
  | .uuid, u => '"' :: u.chars ++ ['"']
  | .instant, t => '"' :: t.chars ++ ['"']
  | .boolean, b => if b then "true".toList else "false".toList
  | .natural _, n => Decimal.digits n.val
  | .integer, i => writeInteger i.val
  | .number, x => writeFloat x
  | .duration, d => writeDuration d
  | .choice names, i => writeString (names.get i)
  | .optional _, none => "null".toList
  | .optional kind, some v => write kind v

/-- A field with its name. -/
def writeField (f : Field) (v : f.kind.Value) : List Char :=
  writeString f.name ++ ':' :: write f.kind v

/-- The fields of a record that follow a first one. -/
def writeMore : (fields : List Field) → Record fields → List Char
  | [], () => []
  | f :: fs, (v, vs) => ',' :: writeField f v ++ writeMore fs vs

/-- The fields of a record between its brackets. -/
def writeFields : (fields : List Field) → Record fields → List Char
  | [], () => []
  | f :: fs, (v, vs) => writeField f v ++ writeMore fs vs

/-- A record. -/
def writeRecord (fields : List Field) (r : Record fields) : List Char :=
  '\x7b' :: writeFields fields r ++ ['\x7d']

/-- The text of a record. -/
def render (fields : List Field) (r : Record fields) : String :=
  String.ofList (writeRecord fields r)

end Relay.Json
