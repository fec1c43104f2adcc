import Relay.Text.Hex
import Relay.Text.Utf8

/-!
# Escapes in URLs

Any byte may be written as a percent sign and two hexadecimal digits. `bytes` takes the escapes out
of a text; `unescaped` and `unescapedLossy` read what is left as text.
-/

namespace Relay.Url

open Relay.Text

/-- The bytes of a text with escapes. A percent sign that is followed by no digits stands for
itself. -/
def bytes : List Char → List UInt8
  | '%' :: a :: b :: rest =>
    if isHexDigit a && isHexDigit b then UInt8.ofNat (hexOnto 0 [a, b]) :: bytes rest
    else Utf8.encode ['%'] ++ bytes (a :: b :: rest)
  | c :: rest => Utf8.encode [c] ++ bytes rest
  | [] => []

/-- A text without its escapes, if they make up a text. -/
def unescaped (s : List Char) : Except Utf8.Fault String :=
  (Utf8.decode (bytes s)).map String.ofList

/-- A text without its escapes, come what may. -/
def unescapedLossy (s : List Char) : String := String.ofList (Utf8.decodeLossy (bytes s))

end Relay.Url
