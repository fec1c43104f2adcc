import Relay.Address
import Relay.Url.Escape
import Relay.Url.WebName

/-!
# Hosts of URLs

A host is an address in brackets or a name. On the web a name has its escapes taken out, may be in
any script, and is a dotted address if its last part is a number; elsewhere it is kept as it is.
`Host.readWeb` and `Host.readOpaque` read the one and the other.
-/

namespace Relay

/-- Why a text is no URL. -/
inductive UrlError where
  /-- There is no scheme. -/
  | relative
  | emptyHost
  | invalidPort
  /-- A dotted address is malformed. -/
  | invalidV4
  /-- An address in brackets is malformed. -/
  | invalidV6
  | invalidHost
  /-- A name is not one of the web. -/
  | invalidName
  deriving DecidableEq, Repr

/-- The wording of a fault in a URL. -/
def UrlError.message : UrlError → String
  | .relative => "relative URL without a base"
  | .emptyHost => "empty host"
  | .invalidPort => "invalid port number"
  | .invalidV4 => "invalid IPv4 address"
  | .invalidV6 => "invalid IPv6 address"
  | .invalidHost => "invalid domain character"
  | .invalidName => "invalid international domain name"

namespace Url.Host

open Relay.Text

/-- An address in brackets, of which the first one was taken off. -/
def readBracketed (s : List Char) : Except UrlError (List Char) :=
  if s.getLast? = some ']' then
    match Address.readV6 s.dropLast with
    | some (_, []) => .ok ('[' :: s)
    | _ => .error .invalidV6
  else .error .invalidV6

/-! ## Names that are kept as they are -/

/-- What may not stand in a name. -/
def isForbidden (c : Char) : Bool := "\x00\t\n\r #/:<>?@[\\]^|".toList.contains c

/-- Reads a host that is kept as it is. -/
def readOpaque : List Char → Except UrlError (List Char)
  | '[' :: s => readBracketed s
  | s => if s.any isForbidden then .error .invalidHost else .ok s

/-! ## Dotted addresses -/

/-- The digits of a number and its base: a leading `0x` makes it hexadecimal, a leading zero
octal. -/
def numberDigits : List Char → List Char × Nat
  | '0' :: 'x' :: ds | '0' :: 'X' :: ds => (ds, 16)
  | '0' :: d :: ds => (d :: ds, 8)
  | ds => (ds, 10)

/-- Whether a character is a digit of a base. -/
def isDigitOf (base : Nat) (c : Char) : Bool := isHexDigit c && hexValue c < base

/-- A number of a dotted address. -/
def readNumber (s : List Char) : Option Nat :=
  let (ds, base) := numberDigits s
  if s.isEmpty || !ds.all (isDigitOf base) then none
  else some (ds.foldl (fun n c => base * n + hexValue c) 0)

/-- The parts of a name; a point at its end is left out. -/
def nameParts (name : List Char) : List (List Char) :=
  let ps := parts '.' name
  if 1 < ps.length && ps.getLast? = some [] then ps.dropLast else ps

/-- Whether the last part of a name is a number. -/
def endsInNumber (name : List Char) : Bool :=
  ((nameParts name).getLast?).any fun s =>
    (!s.isEmpty && s.all Char.isDigit) || (readNumber s).isSome

/-- Reads a dotted address of one to four numbers, the last of which fills the places that the
others leave. -/
def readDotted (name : List Char) : Option (List Nat) := do
  let ps := nameParts name
  if 4 < ps.length then none
  else
    let numbers ← ps.mapM readNumber
    let last ← numbers.getLast?
    let octets := numbers.dropLast
    let places := 4 - octets.length
    if octets.any (255 < ·) || Nat.pow 256 places ≤ last then none
    else some (octets ++ (List.range places).map fun i => last / Nat.pow 256 (places - 1 - i) % 256)

/-! ## Names of the web -/

/-- Reads a name of the web. -/
def readName (s : List Char) : Except UrlError (List Char) := do
  let s ← (Utf8.decode (bytes s)).mapError fun _ => .invalidName
  let some name := WebName.settled? s | .error .invalidName
  if name.isEmpty then .error .emptyHost
  else if endsInNumber name then
    match readDotted name with
    | some octets => .ok (Address.dottedText octets).toList
    | none => .error .invalidV4
  else .ok name

/-- Reads a host of the web. -/
def readWeb : List Char → Except UrlError (List Char)
  | '[' :: s => readBracketed s
  | s => readName s

end Url.Host

end Relay
