import Relay.Url.Host
import Relay.Url.Path

/-!
# URLs

A `Url` is a scheme, perhaps an authority (a user, a host and a port), a path and perhaps a query.
`Url.read` takes a text apart and says why it cannot. Schemes of the web need a host; files and any
other scheme may go without one. `Url.parameters` are the names and values of a query, in their
order.
-/

namespace Relay

/-- The parts of a URL, with their escapes. -/
structure Url where
  scheme : String
  username : List Char := []
  password : Option (List Char) := none
  host : Option (List Char) := none
  /-- The port, where it is not the one of the scheme. -/
  port : Option Nat := none
  path : List Char
  query : Option (List Char)
  deriving DecidableEq, Repr

namespace Url

open Relay.Text

/-- Without controls and blanks around it, and without tabs and line ends in it. -/
def cleaned (s : List Char) : List Char :=
  let inner := ((s.dropWhile (· ≤ ' ')).reverse.dropWhile (· ≤ ' ')).reverse
  inner.filter fun c => c ≠ '\t' && c ≠ '\n' && c ≠ '\r'

/-- What may stand in a scheme after its first letter. -/
def isSchemeChar (c : Char) : Bool := c.isAlphanum || c = '+' || c = '-' || c = '.'

/-- The scheme, in lower case, and what follows its colon. -/
def takeScheme (s : List Char) : Option (String × List Char) :=
  match splitBefore (fun c => !isSchemeChar c) s with
  | (c :: cs, ':' :: rest) =>
    if c.isAlpha then some (String.ofList ((c :: cs).map Char.toLower), rest) else none
  | _ => none

/-- The schemes of the web, with their ports. -/
def webPorts : List (String × Nat) :=
  [("http", 80), ("https", 443), ("ws", 80), ("wss", 443), ("ftp", 21)]

/-- Whether a scheme is one of the web. -/
def isWeb (scheme : String) : Bool := (webPorts.lookup scheme).isSome

/-- The user that an authority begins with, and the rest of it. -/
def takeUser (authority : List Char) : Option (List Char) × List Char :=
  match splitLast (· = '@') authority with
  | some (user, rest) => (some user, rest)
  | none => (none, authority)

/-- The host at the front of an authority, and what follows it. Colons in brackets belong to the
host. -/
def takeHost (inside : Bool) : List Char → List Char × List Char
  | [] => ([], [])
  | c :: rest =>
    if c = ':' && !inside then ([], c :: rest)
    else
      let inside := if c = '[' then true else if c = ']' then false else inside
      let (host, rest) := takeHost inside rest
      (c :: host, rest)

/-- The port after a host, and what a backslash after it begins. -/
def readPort : List Char → Except UrlError (Option Nat × List Char)
  | ':' :: s =>
    let (digits, rest) := splitBefore (fun c => !c.isDigit) s
    match Decimal.readDigits 65535 0 digits, rest with
    | .ok n, [] => .ok (if digits.isEmpty then none else some n, [])
    | .ok n, '\\' :: rest => .ok (if digits.isEmpty then none else some n, '\\' :: rest)
    | _, _ => .error .invalidPort
  | _ => .ok (none, [])

/-- Reads what follows the two slashes of a URL. -/
def ofAuthority (scheme : String) (authority path : List Char) (query : Option (List Char))
    (isLast : Bool) : Except UrlError Url := do
  let (user, s) := takeUser authority
  if user = some [] && s.isEmpty && !isLast then .error .emptyHost
  let (username, password) := splitAt (· = ':') (user.getD [])
  let password := password.filter (!·.isEmpty)
  let (host, rest) := takeHost false s
  if isWeb scheme && host.isEmpty then .error .emptyHost
  let host ← if isWeb scheme then Host.readWeb host else Host.readOpaque host
  if host.isEmpty && !rest.isEmpty then .error .emptyHost
  let (port, rest) ← readPort rest
  if host.isEmpty && (!username.isEmpty || password.isSome) then .error .emptyHost
  let path := if rest.isEmpty then path else '/' :: rest ++ path
  .ok
    { scheme, username, password, host := if host.isEmpty then none else some host
      port := if port = webPorts.lookup scheme then none else port
      path := if path.isEmpty && !isWeb scheme then [] else resolved path, query }

/-- Whether a host is a letter that names a drive. -/
def isDrive : List Char → Bool
  | [a, b] => a.isAlpha && (b = ':' || b = '|')
  | _ => false

/-- Reads what follows the colon of a URL of a file. -/
def ofFile (s : List Char) (query : Option (List Char)) : Except UrlError Url :=
  match s with
  | '/' :: '/' :: s =>
    let (host, path) := splitBefore (· = '/') s
    if host.isEmpty then .ok { scheme := "file", path := resolved path, query }
    else if isDrive host then
      .ok { scheme := "file", path := resolved ('/' :: host ++ path), query }
    else do
      let host ← Host.readWeb host
      .ok
        { scheme := "file", host := if host = "localhost".toList then none else some host
          path := resolved path, query }
  | '/' :: s | s => .ok { scheme := "file", path := resolved ('/' :: s), query }

/-- Takes a URL apart. -/
def read (s : String) : Except UrlError Url := do
  let some (scheme, s) := takeScheme (cleaned s.toList) | .error .relative
  let (s, fragment) := splitAt (· = '#') s
  let (s, query) := splitAt (· = '?') s
  let isLast (path : List Char) : Bool := path.isEmpty && query.isNone && fragment.isNone
  let slashed := s.map fun c => if c = '\\' then '/' else c
  if isWeb scheme then
    let (authority, path) := splitBefore (· = '/') (slashed.dropWhile (· = '/'))
    ofAuthority scheme authority path query (isLast path)
  else if scheme = "file" then ofFile slashed query
  else
    match s with
    | '/' :: '/' :: s =>
      let (authority, path) := splitBefore (· = '/') s
      ofAuthority scheme authority path query (isLast path)
    | '/' :: _ => .ok { scheme, path := resolved s, query }
    | _ => .ok { scheme, path := s, query }

/-- A name or value of a query, in which a plus sign stands for a blank. -/
def queryText (s : List Char) : String :=
  unescapedLossy (s.map fun c => if c = '+' then ' ' else c)

/-- The names and values of the query. -/
def parameters (u : Url) : List (String × String) :=
  ((parts '&' (u.query.getD [])).filter fun part => !part.isEmpty).map fun part =>
    let (name, value) := splitAt (· = '=') part
    (queryText name, queryText (value.getD []))

end Url

end Relay
