import Relay.Url
import Relay.Text.Quoted

/-!
# Where a database is

A database is named by a URL, whatever its scheme. It listens on a socket in a directory, if one is
given, and else on a machine. What the URL leaves out is taken from the environment. Parameters of
the query come after the other parts and win over them; those that are not known are passed over and
told. `ConnectError` is a fault in the URL or a failed connection, and `ConnectError.chain` tells it
together with what caused it.
-/

namespace Relay.Database

/-- Where a database is. -/
structure Location where
  machine : String
  port : Nat
  /-- The directory of the socket that the database listens on, if it listens on one. -/
  directory : Option String := none
  deriving DecidableEq, Repr

/-- Why there is no connection. -/
inductive ConnectError where
  | url (e : UrlError)
  /-- A mode of encryption that is not known. -/
  | sslMode (value : String)
  | parameter (reason : String)
  | unreachable (reason : String)
  /-- Nothing listened there for as long as connections are tried. -/
  | timedOut
  deriving DecidableEq, Repr

/-- The wording of a connection that failed, and of its causes in turn. -/
def ConnectError.chain : ConnectError → List String
  | .url e => ["error with configuration: " ++ e.message, e.message]
  | .sslMode value =>
    let cause := "unknown value " ++ Text.quote value ++ " for `ssl_mode`"
    let wrapped := "error with configuration: " ++ cause
    ["error with configuration: " ++ wrapped, wrapped, cause]
  | .parameter reason => ["error with configuration: " ++ reason, reason]
  | .unreachable reason => ["error communicating with database: " ++ reason, reason]
  | .timedOut => ["pool timed out while waiting for an open connection"]

namespace Location

/-- The modes of encryption. -/
def sslModes : List String := ["disable", "allow", "prefer", "require", "verify-ca", "verify-full"]

/-- Where databases are looked for by default. -/
def standard : Location := ⟨"localhost", 5432, none⟩

def addressKey : String := "PGHOSTADDR"
def machineKey : String := "PGHOST"
def portKey : String := "PGPORT"

/-- The names of the variables that say where databases are looked for. -/
def keys : List String := [addressKey, machineKey, portKey]

/-- Where databases are looked for when the variables are these. A port that cannot be read is
passed over. -/
def ofLookup (lookup : String → Option String) : Location :=
  { standard with
    machine := ((lookup addressKey).or (lookup machineKey)).getD standard.machine
    port := ((lookup portKey).bind fun value =>
      (Decimal.readNatural 65535 value.toList).toOption).getD standard.port }

/-- The path of the socket that a database listens on. A machine whose name begins with a slash
stands for a directory. -/
def socket (l : Location) : Option String :=
  (l.directory.or (some l.machine |>.filter (·.startsWith "/"))).map fun directory =>
    directory ++ "/.s.PGSQL." ++ toString l.port

/-- A number in a parameter. -/
def readNumber (most : Nat) (value : String) : Except ConnectError Nat :=
  (Decimal.readNatural most value.toList).mapError fun e => .parameter e.message

/-- Whether a text is an internet address of either version. -/
def isAddress (s : String) : Bool :=
  (Address.readV4 s.toList).any (·.2.isEmpty) || (Address.readV6 s.toList).any (·.2.isEmpty)

/-- The names of parameters that say nothing about where a database is. -/
def otherNames : List String :=
  ["sslrootcert", "ssl-root-cert", "ssl-ca", "sslcert", "ssl-cert", "sslkey", "ssl-key", "dbname",
    "user", "password", "application_name", "options"]

/-- Takes one parameter into account; none if it is not known. -/
def withParameter (l : Location) (name value : String) : Option (Except ConnectError Location) :=
  match name with
  | "sslmode" | "ssl-mode" =>
    some (if value.map Char.toLower ∈ sslModes then .ok l else .error (.sslMode value))
  | "statement-cache-capacity" => some ((readNumber (1 <<< 64 - 1) value).map fun _ => l)
  | "host" =>
    some (.ok (if value.startsWith "/" then { l with directory := some value }
      else { l with machine := value }))
  | "hostaddr" =>
    some (if isAddress value then .ok { l with machine := value }
      else .error (.parameter "invalid IP address syntax"))
  | "port" => some ((readNumber 65535 value).map fun port => { l with port })
  | name => if name ∈ otherNames || name.startsWith "options[" then some (.ok l) else none

/-- Takes parameters into account in turn, and tells those that are not known and were met before
any fault. -/
def withParameters (l : Location) :
    List (String × String) → Except ConnectError Location × List (String × String)
  | [] => (.ok l, [])
  | (name, value) :: rest =>
    match l.withParameter name value with
    | some (.ok l) => l.withParameters rest
    | some (.error e) => (.error e, [])
    | none =>
      let (result, unknown) := l.withParameters rest
      (result, (name, value) :: unknown)

/-- A part of a URL without its escapes. -/
def unescaped (s : List Char) : Except ConnectError String :=
  (Url.unescaped s).mapError fun e => .parameter e.message

/-- The location that a URL names apart from its parameters. A host that begins with a slash is the
directory of a socket. -/
def withParts (l : Location) (u : Url) : Except ConnectError Location := do
  let port := u.port.getD l.port
  let base ← match u.host with
    | none => .ok { l with port }
    | some host =>
      if (Url.bytes host).head? = some 47 then do
        .ok { l with directory := some (← unescaped host), port }
      else .ok { l with machine := String.ofList host, port }
  discard (unescaped u.username)
  discard (unescaped (u.password.getD []))
  discard (unescaped (u.path.dropWhile (· = '/')))
  .ok base

/-- The location that a URL names, with what it leaves out as given, and its parameters that are not
known. -/
def withUrl (l : Location) (text : String) :
    Except ConnectError Location × List (String × String) :=
  match (Url.read text).mapError .url with
  | .error e => (.error e, [])
  | .ok u =>
    match l.withParts u with
    | .error e => (.error e, [])
    | .ok l => l.withParameters u.parameters

end Location

end Relay.Database
