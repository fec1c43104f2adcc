import Relay.Stream.Reply
import Relay.Url

/-!
# Where a stream server is

A stream server is named by a URL: `redis` with a host and perhaps a port, or `unix` with the path
of a socket. The URL may also give a login and the number of a database. Connections that are
encrypted are refused.

A connection is set up in steps: the place is reached, the login is sent if there is a password, and
a database other than the first is chosen. `Location.GivesUp` says which faults these steps end in.
-/

namespace Relay.Stream

/-- What a stream server listens on. -/
inductive Place where
  | machine (host : String) (port : Nat)
  /-- A socket, whose path may be any bytes. -/
  | socket (path : List UInt8)
  deriving DecidableEq, Repr

/-- Where a stream server is, and what is asked of it first. -/
structure Location where
  place : Place
  /-- The number of the database; a connection begins with the one of number zero. -/
  database : Int := 0
  username : Option String := none
  password : Option String := none
  deriving DecidableEq, Repr

/-- Why a URL names no stream server. -/
inductive LocationError where
  | unreadable
  | missingHost
  | encrypted
  | missingPath
  | invalidDatabase
  | invalidUsername
  | invalidPassword
  deriving DecidableEq, Repr

/-- The wording of a URL that was refused. -/
def LocationError.message (e : LocationError) : String :=
  (match e with
    | .unreadable => "Redis URL did not parse"
    | .missingHost => "Missing hostname"
    | .encrypted => "can't connect with TLS, the feature is not enabled"
    | .missingPath => "Missing path"
    | .invalidDatabase => "Invalid database number"
    | .invalidUsername => "Username is not valid UTF-8 string"
    | .invalidPassword => "Password is not valid UTF-8 string") ++ "- " ++ FaultKind.client.name

namespace Location

/-- The number of a database; the first one if nothing is said. -/
def readDatabase (s : List Char) : Except LocationError Int :=
  if s.isEmpty then .ok 0
  else
    match readNumber s with
    | some n => .ok n
    | none => .error .invalidDatabase

/-- The location of a machine. -/
def ofMachine (u : Url) : Except LocationError Location :=
  match u.host with
  | none => .error .missingHost
  | some host =>
    if u.scheme = "rediss" then .error .encrypted
    else do
      let database ← readDatabase
        ((u.path.dropWhile (· = '/')).reverse.dropWhile (· = '/')).reverse
      let username ← (Url.unescaped u.username).mapError fun _ => .invalidUsername
      let password ← (u.password.mapM Url.unescaped).mapError fun _ => .invalidPassword
      .ok
        { place := .machine (String.ofList host) (u.port.getD 6379)
          database
          username := if username = "" then none else some username
          password }

/-- The location of a socket. -/
def ofSocket (u : Url) : Except LocationError Location :=
  match u.path, u.host.filter (· ≠ "localhost".toList) with
  | '/' :: _, none => do
    -- the last of several values of a parameter counts
    let parameters := u.parameters.reverse
    let database ← match parameters.lookup "db" with
      | some number => (readNumber number.toList).elim (.error .invalidDatabase) .ok
      | none => .ok 0
    .ok
      { place := .socket (Url.bytes u.path)
        database
        username := parameters.lookup "user"
        password := parameters.lookup "pass" }
  | _, _ => .error .missingPath

/-- The location that a URL names. -/
def ofUrl (text : String) : Except LocationError Location :=
  match Url.read text with
  | .error _ => .error .unreadable
  | .ok u =>
    match u.scheme with
    | "redis" | "rediss" => ofMachine u
    | "unix" | "redis+unix" => ofSocket u
    | _ => .error .unreadable

/-! ## Connections that are not set up -/

/-- No address is known for a machine. -/
def nowhere : Fault := .worded .client "No address found for host"

/-- A login that the server does not accept, for whatever reason. -/
def denied : Fault := .worded .authentication "Password authentication failed"

/-- A database that could not be chosen. The fault is the same whatever the server answered: one
that is still starting is not told from one that has no such database. -/
def refusedDatabase : Fault := .worded .response "Redis server refused to switch database"

/-- What a client may give up with while it sets a connection to a location up. -/
inductive GivesUp (l : Location) : Fault → Prop
  | unreachable (reason : String) : GivesUp l (.broken reason)
  | noAddress {host : String} {port : Nat} (h : l.place = .machine host port) : GivesUp l nowhere
  | noLogin (h : l.password.isSome) : GivesUp l denied
  | noDatabase (h : l.database ≠ 0) : GivesUp l refusedDatabase

end Location

end Relay.Stream
