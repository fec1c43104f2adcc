import Relay.Address
import Relay.Text.Blank
import Relay.Text.Quoted

/-!
# Connection settings

Where the service finds its database and its streams, how it names the streams, and where it serves
its metrics, if it does. Only the database has to be set.
-/

namespace Relay

/-- Why settings were refused. -/
inductive SettingsError where
  | missing (key : String)
  | invalid (key value : String)
  deriving DecidableEq, Repr

/-- The wording of refused settings. -/
def SettingsError.message : SettingsError → String
  | .missing key => key ++ " must be set"
  | .invalid key value => "invalid " ++ key ++ "=" ++ Text.quote value

/-- Where the service finds what it works with. -/
structure Settings where
  database : String
  streams : String
  /-- The first part of every stream's key. -/
  streamPrefix : String
  metricsAddress : Option Address
  deriving DecidableEq, Repr

namespace Settings

/-- The default first part of every stream's key. -/
def standardPrefix : String := "brushwork"

/-- Where streams are looked for by default. -/
def standardStreams : String := "redis://localhost:6379"

def databaseKey : String := "DATABASE_URL"
def streamsKey : String := "REDIS_URL"
def streamPrefixKey : String := "OUTBOX_STREAM_PREFIX"
def metricsAddressKey : String := "METRICS_ADDR"

/-- The names of all settings. -/
def keys : List String := [databaseKey, streamsKey, streamPrefixKey, metricsAddressKey]

/-- A setting without the blanks around it, unless nothing is left. -/
def present (lookup : String → Option String) (key : String) : Option String :=
  ((lookup key).map Text.trimmed).filter (· ≠ "")

/-- The settings by their names. -/
def ofLookup (lookup : String → Option String) : Except SettingsError Settings := do
  let get := present lookup
  let some database := get databaseKey | .error (.missing databaseKey)
  let metricsAddress ← match get metricsAddressKey with
    | none => pure none
    | some v =>
      match Address.read v.toList with
      | some a => pure (some a)
      | none => .error (.invalid metricsAddressKey v)
  .ok
    { database
      streams := (get streamsKey).getD standardStreams
      streamPrefix := (get streamPrefixKey).getD standardPrefix
      metricsAddress }

end Settings

end Relay
