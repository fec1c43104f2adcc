import Relay.Database.Location
import Relay.Event.Registry
import Relay.Settings
import Relay.Stream.Location
import Relay.Table.Call
import Relay.Text.Parts
import Relay.Tuning

/-!
# Why a service did not start

A `Failure` is the first thing that went wrong when a service was started. `Failure.chain` tells it
together with its causes in turn, and `Failure.report` is what the program prints about it.
-/

namespace Relay.Service

/-- Why a service did not start. -/
inductive Failure where
  | settings (e : SettingsError)
  | tuning (e : SettingError)
  /-- Metrics could not be served where they are to be. -/
  | metrics (a : Address) (reason : String)
  | database (e : Database.ConnectError)
  | streams (e : Stream.LocationError)
  | catalog (d : Duplicate)
  /-- The table of an outbox could not be created. -/
  | table (o : Outbox) (e : StoreError)
  deriving DecidableEq

namespace Failure

/-- The wording of a failure, and of its causes in turn. -/
def chain : Failure → List String
  | .settings e => ["invalid settings", e.message]
  | .tuning e => ["invalid dispatcher config", e.message]
  | .metrics a reason =>
    ["failed to install prometheus exporter on " ++ a.text ++ ": " ++ reason, reason]
  | .database e => "failed to connect to Postgres" :: e.chain
  | .streams e => ["invalid REDIS_URL", e.message]
  | .catalog d => ["event catalog is inconsistent", d.message]
  | .table o e => ["failed to create " ++ o.table ++ " table", e.message]

/-- The lines of a text, the first behind a mark and the others as far to the right. -/
def marked (mark text : String) : List String :=
  match (Text.parts '\n' text.toList).map String.ofList with
  | [] => [mark]
  | line :: lines =>
    (mark ++ line) :: lines.map (String.ofList (List.replicate mark.length ' ') ++ ·)

/-- Several causes, numbered from `n` on. -/
def numbered (n : Nat) : List String → List String
  | [] => []
  | cause :: causes => marked ("    " ++ toString n ++ ": ") cause ++ numbered (n + 1) causes

/-- The lines that the program prints about a failure. -/
def report (f : Failure) : List String :=
  match f.chain with
  | [] => []
  | [outer] => ["Error: " ++ outer]
  | [outer, cause] => ["Error: " ++ outer, "", "Caused by:"] ++ marked "    " cause
  | outer :: causes => ["Error: " ++ outer, "", "Caused by:"] ++ numbered 0 causes

end Failure

end Relay.Service
