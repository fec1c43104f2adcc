import Relay.Database.Store
import Relay.Event.Catalog
import Relay.Service.Failure
import Relay.Stream.Publisher
import Relay.Worker.Loop

/-!
# Starting a service

A service relays the rows of both outboxes. It serves its metrics, if it is to, and connects to the
database before it looks at where the streams are; then, for one outbox after the other, it creates
the tables and starts a worker. A `Startup` is what is left when that is over: the workers that run,
and what went wrong, if anything did. The workers that were started before run on even then.
-/

namespace Relay.Service

open Journal

/-- A service that is ready to start. -/
structure Plan where
  publisher : Stream.Publisher
  streams : Stream.Location
  workers : List Worker

/-- The worker of an outbox. -/
def worker (registry : Registry) (tuning : Tuning) (o : Outbox) : Worker :=
  { outbox := o, registry, tuning, sink := .tracing }

/-- The outboxes in the order in which their workers are started. -/
def outboxes : List Outbox := [.domain, .integration]

/-- What a service finds where it runs. -/
structure Host where
  /-- Databases are looked for here as far as their URL says nothing. -/
  near : Database.Location
  /-- Why metrics cannot be served at an address, if they cannot. -/
  listen : Address → Option String
  /-- Why a database cannot be reached, if it cannot. -/
  connect : Database.Location → Option Database.ConnectError

/-- Why metrics cannot be served where the settings say, if they cannot. -/
def Host.silence (host : Host) (settings : Settings) : Option Failure :=
  settings.metricsAddress.bind fun a => (host.listen a).map (.metrics a)

/-- Goes on unless something went wrong. -/
def proceed : Option Failure → Except Failure Unit
  | some e => .error e
  | none => .ok ()

/-- Makes a plan from settings. -/
def plan (host : Host) (settings : Settings) (tuning : Tuning) : Except Failure Plan := do
  proceed (host.silence settings)
  let location ← (host.near.withUrl settings.database).1.mapError .database
  proceed ((host.connect location).map .database)
  let streams ← (Stream.Location.ofUrl settings.streams).mapError .streams
  let registry ← Catalog.registry.mapError .catalog
  .ok
    { publisher := { keyPrefix := settings.streamPrefix }
      streams
      workers := outboxes.map (worker registry tuning) }

/-- What is left after a start. -/
structure Startup where
  /-- The workers that run. -/
  running : List Worker
  failure : Option Failure

/-- Creates the tables of workers and starts the workers in turn, until something goes wrong. -/
def startAfter (running : List Worker) : List Worker → Dialogue Startup
  | [] => .done ⟨running, none⟩
  | w :: ws =>
    (Database.createSchema w.outbox).bind fun result =>
      match result with
      | .error e => .done ⟨running, some (.table w.outbox e)⟩
      | .ok () => startAfter (running ++ [w]) ws

/-- Starts a service as planned. -/
def Plan.start (p : Plan) : Dialogue Startup := startAfter [] p.workers

/-- Starts a service. -/
def start (host : Host) (settings : Settings) (tuning : Tuning) : Dialogue Startup :=
  match plan host settings tuning with
  | .error e => .done ⟨[], some e⟩
  | .ok p => p.start

/-! ## What a service says -/

/-- The part of the program that services speak for. -/
def target : String := "brushwork_dispatcher"

/-- The part of the program that serves metrics. -/
def metricsTarget : String := "brushwork_observability::metrics"

/-- An entry of a service. -/
def entry (message : String) (fields : Fields) : Note :=
  .entry ⟨.info, target, some message, fields⟩

/-- What is said when metrics are served. -/
def metricsServed (a : Address) : Note :=
  .entry ⟨.info, metricsTarget, some "prometheus exporter listening", [("addr", .text a.text)]⟩

/-- The part of the program that reads where the database is. -/
def locationTarget : String := "sqlx_postgres::options::parse"

/-- What is said about a parameter of the database that is not known. -/
def passedOver (name value : String) : Note :=
  .entry
    ⟨.warn, locationTarget, some "ignoring unrecognized connect parameter",
      [("key", .text name), ("value", .text value)]⟩

/-- What is said before the database is connected to; nothing if metrics cannot be served. -/
def opening (host : Host) (settings : Settings) : List Note :=
  match host.silence settings with
  | some _ => []
  | none =>
    (settings.metricsAddress.map metricsServed).toList ++
      (Database.Location.standard.withUrl settings.database).2.map fun (name, value) =>
        passedOver name value

/-- What is said once all workers run. -/
def started (settings : Settings) (tuning : Tuning) : Note :=
  entry "outbox dispatcher service started"
    [("instance", .text tuning.instanceName), ("stream_prefix", .text settings.streamPrefix)]

/-- What is said when the service is told to stop. -/
def stopping : Note := entry "shutdown signal received" []

/-- What is said when the service has stopped. -/
def stopped : Note := entry "outbox dispatcher service stopped" []

/-! ## The settings of the program -/

/-- The name of the setting for the style of the journal. -/
def styleKey : String := "LOG_FORMAT"

/-- The name of the setting for what is shown of the journal. -/
def filterKey : String := "RUST_LOG"

/-- Reads the settings of the program. `instanceName` is used if none is set. -/
def configure (instanceName : String) (lookup : String → Option String) :
    Except Failure (Settings × Tuning) := do
  let settings ← (Settings.ofLookup lookup).mapError .settings
  let tuning ← (Tuning.ofLookup instanceName lookup).mapError .tuning
  .ok (settings, tuning)

end Relay.Service
