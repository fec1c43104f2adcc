import Relay.Journal.Format
import Relay.Simulation.Servers
import Relay.Simulation.Sockets

/-!
# Running a service against scripted servers

`serve` starts a service, lets its workers go on until the script of the servers is over, and stops
them. Workers that were started before a start failed get no further than their greeting before the
program is over. `program` does the same for the whole program, from its variables to what it writes
and how it ends. Time stands still, and ids that are random elsewhere are given by a `Stamp`.
-/

namespace Relay.Simulation

open Journal

/-- What a simulated service cannot draw by itself. -/
structure Stamp where
  now : Instant
  /-- The ids of the claims on the table of an outbox, counted from one. -/
  claim : Outbox → Nat → Uuid
  /-- The ids of spans, counted from one. -/
  span : Nat → TraceContext.Draw
  /-- The name of an instance that has none. -/
  instanceName : String
  /-- The sockets that the servers listen on, and on nothing else; none if they are found wherever
  they are looked for. -/
  sockets : Option Sockets
  /-- Why metrics cannot be served at an address, if they cannot. -/
  listen : Address → Option String := fun _ => none

/-- A service that runs in a simulation. -/
structure Site where
  servers : Servers
  notes : Array Note := #[]
  recorder : Recorder := {}
  /-- The publish spans that were started. -/
  spans : Nat := 0

namespace Site

/-- Writes notes down. -/
def noteAll (s : Site) (notes : List Note) : Site := { s with notes := s.notes ++ notes.toArray }

/-- Carries a dialogue with the database out. -/
def hold {α : Type} (s : Site) (d : Dialogue α) : Site × α :=
  let (servers, notes, a) := d.run Servers.answer s.servers
  ({ s with servers }.noteAll notes, a)

/-- Publishes a message. -/
def publish (s : Site) (p : Stream.Publisher) (m : Message) : Site × Except Refusal Unit :=
  match p.deliver false m with
  | .withheld r => (s.noteAll (p.notes m none (.error r)), .error r)
  | .sent arguments =>
    let (servers, outcome) := s.servers.add arguments
    let result := outcome.verdict
    ({ s with servers }.noteAll (p.notes m (some outcome) result), result)

/-- Serves a request of a worker. -/
def serve (s : Site) (p : Stream.Publisher) (o : Outbox) : (q : Request) → Site × q.Answer
  | .store c => s.hold (Database.respond o c)
  | .publish m => s.publish p m

/-- The surroundings of a worker. -/
def reading (s : Site) (stamp : Stamp) (o : Outbox) (cancelled : Bool) : Reading where
  now := stamp.now
  cancelled := cancelled
  claimId := stamp.claim o (s.servers.claimCount o + 1)
  draw := 0
  spanIds := stamp.span (s.spans + 1)

/-- Carries out what a worker did beside its requests. What takes no time here is recorded so. -/
def carryOut (s : Site) (o : Outbox) (acts : List Act) : Site :=
  acts.foldl (fun s act =>
    match act with
    | .note (.opened span) => { s.noteAll [.opened span] with spans := s.spans + 1 }
    | .note n => s.noteAll [n]
    | .measure m => { s with recorder := s.recorder.record o m .zero }) s

/-- Lets a worker go on until there is nothing left to do for it. -/
def attend (stamp : Stamp) (p : Stream.Publisher) (w : Worker) :
    (fuel : Nat) → Site → Loop → Site × Loop
  | 0, s, loop => (s, loop)
  | fuel + 1, s, loop =>
    match loop with
    | .stopped => (s, .stopped)
    | .sleeping pause =>
      if s.servers.isSettled w.outbox then (s, .sleeping pause)
      else
        let (acts, loop) := w.wake (s.reading stamp w.outbox false)
        attend stamp p w fuel (s.carryOut w.outbox acts) loop
    | .iterating phase =>
      let (s, a) := s.serve p w.outbox (phase.request w)
      let (acts, loop) := w.advance (s.reading stamp w.outbox false) phase a
      attend stamp p w fuel (s.carryOut w.outbox acts) loop

/-- The most steps of a worker in a simulation. -/
def stepLimit : Nat := 100000

/-- Lets a worker run until there is nothing left to do for it. -/
def attendAll (stamp : Stamp) (p : Stream.Publisher) (s : Site) : List Worker → Site
  | [] => s
  | w :: ws =>
    let (acts, loop) := w.run (s.reading stamp w.outbox false)
    let (s, _) := attend stamp p w stepLimit (s.carryOut w.outbox acts) loop
    attendAll stamp p s ws

/-- Lets workers say that they run. -/
def greet (stamp : Stamp) (s : Site) (ws : List Worker) : Site :=
  ws.foldl (fun s w => s.carryOut w.outbox (w.run (s.reading stamp w.outbox false)).1) s

/-- Lets workers take leave once they are told to stop. -/
def dismiss (s : Site) (ws : List Worker) : Site :=
  ws.foldl (fun s w => s.carryOut w.outbox [w.farewell]) s

end Site

/-- Why no connection to a stream server can be set up, if none can. A server that is reached lets
everybody log in and has every database. -/
def streamFault (stamp : Stamp) (l : Stream.Location) : Option Stream.Fault :=
  stamp.sockets.bind fun sockets =>
    match l.place with
    | .machine _ _ => some (.broken Sockets.refused)
    | .socket path => (sockets.fault path).map .broken

/-- Why a database cannot be reached, if it cannot. One that refuses is tried until time is over. -/
def databaseFault (stamp : Stamp) (l : Database.Location) : Option Database.ConnectError :=
  stamp.sockets.bind fun sockets =>
    match l.socket with
    | none => some .timedOut
    | some path => (sockets.fault path.toUTF8.toList).map fun reason =>
      if reason = Sockets.refused then .timedOut else .unreachable reason

/-- What a simulated service finds where it runs. -/
def Stamp.host (stamp : Stamp) (near : Database.Location) : Service.Host where
  near := near
  listen := stamp.listen
  connect := databaseFault stamp

/-- Runs a service until there is nothing left to do, and stops it; or why it did not start. -/
def serve (stamp : Stamp) (near : Database.Location) (settings : Settings) (tuning : Tuning)
    (servers : Servers) : Site × Option Service.Failure :=
  let host := stamp.host near
  let site := ({ servers } : Site).noteAll (Service.opening host settings)
  match Service.plan host settings tuning with
  | .error e => (site, some e)
  | .ok plan =>
    let servers := { site.servers with fault := streamFault stamp plan.streams }
    let (site, startup) := { site with servers }.hold plan.start
    match startup.failure with
    | some e => (site.greet stamp startup.running, some e)
    | none =>
      let site := site.noteAll [Service.started settings tuning]
      let site := (site.attendAll stamp plan.publisher startup.running).noteAll [Service.stopping]
      ((site.dismiss startup.running).noteAll [Service.stopped], none)

/-- How the program ended. -/
structure Ending where
  site : Site
  failure : Option Service.Failure
  /-- The style of the journal. -/
  style : Style
  /-- What is shown of the journal. -/
  lines : List Line

/-- The status that the program leaves. -/
def Ending.status (e : Ending) : Nat := if e.failure.isSome then 1 else 0

/-- What the program prints about its failure. -/
def Ending.report (e : Ending) : List String := (e.failure.map Service.Failure.report).getD []

/-- Runs the program with its variables. -/
def program (stamp : Stamp) (lookup : String → Option String) (servers : Servers) : Ending :=
  let filter := Filter.ofSetting (lookup Service.filterKey)
  let style := Style.ofSetting ((lookup Service.styleKey).getD "")
  let (site, failure) := match Service.configure stamp.instanceName lookup with
    | .error e => (({ servers } : Site), some e)
    | .ok (settings, tuning) =>
      serve stamp (Database.Location.ofLookup lookup) settings tuning servers
  { site, failure, style, lines := Journal.lines filter site.notes.toList }

end Relay.Simulation
