import Relay.Service.Start

/-!
# Servers that answer from a script

`Servers` stand for the database and the stream server of a simulated service. The database follows
rules: a rule answers the statements about a table in whose text a pattern occurs, a number of
times; the first rule that applies answers. Where none applies no row is due, nothing is found and
every change succeeds. The stream server gives its replies in turn. The servers keep what they were
sent, looks for due rows that no rule answered apart.
-/

namespace Relay.Simulation

/-- A rule of a database. -/
structure Rule where
  outbox : Outbox
  /-- What occurs in the statements that are answered. -/
  pattern : String
  /-- The reply, given the claim last written to the table. -/
  reply : Claim → Reply
  /-- How often the rule can still be used. -/
  uses : Nat

/-- A database and a stream server. -/
structure Servers where
  rules : List Rule := []
  exchanges : List Stream.Exchange := []
  /-- Why no connection to the stream server can be set up, if none can. -/
  fault : Option Stream.Fault := none
  /-- The connection to the stream server, once there is one. -/
  connection : Option Stream.Connection := none
  /-- The queries that were sent. -/
  queries : Array Query := #[]
  /-- The entries that were added to streams. -/
  entries : Array (List String) := #[]
  /-- The claims that were written, the last one first. -/
  claims : List (Outbox × Claim) := []
  /-- The outboxes whose last query was a look for due rows that no rule answered. -/
  idle : List Outbox := []

namespace Servers

/-- The claim that a query writes. -/
def claimOf (q : Query) : Option Claim :=
  match q.statement, q.parameters with
  | .update ((.claimedBy, .parameter 3) :: _) _, _ :: _ :: .text claim :: _ => some claim
  | _, _ => none

/-- The reply where no rule applies. -/
def plainReply (q : Query) : Reply :=
  match q.statement with
  | .exists _ => .returned [⟨[("exists", .boolean)], [.boolean false]⟩]
  | .select _ _ _ | .selectOne _ _ | .count _ => .returned []
  | _ => .changed 1

/-- Whether a query looks for due rows. -/
def isLook (q : Query) : Bool :=
  match q.statement with
  | .exists _ => true
  | _ => false

/-- Whether a text occurs in another. -/
def occursIn (pattern : List Char) : List Char → Bool
  | [] => pattern.isEmpty
  | c :: s => pattern.isPrefixOf (c :: s) || occursIn pattern s

/-- Whether a rule applies to a query. -/
def Rule.applies (r : Rule) (q : Query) : Bool :=
  0 < r.uses && r.outbox = q.outbox && occursIn r.pattern.toList q.text.toList

/-- The first rule that applies to a query, and the rules with that one used once more. -/
def choose (q : Query) : List Rule → Option (Rule × List Rule)
  | [] => none
  | r :: rs =>
    if Rule.applies r q then some (r, { r with uses := r.uses - 1 } :: rs)
    else (choose q rs).map fun (chosen, rs) => (chosen, r :: rs)

/-- The claim last written to the table of an outbox. -/
def lastClaim (s : Servers) (o : Outbox) : Claim := (s.claims.lookup o).getD ""

/-- The number of claims written to the table of an outbox. -/
def claimCount (s : Servers) (o : Outbox) : Nat := (s.claims.filter (·.1 = o)).length

/-- Answers a query. -/
def answer (s : Servers) (q : Query) : Servers × Reply :=
  let claims := (claimOf q).toList.map (q.outbox, ·) ++ s.claims
  let idle := s.idle.filter (· ≠ q.outbox)
  let s := { s with claims, idle }
  match choose q s.rules with
  | some (rule, rules) =>
    ({ s with rules, queries := s.queries.push q }, rule.reply (s.lastClaim q.outbox))
  | none =>
    if isLook q then ({ s with idle := q.outbox :: idle }, plainReply q)
    else ({ s with queries := s.queries.push q }, plainReply q)

/-- Whether there is nothing left to do for an outbox. -/
def isSettled (s : Servers) (o : Outbox) : Bool :=
  s.idle.contains o && s.rules.all fun r => r.outbox ≠ o || r.uses = 0

/-- The reply to a command that is taken. -/
def taken : Stream.Exchange := .answered "+1-0\r\n".toUTF8.toList

/-- Takes a command to the stream server, and tells what came of it. -/
def add (s : Servers) (arguments : List String) : Servers × Stream.Outcome :=
  match s.fault with
  | some f => ({ s with connection := none }, .unlinked f)
  | none =>
    let turn := (s.connection.getD {}).hear (s.exchanges.headD taken)
    let s := { s with connection := turn.connection }
    (if turn.isSent then
        { s with entries := s.entries.push arguments, exchanges := s.exchanges.drop 1 }
      else s, turn.outcome)

/-- The queries about the table of an outbox, in order. -/
def queriesOn (s : Servers) (o : Outbox) : List Query :=
  s.queries.toList.filter (·.outbox = o)

/-- Adds an entry to the one of several streams that has its key. -/
def addEntry (key : String) (entry : List String) :
    List (String × List (List String)) → List (String × List (List String))
  | [] => [(key, [entry])]
  | (k, entries) :: rest =>
    if k = key then (k, entries ++ [entry]) :: rest else (k, entries) :: addEntry key entry rest

/-- The streams by their keys, each with the rest of the commands that added to it. -/
def streams (s : Servers) : List (String × List (List String)) :=
  s.entries.foldl (fun streams arguments =>
    addEntry (arguments[1]?.getD "") (arguments.drop 2) streams) []

end Servers

/-! ## Answers to a store -/

/-- A database connection that answers from a script. -/
structure Session where
  isOpen : Bool := true
  replies : List Reply := []
  queries : Array Query := #[]

namespace Session

/-- Answers a query; once the script is over nothing is changed or found. -/
def answer (s : Session) (q : Query) : Session × Reply :=
  if s.isOpen then
    let s := { s with queries := s.queries.push q }
    match s.replies with
    | r :: replies => ({ s with replies }, r)
    | [] => (s, .changed 0)
  else (s, .closed)

end Session

end Relay.Simulation
