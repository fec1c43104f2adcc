import Relay.Broker

/-!
# What goes wrong with a stream server

A `Fault` is of some kind, perhaps with a code that the server signalled, and is met while a
connection is set up or in the answer to a command. `Fault.refusal` tells a server that will never
take a message from one that may take it later. It goes by the kind and the code only: an error in a
response and a reply of the wrong type are final, whatever was asked.
-/

namespace Relay.Stream

/-- The kinds of faults that are told apart. -/
inductive FaultKind where
  | response
  | execAbort
  | busyLoading
  | noScript
  | moved
  | ask
  | tryAgain
  | clusterDown
  | crossSlot
  | masterDown
  | readOnly
  | notBusy
  /-- An error of a code that is not known. -/
  | extension
  /-- A reply that is not of the type asked for. -/
  | type
  /-- Bytes that are no reply. -/
  | parse
  /-- No connection, or one that broke. -/
  | io
  /-- A login that was turned down. -/
  | authentication
  /-- A location that leads nowhere. -/
  | client
  deriving DecidableEq, Repr

/-- The name of a kind. -/
def FaultKind.name : FaultKind → String
  | .response => "ResponseError"
  | .execAbort => "ExecAbortError"
  | .busyLoading => "BusyLoadingError"
  | .noScript => "NoScriptError"
  | .moved => "Moved"
  | .ask => "Ask"
  | .tryAgain => "TryAgain"
  | .clusterDown => "ClusterDown"
  | .crossSlot => "CrossSlot"
  | .masterDown => "MasterDown"
  | .readOnly => "ReadOnly"
  | .notBusy => "NotBusy"
  | .extension => "ExtensionError"
  | .type => "TypeError"
  | .parse => "ParseError"
  | .io => "IoError"
  | .authentication => "AuthenticationFailed"
  | .client => "InvalidClientConfig"

/-- What went wrong with a stream server. -/
structure Fault where
  kind : FaultKind
  /-- The code of an error that the server signalled. -/
  code : Option String
  message : String
  deriving DecidableEq, Repr

namespace Fault

/-- A connection that could not be made, or broke. -/
def broken (reason : String) : Fault := ⟨.io, none, reason⟩

/-- A fault that the client words by itself. -/
def worded (kind : FaultKind) (text : String) : Fault := ⟨kind, none, text ++ "- " ++ kind.name⟩

/-- Whether there is no connection any more. -/
def isConnection (f : Fault) : Bool := f.kind = .io

/-- Whether the server is one of several, and not the one to ask now. -/
def isCluster (f : Fault) : Bool :=
  f.kind = .moved || f.kind = .ask || f.kind = .tryAgain || f.kind = .clusterDown

/-- The code of an error about a key that holds something else. -/
def wrongType : String := "WRONGTYPE"

/-- The refusal that a fault amounts to. -/
def refusal (f : Fault) : Refusal :=
  if f.isConnection || f.isCluster then .transient f.message
  else
    match f.kind with
    | .response | .type => .permanent f.message
    | .extension =>
      if f.code = some wrongType then .permanent f.message else .transient f.message
    | _ => .transient f.message

end Fault

end Relay.Stream
