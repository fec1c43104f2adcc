import Relay.Text.Parts
import Relay.Text.Utf8

/-!
# Sockets of a simulation

The servers of a simulation listen on sockets in one directory. `Sockets.fault` says why the socket
at a path cannot be connected to, if it cannot: a path is followed part by part, and only the
directory, those around it and the sockets in it are there.
-/

namespace Relay.Simulation

open Relay.Text

/-- Sockets in a directory. -/
structure Sockets where
  /-- The names of the directory and of those around it, the outermost first. -/
  directory : List String
  names : List String

namespace Sockets

/-- The path of the directory. -/
def path (s : Sockets) : String := String.join (s.directory.map ("/" ++ ·))

/-- Nothing listens there. -/
def refused : String := "Connection refused (os error 111)"

/-- Follows a path from a place on; why it leads to no socket, if it does not. -/
def follow (s : Sockets) (here : List String) : List String → Option String
  | [] => some refused
  | part :: rest =>
    if part = "" || part = "." then s.follow here rest
    else if part = ".." then s.follow here.dropLast rest
    else if (here ++ [part]).isPrefixOf s.directory then s.follow (here ++ [part]) rest
    else if here = s.directory && part ∈ s.names then
      if rest.isEmpty then none else some "Not a directory (os error 20)"
    else some "No such file or directory (os error 2)"

/-- The bytes that a path has to be shorter than. -/
def pathLimit : Nat := 108

/-- Why the socket at a path cannot be connected to, if it cannot. -/
def fault (s : Sockets) (path : List UInt8) : Option String :=
  if 0 ∈ path then some "paths must not contain interior null bytes"
  else if pathLimit ≤ path.length then some "path must be shorter than SUN_LEN"
  else s.follow [] ((parts '/' (Utf8.decodeLossy path)).map String.ofList)

end Sockets

end Relay.Simulation
