import Readiness.Http.Reader
import Readiness.Url.Host

/-! The network as far as waiting sees it.

A `Network` says what becomes of each attempt to connect to a host port: the attempts to one port
meet the peers of its list one after another, and the last one for ever. `Network.connection` gives
the fate of the next attempt, and `Network.afterAttempt` the network as it is afterwards. -/

namespace Readiness

/-- What an attempt to connect meets. -/
inductive Peer
  | refuses
  | hangs
  /-- There is no way to the peer. -/
  | unreachable
  | listens (server : Http.Server)
deriving DecidableEq, Repr, Inhabited

/-- Why a connection was not made. -/
inductive ConnectError
  | refused
  | unreachable
  | unresolved
deriving DecidableEq, Repr

def ConnectError.message : ConnectError → String
  | .refused => "Connection refused (os error 111)"
  | .unreachable => "Network is unreachable (os error 101)"
  | .unresolved => "failed to lookup address information: Name or service not known"

/-- What becomes of an attempt to connect. -/
inductive Connection
  | made (server : Http.Server)
  | failed (error : ConnectError)
  /-- The attempt goes on for ever. -/
  | pending
deriving DecidableEq, Repr

/-- What stands behind the host ports. -/
structure Network where
  /-- For each port that has any, the peers still to be met. -/
  ports : List (UInt16 × List Peer) := []
  /-- Whether domains have an address. -/
  resolves : Bool := true
  /-- How responses are read at this end. -/
  reader : Http.Reader := .usual
deriving Inhabited

namespace Network

/-- What remains of the peers of a port after an attempt. -/
def advance : List Peer → List Peer
  | [] => []
  | [peer] => [peer]
  | _ :: rest => rest

/-- The peer that the next attempt to connect to `port` meets; nobody is at a port without peers. -/
def peer (n : Network) (port : UInt16) : Peer :=
  ((n.ports.lookup port).bind List.head?).getD .refuses

/-- What becomes of the next attempt to connect to `port`. -/
def connection (n : Network) (port : UInt16) : Connection :=
  match n.peer port with
  | .refuses => .failed .refused
  | .hangs => .pending
  | .unreachable => .failed .unreachable
  | .listens server => .made server

/-- The network after an attempt to connect to `port`. -/
def afterAttempt (n : Network) (port : UInt16) : Network :=
  { n with ports := n.ports.map fun p => if p.1 = port then (p.1, advance p.2) else p }

/-- How many peers are met before all ports only repeat themselves. -/
def unread (n : Network) : Nat := n.ports.foldl (fun k p => k + (p.2.length - 1)) 0

/-- Whether a name is an address in writing, so that none has to be looked up. -/
def isNumeric (name : String) : Bool :=
  (Url.Ipv4.ofDotted? name).isSome || (Url.Ipv6.read? name.toList).isSome

/-- Whether a host has an address. -/
def knows (n : Network) : Url.Host → Bool
  | .domain name => n.resolves || isNumeric name
  | _ => true

end Network

end Readiness
