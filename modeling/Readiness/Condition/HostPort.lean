import Readiness.Environment

/-! Waiting for ports.

`HostPort` waits until every host port accepts a connection in one pass over all of them. The ports
are those that the given container ports are mapped to, or those of all declared container ports; a
container without any is ready at once. -/

namespace Readiness

/-- Waits for ports to accept connections. -/
structure HostPort where
  /-- The container ports, all declared ones if left out. -/
  ports : Option Ascending := none
  connectTimeout : Duration := .ofSecs 1
  pace : Pace
deriving DecidableEq, Repr, Inhabited

inductive HostPort.Setting
  | ports (ports : List UInt16)
  | connectTimeout (d : Duration)
  | pace (s : Pace.Setting)
deriving DecidableEq, Repr

namespace HostPort

/-- The interval of a new condition where the environment says nothing. -/
def usualInterval : Duration := .ofMillis 500

def apply (c : HostPort) : Setting → HostPort
  | .ports ports => { c with ports := some (.ofList ports) }
  | .connectTimeout d => { c with connectTimeout := d }
  | .pace s => { c with pace := c.pace.apply s }

/-- The host ports of the given container ports, looked up one after another. -/
def lookUpEach : List UInt16 → Ascending → Wait Ascending
  | [], found => return found
  | port :: rest, found => do
    let hostPort ← Wait.require (Query.mappedPort port)
    lookUpEach rest (found.insert hostPort)

/-- The host ports to connect to. -/
def hostPorts (c : HostPort) : Wait Ascending :=
  match c.ports with
  | some ports => lookUpEach ports.toList ∅
  | none => Wait.require Query.livenessCheckPorts

/-- Whether a port accepts a connection. -/
def isListening (c : HostPort) (host : Url.Host) (port : UInt16) : Wait Bool := do
  let subject := "Connection to " ++ host.text ++ ":" ++ toString port.toNat
  match ← Timed.connect host port with
  | .made _ => return true
  | .failed error =>
    Timed.note .trace (subject ++ " failed: " ++ error.message)
    return false
  | .pending =>
    Timed.pause c.connectTimeout
    Timed.note .trace (subject ++ " timed out after " ++ c.connectTimeout.text)
    return false

/-- The ports that do not accept a connection, every port being tried once. -/
def unreachable (c : HostPort) (host : Url.Host) : List UInt16 → Wait (List UInt16)
  | [] => return []
  | port :: rest => do
    let listening ← c.isListening host port
    let others ← c.unreachable host rest
    return if listening then others else port :: others

/-- Ports in a message. -/
def portsText (ports : List UInt16) : String :=
  ", ".intercalate (ports.map fun p => toString p.toNat)

/-- Makes one pass over the ports. -/
def attempt (c : HostPort) (host : Url.Host) (ports : Ascending) : Wait (Attempt Unit) := do
  let missing ← c.unreachable host ports.toList
  if missing.isEmpty then
    Wait.say .info "All host ports are reachable"
    return .ready
  else
    return .missed () ("port(s) " ++ portsText missing ++ " not reachable on " ++ host.text)

def wait (c : HostPort) : Wait Unit := do
  let ports ← c.hostPorts
  if ports.isEmpty then
    Wait.say .debug "No ports to wait for, considering container ready"
  else
    let host ← Wait.require Query.host
    Wait.say .info ("Waiting for " ++ c.pace.timeout.text ++ " for host port(s) "
      ++ portsText ports.toList ++ " on " ++ host.text)
    Poll.run ⟨.hostPort, c.pace⟩ (fun _ => c.attempt host ports) ()

end HostPort

end Readiness
