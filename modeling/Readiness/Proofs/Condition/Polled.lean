import Readiness.Proofs.Action.Basic
import Readiness.Strategy.Basic

/-! # Polled conditions

A `Polled` condition is set up once (`Polled.setUp`), which gives the plan of its attempts, and is
then attempted at its pace (`Polled.attempt`). `Polled.wait_eq` says that the waits of the five
conditions are of this form; a condition that finds nothing to attempt is ready at once. -/

namespace Readiness

/-! ## Setting up -/

/-- Compiles the pattern. -/
def LogMessage.setUp (c : LogMessage) : Wait (Option (String × Pattern)) := do
  match c.compile with
  | .error cause => Wait.misconfigured cause
  | .ok (text, pattern) =>
    Wait.say .info ("Waiting for " ++ c.pace.timeout.text ++ " for log output matching '" ++ text
      ++ "' " ++ toString c.times ++ " time(s)")
    return some (text, pattern)

theorem LogMessage.wait_eq (c : LogMessage) : c.wait = c.setUp >>= fun plan =>
    plan.elim (pure ()) fun p => Poll.run ⟨.logMessage, c.pace⟩ (c.attempt p.1 p.2) {} := by
  unfold LogMessage.wait LogMessage.setUp
  cases c.compile with
  | error cause => rfl
  | ok plan =>
    simp only [bind_assoc, pure_bind]
    rfl

/-- It makes no difference whether each answer is required by itself or all of them together. -/
theorem HostPort.lookUpEach_eq (ports : List UInt16) (found : Ascending) :
    lookUpEach ports found = Wait.require (Query.mappedPorts ports found) := by
  induction ports generalizing found with
  | nil => rfl
  | cons port rest ih =>
    have hq : Wait.require (Query.mappedPorts (port :: rest) found) =
        Wait.require (Query.mappedPort port) >>= fun hostPort =>
          Wait.require (Query.mappedPorts rest (found.insert hostPort)) := Timed.mapError_bind ..
    rw [lookUpEach, hq]
    exact congrArg _ (funext fun hostPort => ih (found.insert hostPort))

/-- What the target is asked for the host ports. -/
def HostPort.query (c : HostPort) : Query Ascending :=
  match c.ports with
  | some ports => Query.mappedPorts ports.toList ∅
  | none => Query.livenessCheckPorts

theorem HostPort.hostPorts_eq (c : HostPort) : c.hostPorts = Wait.require c.query := by
  unfold hostPorts query
  cases c.ports with
  | none => rfl
  | some ports => exact lookUpEach_eq ports.toList ∅

theorem HostPort.hostPorts_of_ports {c : HostPort} {ports : Ascending} (h : c.ports = some ports) :
    c.hostPorts = Wait.require (Query.mappedPorts ports.toList ∅) := by
  rw [c.hostPorts_eq, query, h]

/-- Looks up the host ports and the host; there may be no port. -/
def HostPort.setUp (c : HostPort) : Wait (Option (Url.Host × Ascending)) := do
  let ports ← c.hostPorts
  if ports.isEmpty then
    Wait.say .debug "No ports to wait for, considering container ready"
    return none
  else
    let host ← Wait.require Query.host
    Wait.say .info ("Waiting for " ++ c.pace.timeout.text ++ " for host port(s) "
      ++ HostPort.portsText ports.toList ++ " on " ++ host.text)
    return some (host, ports)

theorem HostPort.wait_eq (c : HostPort) : c.wait = c.setUp >>= fun plan =>
    plan.elim (pure ()) fun p => Poll.run ⟨.hostPort, c.pace⟩ (fun _ => c.attempt p.1 p.2) () := by
  unfold HostPort.wait HostPort.setUp
  rw [bind_assoc]
  congr 1
  funext ports
  split
  · simp only [bind_assoc, pure_bind]
    rfl
  · simp only [bind_assoc, pure_bind]
    rfl

/-- All that makes a difference to an attempt is how long it gives a connection. -/
theorem HostPort.attempt_congr {c d : HostPort} (h : c.connectTimeout = d.connectTimeout)
    (host : Url.Host) (ports : Ascending) : c.attempt host ports = d.attempt host ports := by
  have hu : ∀ l : List UInt16, c.unreachable host l = d.unreachable host l := by
    intro l
    induction l with
    | nil => rfl
    | cons port rest ih => rw [unreachable, unreachable, ih, isListening, isListening, h]
  rw [attempt, attempt, hu]

/-- Looks up the port and the host and builds the URL; there may be no port. -/
def HttpProbe.lookUp (c : HttpProbe) : Wait (Option Url) := do
  match ← Wait.require c.hostPort? with
  | none =>
    Wait.say .warn "No exposed or mapped ports, cannot wait for HTTP status"
    return none
  | some port =>
    let host ← Wait.require Query.host
    match HttpProbe.livenessUrl host port c.useTls c.path with
    | .error fault => Wait.misconfigured (.invalidUrl fault)
    | .ok url =>
      Wait.say .info ("Waiting for " ++ c.pace.timeout.text ++ " for URL: " ++ url.text
        ++ " (expecting HTTP " ++ c.expectation ++ ")")
      return some url

/-- Refuses a read timeout that is too short, then looks up where to send the request. -/
def HttpProbe.setUp (c : HttpProbe) : Wait (Option Url) :=
  if c.readTimeout < HttpProbe.shortestReadTimeout then
    Wait.misconfigured (.readTimeoutTooShort c.readTimeout)
  else c.lookUp

theorem HttpProbe.wait_eq (c : HttpProbe) : c.wait = c.setUp >>= fun plan =>
    plan.elim (pure ()) fun url => Poll.run ⟨.http, c.pace⟩ (fun _ => c.attempt url) () := by
  unfold HttpProbe.wait HttpProbe.setUp
  split
  · rfl
  · unfold HttpProbe.lookUp
    dsimp only
    rw [bind_assoc]
    congr 1
    funext port
    cases port with
    | none =>
      simp only [bind_assoc, pure_bind]
      rfl
    | some port =>
      dsimp only
      rw [bind_assoc]
      congr 1
      funext host
      cases livenessUrl host port c.useTls c.path with
      | error fault => rfl
      | ok url =>
        simp only [bind_assoc, pure_bind]
        rfl

/-- Finds out the command. -/
def ShellCommand.setUp (c : ShellCommand) : Wait (Option String) := do
  match c.command with
  | none => Wait.misconfigured .missingCommand
  | some command =>
    Wait.say .info ("Waiting for " ++ c.pace.timeout.text ++ " for command '" ++ command
      ++ "' to succeed")
    return some command

theorem ShellCommand.wait_eq (c : ShellCommand) : c.wait = c.setUp >>= fun plan =>
    plan.elim (pure ()) fun command =>
      Poll.run ⟨.shell, c.pace⟩ (ShellCommand.attempt command) {} := by
  unfold ShellCommand.wait ShellCommand.setUp
  cases c.command with
  | none => rfl
  | some command =>
    simp only [bind_assoc, pure_bind]
    rfl

/-- There is nothing to find out. -/
def Healthcheck.setUp (c : Healthcheck) : Wait (Option Unit) := do
  Wait.say .info ("Waiting for " ++ c.pace.timeout.text ++ " for container to become healthy")
  return some ()

theorem Healthcheck.wait_eq (c : Healthcheck) : c.wait = c.setUp >>= fun plan =>
    plan.elim (pure ()) fun _ =>
      Poll.run ⟨.healthcheck, c.pace⟩ (fun _ => Healthcheck.attempt) () := by
  unfold Healthcheck.wait Healthcheck.setUp
  simp only [bind_assoc, pure_bind]
  rfl

/-! ## The five conditions -/

/-- A condition that is attempted again and again. -/
inductive Polled
  | logMessage (c : LogMessage)
  | hostPort (c : HostPort)
  | http (c : HttpProbe)
  | shell (c : ShellCommand)
  | healthcheck (c : Healthcheck)

namespace Polled

/-- The condition as a strategy. -/
def strategy : Polled → Strategy
  | .logMessage c => .logMessage c
  | .hostPort c => .hostPort c
  | .http c => .http c
  | .shell c => .shell c
  | .healthcheck c => .healthcheck c

/-- How the condition is polled. -/
def poll : Polled → Poll
  | .logMessage c => ⟨.logMessage, c.pace⟩
  | .hostPort c => ⟨.hostPort, c.pace⟩
  | .http c => ⟨.http, c.pace⟩
  | .shell c => ⟨.shell, c.pace⟩
  | .healthcheck c => ⟨.healthcheck, c.pace⟩

/-- What all attempts share. -/
def Plan : Polled → Type
  | .logMessage _ => String × Pattern
  | .hostPort _ => Url.Host × Ascending
  | .http _ => Url
  | .shell _ => String
  | .healthcheck _ => Unit

/-- What is remembered from one attempt to the next. -/
def Memory : Polled → Type
  | .logMessage _ => MatchCount
  | .hostPort _ => Unit
  | .http _ => Unit
  | .shell _ => Failures
  | .healthcheck _ => Unit

/-- What is remembered before the first attempt. -/
def blank : (c : Polled) → c.Memory
  | .logMessage _ => ({} : MatchCount)
  | .hostPort _ => ()
  | .http _ => ()
  | .shell _ => ({} : Failures)
  | .healthcheck _ => ()

/-- Finds out what to attempt; there may be nothing to wait for. -/
def setUp : (c : Polled) → Wait (Option c.Plan)
  | .logMessage c => c.setUp
  | .hostPort c => c.setUp
  | .http c => c.setUp
  | .shell c => c.setUp
  | .healthcheck c => c.setUp

/-- One attempt. -/
def attempt : (c : Polled) → c.Plan → c.Memory → Wait (Attempt c.Memory)
  | .logMessage c, plan, found => c.attempt plan.1 plan.2 found
  | .hostPort c, plan, _ => c.attempt plan.1 plan.2
  | .http c, url, _ => c.attempt url
  | .shell _, command, f => ShellCommand.attempt command f
  | .healthcheck _, _, _ => Healthcheck.attempt

/-- Attempts at the pace of the condition. -/
def run (c : Polled) (plan : c.Plan) : Wait Unit := c.poll.run (c.attempt plan) c.blank

/-- Waiting for a condition is setting it up and polling it. -/
theorem wait_eq (c : Polled) :
    c.strategy.wait = c.setUp >>= fun plan => plan.elim (pure ()) c.run := by
  cases c with
  | logMessage c => exact c.wait_eq
  | hostPort c => exact c.wait_eq
  | http c => exact c.wait_eq
  | shell c => exact c.wait_eq
  | healthcheck c => exact c.wait_eq

end Polled

end Readiness
