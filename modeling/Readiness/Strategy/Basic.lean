import Readiness.Condition.Healthcheck
import Readiness.Condition.HostPort
import Readiness.Condition.Http
import Readiness.Condition.LogMessage
import Readiness.Condition.Shell

/-! Strategies.

A `Strategy` is a tree: its leaves are the conditions that are polled, the fixed conditions
`nothing` and `duration`, and strategies from elsewhere (`custom`); inner nodes are composites
(`all`) and wrappers. A wrapper is a box or one of the conditions that hold a strategy; a condition
does everything through the strategy that it holds, as far as there is one (`Variant.held?`,
`Variant.heldMut?`). `Strategy.setTimeout` changes the timeout, `Strategy.wait` waits. A composite in
mode `Mode.outer` passes its timeout on to its children whenever one of the two is new, and
remembers the first child that refused it; in mode `Mode.maximum` its timeout bounds the total time
of its children. -/

namespace Readiness

/-- A strategy from elsewhere: it takes its time, then ends as it is told to. -/
structure Custom where
  name : String
  takes : Duration := .zero
  /-- How the wait fails, if it does. -/
  fails : Option WaitError := none
  /-- Why a change to the given timeout is refused, if it is. -/
  refuses : Duration → Option ConfigurationError := fun _ => none
  timeout : Duration := .ofSecs 60

/-- The conditions that hold a strategy. -/
inductive Variant
  | logMessage | hostPort | http | shell | healthcheck | all
deriving DecidableEq, Repr

namespace Variant

def name : Variant → String
  | .logMessage => "LogMessage"
  | .hostPort => "HostPort"
  | .http => "Http"
  | .shell => "Shell"
  | .healthcheck => "Healthcheck"
  | .all => "All"

/-- What is to be had of the strategy that a condition holds, by looking at it. -/
def held? {α : Type} : Variant → α → Option α
  | .logMessage, a => some a
  | .hostPort, a => some a
  | .http, a => some a
  | .shell, a => some a
  | .healthcheck, a => some a
  | .all, a => some a

/-- What is to be had of the strategy that a condition holds, by changing it or by waiting on it. -/
def heldMut? {α : Type} : Variant → α → Option α
  | .logMessage, a => some a
  | .hostPort, a => some a
  | .http, a => some a
  | .shell, a => some a
  | .healthcheck, a => some a
  | .all, a => some a

end Variant

/-- What may be around a strategy. -/
inductive Wrapper
  /-- A place to keep the strategy in. -/
  | box
  /-- One of the conditions to wait for. -/
  | condition (variant : Variant)
deriving DecidableEq, Repr

/-- What decides when a container is ready. -/
inductive Strategy
  | logMessage (c : LogMessage)
  | hostPort (c : HostPort)
  | http (c : HttpProbe)
  | shell (c : ShellCommand)
  | healthcheck (c : Healthcheck)
  | nothing
  | duration (length : Duration)
  | custom (c : Custom)
  | wrapped (wrapper : Wrapper) (inner : Strategy)
  /-- Several strategies, one after another. `refused` tells why the first child that did so refused
  the timeout. -/
  | all (mode : Mode) (timeout : Duration) (refused : Option ConfigurationError)
      (children : List Strategy)

namespace Strategy

def kind : Strategy → Kind
  | .logMessage _ => .logMessage
  | .hostPort _ => .hostPort
  | .http _ => .http
  | .shell _ => .shell
  | .healthcheck _ => .healthcheck
  | .nothing => .nothing
  | .duration _ => .duration
  | .custom _ => .custom
  | .wrapped .box inner => inner.kind
  | .wrapped (.condition variant) inner => (variant.held? inner.kind).getD .custom
  | .all .. => .waitAll

def startupTimeout : Strategy → Duration
  | .logMessage c => c.pace.timeout
  | .hostPort c => c.pace.timeout
  | .http c => c.pace.timeout
  | .shell c => c.pace.timeout
  | .healthcheck c => c.pace.timeout
  | .nothing => .zero
  | .duration length => length
  | .custom c => c.timeout
  | .wrapped .box inner => inner.startupTimeout
  | .wrapped (.condition variant) inner => (variant.held? inner.startupTimeout).getD .zero
  | .all _ timeout _ _ => timeout

/-- The condition that holds a strategy. A fixed condition and what is wrapped already stay as they
are, and there is no condition for strategies from elsewhere. -/
def toCondition : Strategy → Strategy
  | .logMessage c => .wrapped (.condition .logMessage) (.logMessage c)
  | .hostPort c => .wrapped (.condition .hostPort) (.hostPort c)
  | .http c => .wrapped (.condition .http) (.http c)
  | .shell c => .wrapped (.condition .shell) (.shell c)
  | .healthcheck c => .wrapped (.condition .healthcheck) (.healthcheck c)
  | .all mode timeout refused children =>
    .wrapped (.condition .all) (.all mode timeout refused children)
  | s => s

/-! ### Composites -/

/-- The timeout of a composite to which none has been given. -/
def defaultOuterTimeout : Duration := .ofSecs 30

def composite (mode : Mode) : Strategy := .all mode defaultOuterTimeout none []

/-- Reports that `child` has refused the timeout. -/
def warnRefused {ε : Type} (child : Strategy) (cause : ConfigurationError) : Timed ε Unit :=
  Timed.note .warn
    (child.kind.name ++ " wait strategy refused the outer timeout: " ++ cause.message)

mutual

/-- Changes the timeout of a strategy. The result tells whether it was refused. -/
def setTimeout {ε : Type} (d : Duration) :
    Strategy → Timed ε (Strategy × Option ConfigurationError)
  | .logMessage c => return (.logMessage { c with pace := { c.pace with timeout := d } }, none)
  | .hostPort c => return (.hostPort { c with pace := { c.pace with timeout := d } }, none)
  | .http c => return (.http { c with pace := { c.pace with timeout := d } }, none)
  | .shell c => return (.shell { c with pace := { c.pace with timeout := d } }, none)
  | .healthcheck c => return (.healthcheck { c with pace := { c.pace with timeout := d } }, none)
  | .nothing => return (.nothing, none)
  | .duration length => return (.duration length, none)
  | .custom c => do
    Timed.record (.setStartupTimeout c.name d)
    match c.refuses d with
    | some cause => return (.custom c, some cause)
    | none => return (.custom { c with timeout := d }, none)
  | .wrapped .box inner => do
    let (inner, refused) ← setTimeout d inner
    return (.wrapped .box inner, refused)
  | .wrapped (.condition variant) inner =>
    match variant.heldMut? (setTimeout d inner) with
    | some change => do
      let (inner, refused) ← change
      return (.wrapped (.condition variant) inner, refused)
    | none => return (.wrapped (.condition variant) inner, none)
  | .all .individual timeout refused children =>
    return (.all .individual timeout refused children, some (.timeoutNotSupported .individual))
  | .all .maximum _ refused children => return (.all .maximum d refused children, none)
  | .all .outer _ refused children => do
    let (children, refused) ← pushTimeouts d refused children
    return (.all .outer d refused children, none)

/-- Passes a timeout on to children, one after another; the first refusal is remembered. -/
def pushTimeouts {ε : Type} (d : Duration) (refused : Option ConfigurationError) :
    List Strategy → Timed ε (List Strategy × Option ConfigurationError)
  | [] => return ([], refused)
  | child :: rest => do
    let (child, refusal) ← setTimeout d child
    if let some cause := refusal then warnRefused child cause
    let (rest, refused) ← pushTimeouts d (refused <|> refusal) rest
    return (child :: rest, refused)

end

/-- Adds a child behind those that a composite has; any other strategy stays as it is. -/
def add {ε : Type} (child : Strategy) : Strategy → Timed ε Strategy
  | .all .outer timeout refused children => do
    let (added, refused) ← pushTimeouts timeout refused [child]
    return .all .outer timeout refused (children ++ added)
  | .all mode timeout refused children => return .all mode timeout refused (children ++ [child])
  | s => return s

/-! ### Waiting -/

/-- The place of a child among its siblings, in a message. -/
def place (index count : Nat) (kind : Kind) : String :=
  "strategy " ++ toString index ++ " of " ++ toString count ++ " (" ++ kind.name ++ ")"

/-- Wraps the timeout of a child, in the modes in which the composite has a timeout of its own. -/
def wrapTimeout (mode : Mode) (elapsed : Duration) (place : String) (error : WaitError) :
    WaitError :=
  if error.isTimeout ∧ mode ≠ .individual then
    .timeout .waitAll elapsed (place ++ " was not ready in time") (some error)
  else error

/-- Whether a composite has to stop although its children have succeeded so far. -/
def reachesCeiling (mode : Mode) (ceiling elapsed : Duration) : Bool :=
  mode = .maximum ∧ ceiling ≤ elapsed

/-- Waits on a child of a composite that began at `started`, at the given place. -/
def waitChild (mode : Mode) (ceiling : Duration) (started : Nat) (place : String)
    (child : Wait Unit) : Wait Unit := fun w =>
  let elapsed (w : World) := Duration.ofMillis (w.now - started)
  match child w with
  | .error (.failed error) w => .error (.failed (wrapTimeout mode (elapsed w) place error)) w
  | .error .endless w => .error .endless w
  | .ok () w =>
    if reachesCeiling mode ceiling (elapsed w) then
      .error (.failed (.timeout .waitAll (elapsed w)
        ("reached the " ++ ceiling.text ++ " limit after " ++ place) none)) w
    else .ok () w

/-- Waits in the way of a strategy from elsewhere. -/
def waitCustom (c : Custom) : Wait Unit := do
  Timed.record (.custom c.name c.timeout)
  Timed.pause c.takes
  match c.fails with
  | some error => Wait.fail error
  | none => return

mutual

/-- Waits until the container is ready in the sense of the strategy. -/
def wait : Strategy → Wait Unit
  | .logMessage c => c.wait
  | .hostPort c => c.wait
  | .http c => c.wait
  | .shell c => c.wait
  | .healthcheck c => c.wait
  | .nothing => return
  | .duration length => do
    Timed.note .debug ("Sleeping for " ++ length.text ++ " before considering container "
      ++ (← Timed.targetId) ++ " ready")
    Timed.pause length
  | .custom c => waitCustom c
  | .wrapped .box inner => wait inner
  | .wrapped (.condition variant) inner =>
    match variant.heldMut? (wait inner) with
    | some wait => wait
    | none => return
  | .all mode timeout refused children => do
    match refused with
    | some cause => Wait.misconfigured cause
    | none =>
      let count := children.length
      Wait.say .info
        ("Waiting for " ++ toString count ++ " strategies (" ++ mode.name ++ ")")
      waitEach mode timeout (← Timed.now) count 1 children
      Wait.say .info ("All " ++ toString count ++ " strategies are ready")

/-- Waits on children one after another, the first of which has the number `index`. -/
def waitEach (mode : Mode) (ceiling : Duration) (started count : Nat) :
    Nat → List Strategy → Wait Unit
  | _, [] => return
  | index, child :: rest => do
    let place := place index count child.kind
    Wait.say .debug ("Waiting for " ++ place)
    waitChild mode ceiling started place (wait child)
    waitEach mode ceiling started count (index + 1) rest

end

end Strategy

end Readiness
