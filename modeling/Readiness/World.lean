import Readiness.Network
import Readiness.Target

/-! The world of a wait.

A `World` is the clock, the target and the network together with what has happened so far: the
`journal` of calls, each with the time of its start, and the `log`. The clock stands on whole
milliseconds and is moved by `pause` and by replies that are late; everything else takes no time.
Actions are functions on the world that may end early, in `Timed`. -/

namespace Readiness

/-- How important a line of the log is. -/
inductive Level
  | error | warn | info | debug | trace
deriving DecidableEq, Repr

namespace Level

def name : Level → String
  | .error => "error"
  | .warn => "warn"
  | .info => "info"
  | .debug => "debug"
  | .trace => "trace"

/-- More important levels have lower ranks. -/
def rank : Level → Nat
  | .error => 0
  | .warn => 1
  | .info => 2
  | .debug => 3
  | .trace => 4

end Level

/-- Something that happened between a strategy and what is around it. -/
inductive Call
  | host
  | isRunning
  | isHealthy
  | exposedPorts
  | mappedPort (port : UInt16)
  | logs
  | exec (command : List String)
  | connect (port : UInt16)
  | request (port : UInt16) (request : Http.Request)
  | matcher (status : UInt16)
  | predicate (body : String)
  | custom (name : String) (timeout : Duration)
  | setStartupTimeout (name : String) (timeout : Duration)
  | mode (mode : Mode)
deriving Repr, DecidableEq

/-- A call and the time of its start. -/
structure Entry where
  time : Nat
  call : Call
deriving Repr, DecidableEq

/-- Everything that a wait depends on and leaves its traces in. -/
structure World where
  /-- Milliseconds since the beginning. -/
  now : Nat := 0
  target : Target := {}
  network : Network := {}
  journal : Array Entry := #[]
  log : Array (Level × String) := #[]

/-- How many replies and peers are used up before the world only repeats itself. -/
def World.unread (w : World) : Nat := w.target.unread + w.network.unread

/-- Actions on the world that may end early with an `ε`. -/
abbrev Timed (ε α : Type) := EStateM ε World α

/-- Questions to the target. -/
abbrev Query (α : Type) := Timed TargetError α

namespace Timed

variable {ε α : Type}

/-- Lets time pass until the first whole millisecond that is not before the end of `d`. -/
def pause (d : Duration) : Timed ε Unit := modify fun w => { w with now := w.now + d.ceilMillis }

def record (call : Call) : Timed ε Unit :=
  modify fun w => { w with journal := w.journal.push ⟨w.now, call⟩ }

def note (level : Level) (text : String) : Timed ε Unit :=
  modify fun w => { w with log := w.log.push (level, text) }

def now : Timed ε Nat := return (← get).now

def targetId : Timed ε String := return (← get).target.id

/-- How responses are read. -/
def reader : Timed ε Http.Reader := return (← get).network.reader

/-- Tries to connect to a port of a host. The attempt itself takes no time; an attempt that goes on
for ever is for the caller to give up. -/
def connect (host : Url.Host) (port : UInt16) : Timed ε Connection := do
  let w ← get
  if w.network.knows host then
    record (.connect port)
    modify fun w => { w with network := w.network.afterAttempt port }
    return w.network.connection port
  else
    return .failed .unresolved

/-- The result of an action as a value. -/
def outcome (action : Timed ε α) {δ : Type} : Timed δ (Except ε α) := fun w =>
  match action w with
  | .ok a w => .ok (.ok a) w
  | .error e w => .ok (.error e) w

/-- An action whose early end is said in other words. -/
def mapError {δ : Type} (f : ε → δ) (action : Timed ε α) : Timed δ α := fun w =>
  match action w with
  | .ok a w => .ok a w
  | .error e w => .error (f e) w

end Timed

namespace Query

/-- Asks the target: the call is entered, then the reply takes its time. -/
def ask {α : Type} (call : Call) (next : Target → Reply α × Target) : Query α := fun w =>
  let (reply, target) := next w.target
  let w := { w with
    now := w.now + reply.delay.ceilMillis
    target
    journal := w.journal.push ⟨w.now, call⟩ }
  match reply.answer with
  | .ok a => .ok a w
  | .error e => .error e w

def host : Query Url.Host := ask .host Target.nextHost

def isRunning : Query Bool := ask .isRunning Target.nextRunning

def isHealthy : Query Bool := ask .isHealthy Target.nextHealth

def exposedPorts : Query Ascending := ask .exposedPorts Target.nextExposed

def mappedPort (port : UInt16) : Query UInt16 := ask (.mappedPort port) (Target.nextMapped port)

/-- The output of the container up to now. -/
def logs : Query String := ask .logs Target.nextLogs

/-- The words of a command as they are shown in the log. -/
def describeCommand (command : List String) : String :=
  "[" ++ ", ".intercalate (command.map Text.quote) ++ "]"

def exec (command : List String) : Query ExecResult := do
  let t := (← get).target
  match t.exec with
  | some script => ask (.exec command) (Target.nextExec script)
  | none =>
    Timed.note .debug ("Cannot execute " ++ describeCommand command ++ ": no exec transport")
    throw (.notSupported t.id "exec")

/-- The host ports of the given container ports, asked for one after another. -/
def mappedPorts : List UInt16 → Ascending → Query Ascending
  | [], found => return found
  | port :: rest, found => do mappedPorts rest (found.insert (← mappedPort port))

/-- The host ports of every declared container port. -/
def livenessCheckPorts : Query Ascending := do
  mappedPorts (← exposedPorts).toList ∅

end Query

end Readiness
