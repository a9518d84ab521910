import Readiness.Ascending
import Readiness.Error
import Readiness.Url.Host

/-! Scripted targets.

A `Target` is a started container that answers questions by script: each question has a list of
replies, every time it is asked the next one is given, and the last one is given for ever. The
`next…` functions give the reply to one question together with the target as it is afterwards. -/

namespace Readiness

/-- An answer, and how long it is in coming. -/
structure Reply (α : Type) where
  delay : Duration := .zero
  answer : Except TargetError α

/-- Replies in the order in which they are given; the last one is repeated. -/
structure Script (α : Type) where
  replies : List (Reply α) := []

namespace Script

variable {α : Type}

/-- The next reply, if there is any, and what remains. -/
def next : Script α → Option (Reply α) × Script α
  | ⟨[]⟩ => (none, ⟨[]⟩)
  | ⟨[reply]⟩ => (some reply, ⟨[reply]⟩)
  | ⟨reply :: rest⟩ => (some reply, ⟨rest⟩)

/-- The next reply, or an answer given at once if there are no replies. -/
def nextOr (default : Except TargetError α) (s : Script α) : Reply α × Script α :=
  match s.next with
  | (some reply, rest) => (reply, rest)
  | (none, rest) => ({ answer := default }, rest)

/-- How many replies are given before the script only repeats itself. -/
def unread (s : Script α) : Nat := s.replies.length - 1

theorem unread_nextOr (default : Except TargetError α) (s : Script α) :
    (s.nextOr default).2.unread = s.unread - 1 := by
  obtain ⟨replies⟩ := s
  match replies with
  | [] | [_] => rfl
  | _ :: _ :: _ => rfl

end Script

/-- What a command left behind. -/
structure ExecResult where
  exitCode : Int := 0
  stdout : String := ""
  stderr : String := ""
deriving DecidableEq, Repr, Inhabited

def ExecResult.success (r : ExecResult) : Bool := r.exitCode = 0

/-- A container that answers by script. -/
structure Target where
  id : String := "mock"
  /-- Container ports with the reply to the question for their host port; without one the pair does
  not count as mapped. -/
  mappings : List (UInt16 × Option (Reply UInt16)) := []
  host : Script Url.Host := {}
  running : Script Bool := {}
  health : Script Bool := {}
  exposed : Script Ascending := {}
  logs : Script String := {}
  /-- Left out if commands cannot be run at all. -/
  exec : Option (Script ExecResult) := some {}

namespace Target

def nextHost (t : Target) : Reply Url.Host × Target :=
  let (reply, host) := t.host.nextOr (.ok Url.Host.loopback)
  (reply, { t with host })

/-- The next reply to whether the main process is running; it is, where nothing is scripted. -/
def nextRunning (t : Target) : Reply Bool × Target :=
  let (reply, running) := t.running.nextOr (.ok true)
  (reply, { t with running })

def nextHealth (t : Target) : Reply Bool × Target :=
  let (reply, health) := t.health.nextOr (.error (.notSupported t.id "healthcheck"))
  (reply, { t with health })

/-- The container ports of all mappings. -/
def containerPorts (t : Target) : Ascending := .ofList (t.mappings.map (·.1))

def nextExposed (t : Target) : Reply Ascending × Target :=
  let (reply, exposed) := t.exposed.nextOr (.ok t.containerPorts)
  (reply, { t with exposed })

/-- The reply for the first pair of `port` that has one. -/
def mapping? (port : UInt16) : List (UInt16 × Option (Reply UInt16)) → Option (Reply UInt16)
  | [] => none
  | (p, some reply) :: rest => if p = port then some reply else mapping? port rest
  | (_, none) :: rest => mapping? port rest

def nextMapped (port : UInt16) (t : Target) : Reply UInt16 × Target :=
  ((mapping? port t.mappings).getD { answer := .error (.portNotMapped t.id port) }, t)

def nextLogs (t : Target) : Reply String × Target :=
  let (reply, logs) := t.logs.nextOr (.ok "")
  (reply, { t with logs })

/-- The reply to a command, given its script. -/
def nextExec (script : Script ExecResult) (t : Target) : Reply ExecResult × Target :=
  let (reply, exec) := script.nextOr (.error (.notSupported t.id "exec"))
  (reply, { t with exec := some exec })

/-- How many replies are given before all scripts only repeat themselves. -/
def unread (t : Target) : Nat :=
  t.host.unread + t.running.unread + t.health.unread + t.exposed.unread + t.logs.unread
    + (t.exec.map Script.unread).getD 0

end Target

end Readiness
