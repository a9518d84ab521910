import Readiness.World

/-! Polling.

A `Poll` repeats an attempt until it succeeds or the time is up. After a miss the time since the
start decides: at or after the timeout the wait fails with a timeout that carries what was missing,
before it the poll pauses for its interval, but never past the deadline, so that the last attempt
falls right on it. `Poll.rounds` is the loop and `Poll.run` starts it with as many rounds as can
differ. -/

namespace Readiness

/-- What ends a wait early. -/
inductive Halt
  | failed (error : WaitError)
  /-- The wait would go on for ever. -/
  | endless

/-- Actions of a wait. -/
abbrev Wait (α : Type) := Timed Halt α

namespace Wait

def fail {α : Type} (error : WaitError) : Wait α := throw (.failed error)

/-- Ends the wait because the strategy cannot run. -/
def misconfigured {α : Type} (cause : ConfigurationError) : Wait α := fail (.configuration cause)

/-- Asks a question without which the wait cannot go on. -/
def require {α : Type} (query : Query α) : Wait α :=
  query.mapError fun e => .failed (.ofTarget e)

/-- Adds a line that begins with the name of the target. -/
def say (level : Level) (text : String) : Wait Unit := do
  Timed.note level ((← Timed.targetId) ++ ": " ++ text)

end Wait

/-- How long, and how often, a condition is checked. -/
structure Pace where
  timeout : Duration
  interval : Duration
deriving DecidableEq, Repr, Inhabited

inductive Pace.Setting
  | timeout (d : Duration)
  | interval (d : Duration)
deriving DecidableEq, Repr

def Pace.apply (p : Pace) : Pace.Setting → Pace
  | .timeout d => { p with timeout := d }
  | .interval d => { p with interval := d }

/-- The outcome of one attempt. A miss says what was missing, and may carry what is to be remembered
until the next attempt. -/
inductive Attempt (σ : Type)
  | ready
  | missed (memory : σ) (detail : String)

/-- A condition that is attempted again and again. -/
structure Poll where
  kind : Kind
  pace : Pace
deriving Repr

namespace Poll

/-- The pause after a miss: the interval, or what is left until the timeout. -/
def pauseAfter (p : Poll) (elapsed : Duration) : Duration :=
  min p.pace.interval (p.pace.timeout - elapsed)

/-- Deals with a miss, the `misses`-th since `started`: gives up once the timeout has passed, and
pauses before it has. -/
def retry (p : Poll) (started misses : Nat) (detail : String) : Wait Unit := do
  let elapsed := Duration.ofMillis ((← Timed.now) - started)
  let strategy := p.kind.name ++ " wait strategy "
  if p.pace.timeout ≤ elapsed then
    Timed.note .debug (strategy ++ "gave up after " ++ toString misses ++ " attempts in "
      ++ elapsed.text ++ ": " ++ detail)
    Wait.fail (.timeout p.kind elapsed detail none)
  else
    let pause := p.pauseAfter elapsed
    Timed.note .debug (strategy ++ "attempt " ++ toString misses ++ " not ready yet: " ++ detail)
    Timed.note .trace ("Sleeping " ++ pause.text ++ " before next attempt")
    Timed.pause pause

/-- Attempts at most the given number of times, starting with `memory` after `misses` misses. -/
def rounds {σ : Type} (p : Poll) (started : Nat) (attempt : σ → Wait (Attempt σ)) :
    Nat → Nat → σ → Wait Unit
  | 0, _, _ => throw .endless
  | n + 1, misses, memory => do
    match ← attempt memory with
    | .ready => return
    | .missed memory detail =>
      p.retry started (misses + 1) detail
      p.rounds started attempt n (misses + 1) memory

/-- How many rounds can differ: each of them but the last moves the clock on, at most to the
timeout, or uses up a reply that is not repeated. -/
def enough (p : Poll) (w : World) : Nat := p.pace.timeout.ceilMillis + w.unread + 1

/-- Attempts until success or until the time is up. -/
def run {σ : Type} (p : Poll) (attempt : σ → Wait (Attempt σ)) (memory : σ) : Wait Unit := do
  let w ← get
  p.rounds w.now attempt (p.enough w) 0 memory

end Poll

end Readiness
