import Readiness.Strategy.Blueprint
import Readiness.Strategy.Describe

/-! Sessions.

A `Session` is one strategy in one world, and a `Step` something that is done with it.
`Session.step` gives the answer together with the traces that the step has left, with times counted
from its beginning. The scripts of the target and of the network go on from step to step. -/

namespace Readiness

/-- What was done and said during a part of a session. -/
structure Traces where
  /-- Times are counted from the beginning of the part. -/
  calls : List Entry
  log : List (Level × String)

namespace Traces

/-- The traces left since `started`, if there were none at that time. -/
def since (started : Nat) (w : World) : Traces :=
  { calls := w.journal.toList.map fun e => { e with time := e.time - started }
    log := w.log.toList }

/-- The lines of the log that are at least as important as `level`. -/
def logUpTo (t : Traces) (level : Level) : List (Level × String) :=
  t.log.filter fun line => line.1.rank ≤ level.rank

end Traces

/-- Something to do with a strategy. -/
inductive Step
  | kind
  | startupTimeout
  | setStartupTimeout (d : Duration)
  | describe
  /-- From now on this target is waited on. -/
  | target (t : Target)
  | wait

/-- What comes of a step. -/
inductive Answer
  | kind (k : Kind)
  | startupTimeout (d : Duration)
  | done
  | refused (cause : ConfigurationError)
  | description (text : String)
  | ready (took : Duration)
  | failed (error : WaitError) (took : Duration)
  | endless

/-- A strategy in a world. -/
structure Session where
  strategy : Strategy
  world : World

namespace Session

/-- A world without traces. -/
def clean (w : World) : World := { w with journal := #[], log := #[] }

/-- Puts the strategy of a session together. -/
def start (env : Environment) (blueprint : Blueprint) (world : World) :
    Except ConfigurationError Session × Traces :=
  match blueprint.build env (clean world) with
  | .ok strategy w => (.ok ⟨strategy, w⟩, .since world.now w)
  | .error cause w => (.error cause, .since world.now w)

/-- The answer to a step and the session after it. -/
def act (s : Session) : Step → Answer × Session
  | .kind => (.kind s.strategy.kind, s)
  | .startupTimeout => (.startupTimeout s.strategy.startupTimeout, s)
  | .setStartupTimeout d =>
    match (s.strategy.setTimeout d : Timed Empty _) s.world with
    | .ok (strategy, none) w => (.done, ⟨strategy, w⟩)
    | .ok (strategy, some cause) w => (.refused cause, ⟨strategy, w⟩)
  | .describe => (.description s.strategy.describe, s)
  | .target t => (.done, { s with world := { s.world with target := t } })
  | .wait =>
    let took (w : World) := Duration.ofMillis (w.now - s.world.now)
    match s.strategy.wait s.world with
    | .ok () w => (.ready (took w), { s with world := w })
    | .error (.failed error) w => (.failed error (took w), { s with world := w })
    | .error .endless w => (.endless, { s with world := w })

def step (s : Session) (step : Step) : (Answer × Traces) × Session :=
  let (answer, after) := act { s with world := clean s.world } step
  ((answer, .since s.world.now after.world), after)

def run (s : Session) : List Step → List (Answer × Traces)
  | [] => []
  | step :: rest =>
    let (result, after) := s.step step
    result :: after.run rest

end Session

end Readiness
