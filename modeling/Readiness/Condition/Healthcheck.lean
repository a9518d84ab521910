import Readiness.Environment

/-! Waiting for the health status. -/

namespace Readiness

/-- Waits for the container to report that it is healthy. -/
structure Healthcheck where
  pace : Pace
deriving DecidableEq, Repr, Inhabited

namespace Healthcheck

/-- The interval of a new condition where the environment says nothing. -/
def usualInterval : Duration := .ofSecs 1

def apply (c : Healthcheck) (s : Pace.Setting) : Healthcheck := { c with pace := c.pace.apply s }

def attempt : Wait (Attempt Unit) := do
  match ← Query.isHealthy.outcome with
  | .ok true =>
    Wait.say .info "Container is healthy"
    return .ready
  | .ok false => return .missed () "container is not healthy"
  | .error e =>
    if e.isNotSupported then Wait.fail (.ofTarget e)
    return .missed () ("failed to read health status: " ++ e.message)

def wait (c : Healthcheck) : Wait Unit := do
  Wait.say .info ("Waiting for " ++ c.pace.timeout.text ++ " for container to become healthy")
  Poll.run ⟨.healthcheck, c.pace⟩ (fun _ => attempt) ()

end Healthcheck

end Readiness
