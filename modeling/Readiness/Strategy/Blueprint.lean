import Readiness.Strategy.Basic

/-! Blueprints of strategies.

A `Blueprint` says how a strategy is put together, step by step, and `Blueprint.build` does it: new
conditions take their pace from the environment, settings are applied in order, and a composite is
built before the children that are added to it. -/

namespace Readiness

/-- How a strategy is put together. -/
inductive Blueprint
  | logMessage (settings : List LogMessage.Setting)
  | hostPort (settings : List HostPort.Setting)
  | http (path : String) (settings : List HttpProbe.Setting)
  | shell (settings : List ShellCommand.Setting)
  | healthcheck (settings : List Pace.Setting)
  | nothing
  | duration (length : Duration)
  /-- A fixed time that is read from a variable, and `nothing` where the variable holds none. -/
  | millisVariable (name : String)
  | custom (c : Custom)
  | condition (inner : Blueprint)
  | composite (mode : Mode)
  | add (parent child : Blueprint)
  | timeout (parent : Blueprint) (d : Duration)

namespace Blueprint

/-- Puts a strategy together. A timeout that is refused ends the work. -/
def build (env : Environment) : Blueprint → Timed ConfigurationError Strategy
  | .logMessage settings => do
    let pace ← env.pace LogMessage.usualInterval
    return .logMessage (settings.foldl LogMessage.apply { pace })
  | .hostPort settings => do
    let pace ← env.pace HostPort.usualInterval
    return .hostPort (settings.foldl HostPort.apply { pace })
  | .http path settings => do
    let pace ← env.pace HttpProbe.usualInterval
    return .http (settings.foldl HttpProbe.apply { path, pace })
  | .shell settings => do
    let pace ← env.pace ShellCommand.usualInterval
    return .shell (settings.foldl ShellCommand.apply { pace })
  | .healthcheck settings => do
    let pace ← env.pace Healthcheck.usualInterval
    return .healthcheck (settings.foldl Healthcheck.apply { pace })
  | .nothing => return .nothing
  | .duration length => return .duration length
  | .millisVariable name =>
    match env.millis? name with
    | some length => return .duration length
    | none => return .nothing
  | .custom c => return .custom c
  | .condition inner => return (← inner.build env).toCondition
  | .composite mode => do
    Timed.record (.mode mode)
    return .composite mode
  | .add parent child => do
    let parent ← parent.build env
    let child ← child.build env
    Strategy.add child parent
  | .timeout parent d => do
    let parent ← parent.build env
    match ← parent.setTimeout d with
    | (parent, none) => return parent
    | (_, some cause) => throw cause

end Blueprint

end Readiness
