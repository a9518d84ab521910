import Readiness.Environment

/-! Waiting for a command.

`ShellCommand` runs a command in the container until it exits with status 0. What a timeout reports
is kept in a `Failures`: the last exit code and the last error, each for itself. -/

namespace Readiness

/-- Waits for a command to exit with status 0. -/
structure ShellCommand where
  command : Option String := none
  pace : Pace
deriving DecidableEq, Repr, Inhabited

inductive ShellCommand.Setting
  | command (text : String)
  | pace (s : Pace.Setting)
deriving DecidableEq, Repr

/-- What has gone wrong so far. -/
structure Failures where
  exitCode : Option Int := none
  error : Option String := none
deriving DecidableEq, Repr, Inhabited

/-- What is missing as long as `command` fails. -/
def Failures.detail (command : String) (f : Failures) : String :=
  let quoted := "'" ++ command ++ "'"
  match f.exitCode, f.error with
  | some code, some error =>
    quoted ++ " last exited with code " ++ toString code ++ ", last exec error: " ++ error
  | some code, none => quoted ++ " last exited with code " ++ toString code
  | none, some error => quoted ++ " could not be executed: " ++ error
  | none, none => quoted ++ " did not run"

namespace ShellCommand

/-- The interval of a new condition where the environment says nothing. -/
def usualInterval : Duration := .ofMillis 500

def apply (c : ShellCommand) : Setting → ShellCommand
  | .command text => { c with command := some text }
  | .pace s => { c with pace := c.pace.apply s }

/-- The words that run a command line. -/
def words (command : String) : List String := ["/bin/sh", "-c", command]

def attempt (command : String) (f : Failures) : Wait (Attempt Failures) := do
  let missed (f : Failures) : Attempt Failures := .missed f (f.detail command)
  match ← (Query.exec (words command)).outcome with
  | .ok result =>
    if result.success then
      Wait.say .info ("Command '" ++ command ++ "' succeeded")
      return .ready
    else
      Wait.say .trace ("Command '" ++ command ++ "' stdout: " ++ result.stdout ++ ", stderr: "
        ++ result.stderr)
      return missed { f with exitCode := some result.exitCode }
  | .error e =>
    if e.isNotSupported then Wait.fail (.ofTarget e)
    return missed { f with error := some e.message }

def wait (c : ShellCommand) : Wait Unit := do
  match c.command with
  | none => Wait.misconfigured .missingCommand
  | some command =>
    Wait.say .info ("Waiting for " ++ c.pace.timeout.text ++ " for command '" ++ command
      ++ "' to succeed")
    Poll.run ⟨.shell, c.pace⟩ (attempt command) {}

end ShellCommand

end Readiness
