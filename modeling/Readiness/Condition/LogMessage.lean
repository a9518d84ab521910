import Readiness.Environment
import Readiness.Pattern.Basic

/-! Waiting for log output.

`LogMessage` waits until a pattern has matched the output of the container a number of times. The
output is read as a whole at every attempt, but only what has been added since the longest output
read so far is searched: `MatchCount` remembers its length in bytes and the matches found, and
`MatchCount.scan` adds those in what is new. -/

namespace Readiness

/-- What has been found in the output so far. -/
structure MatchCount where
  /-- The length in bytes of the longest output read. -/
  scanned : Nat := 0
  total : Nat := 0
deriving DecidableEq, Repr, Inhabited

namespace MatchCount

/-- Drops characters until `n` bytes are gone; a character that straddles the mark is dropped as a
whole. -/
def dropBytes : Nat → List Char → List Char
  | 0, s => s
  | _, [] => []
  | n + 1, c :: s => dropBytes (n + 1 - c.utf8Size) s

/-- Adds the matches in what is new in `output`. Output that is not longer than what has been read
adds nothing. -/
def scan (pattern : Pattern) (m : MatchCount) (output : String) : MatchCount :=
  if output.utf8ByteSize ≤ m.scanned then m
  else ⟨output.utf8ByteSize, m.total + pattern.count (dropBytes m.scanned output.toList)⟩

end MatchCount

/-- Waits for a pattern to match the output a number of times. -/
structure LogMessage where
  pattern : Option String := none
  times : Nat := 1
  pace : Pace
deriving DecidableEq, Repr, Inhabited

inductive LogMessage.Setting
  | pattern (text : String)
  | times (n : Nat)
  | pace (s : Pace.Setting)
deriving DecidableEq, Repr

namespace LogMessage

/-- The interval of a new condition where the environment says nothing. -/
def usualInterval : Duration := .ofMillis 500

def apply (c : LogMessage) : Setting → LogMessage
  | .pattern text => { c with pattern := some text }
  | .times n => { c with times := n }
  | .pace s => { c with pace := c.pace.apply s }

/-- The pattern to search for, or why there is none. -/
def compile (c : LogMessage) : Except ConfigurationError (String × Pattern) :=
  match c.pattern with
  | none => .error .missingPattern
  | some text =>
    match Pattern.compile text with
    | .error fault => .error (.invalidPattern fault)
    | .ok pattern => .ok (text, pattern)

/-- Reads the output once. -/
def attempt (c : LogMessage) (text : String) (pattern : Pattern) (found : MatchCount) :
    Wait (Attempt MatchCount) := do
  let missed (found : MatchCount) : Attempt MatchCount :=
    .missed found ("found " ++ toString found.total ++ "/" ++ toString c.times ++ " matches of '"
      ++ text ++ "'")
  match ← Query.logs.outcome with
  | .ok output =>
    let found := found.scan pattern output
    if c.times ≤ found.total then
      Wait.say .info ("Log output matched '" ++ text ++ "' " ++ toString found.total ++ " time(s)")
      return .ready
    else
      return missed found
  | .error e =>
    if e.isNotSupported then Wait.fail (.ofTarget e)
    Wait.say .debug ("Failed to read logs: " ++ e.message)
    return missed found

def wait (c : LogMessage) : Wait Unit := do
  match c.compile with
  | .error cause => Wait.misconfigured cause
  | .ok (text, pattern) =>
    Wait.say .info ("Waiting for " ++ c.pace.timeout.text ++ " for log output matching '" ++ text
      ++ "' " ++ toString c.times ++ " time(s)")
    Poll.run ⟨.logMessage, c.pace⟩ (c.attempt text pattern) {}

end LogMessage

end Readiness
