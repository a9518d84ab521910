import Readiness.Poll
import Readiness.Unicode.Blank

/-! Defaults from the environment.

An `Environment` holds variables with their bytes. Numbers in it are read by `parseCount`: an
optional plus sign and one or more decimal digits for a number below `countLimit`.
`Environment.pace` gives the pace of a new strategy: two variables may replace the usual timeout and
interval, and a value that is text but no number is warned about and ignored. -/

namespace Readiness

/-- Why a text is not a count. -/
inductive CountFault
  | empty
  | digit
  | tooLarge
deriving DecidableEq, Repr

def CountFault.message : CountFault → String
  | .empty => "cannot parse integer from empty string"
  | .digit => "invalid digit found in string"
  | .tooLarge => "number too large to fit in target type"

/-- Counts are below 2^64. -/
def countLimit : Nat := 0x10000000000000000

/-- Reads further digits of the number `n`. -/
def countDigits (n : Nat) : List Char → Except CountFault Nat
  | [] => .ok n
  | c :: rest =>
    if c.isDigit then
      let m := n * 10 + (c.toNat - '0'.toNat)
      if m < countLimit then countDigits m rest else .error .tooLarge
    else .error .digit

/-- Reads a number below `countLimit`, which a plus sign may precede. -/
def parseCount (s : List Char) : Except CountFault Nat :=
  match s with
  | [] => .error .empty
  | ['+'] => .error .digit
  | '+' :: digits => countDigits 0 digits
  | digits => countDigits 0 digits

/-- Variables with their bytes. -/
structure Environment where
  entries : List (String × List UInt8) := []
deriving Repr, Inhabited

namespace Environment

/-- The value of a variable, if it is set and text. -/
def value? (env : Environment) (name : String) : Option String :=
  (env.entries.lookup name).bind fun bytes => String.fromUTF8? ⟨bytes.toArray⟩

/-- The variable for the timeout of new strategies, in seconds. -/
def startupTimeoutName : String := "TESTCONTAINERS_STARTUP_TIMEOUT"

/-- The variable for the interval of new strategies, in milliseconds. -/
def pollIntervalName : String := "TESTCONTAINERS_POLL_INTERVAL"

/-- The number in a variable, white space around it apart. -/
def count? (env : Environment) (name : String) {ε : Type} : Timed ε (Option Nat) := do
  match env.value? name with
  | none => return none
  | some value =>
    match parseCount (Unicode.trim value.toList) with
    | .ok n => return some n
    | .error fault =>
      Timed.note .warn
        ("Ignoring invalid value '" ++ value ++ "' of " ++ name ++ ": " ++ fault.message)
      return none

/-- The timeout of new strategies where the environment says nothing. -/
def defaultTimeout : Duration := .ofSecs 60

/-- The pace of a new strategy, whose usual interval is `interval`. -/
def pace (env : Environment) (interval : Duration) {ε : Type} : Timed ε Pace := do
  let timeout ← env.count? startupTimeoutName
  let millis ← env.count? pollIntervalName
  return {
    timeout := (timeout.map Duration.ofSecs).getD defaultTimeout
    interval := ((millis.filter (0 < ·)).map Duration.ofMillis).getD interval }

/-- A length of time in milliseconds from a variable that holds nothing but a number. -/
def millis? (env : Environment) (name : String) : Option Duration :=
  (env.value? name).bind fun value => (parseCount value.toList).toOption.map Duration.ofMillis

end Environment

end Readiness
