import Readiness.Duration
import Readiness.Pattern.Fault
import Readiness.Text.Quoted
import Readiness.Url.Fault

/-! Ways in which waiting fails.

An error is a value that says what happened, and its wording is given once, by `message`.
`ConfigurationError` is a strategy that cannot run as it was set up, `TargetError` a question that
the target did not answer, and `WaitError` what ends a wait. `WaitError.ofTarget` says how a failed
question ends a wait, and `WaitError.sources` lists the messages behind an error. -/

namespace Readiness

inductive Kind
  | logMessage | hostPort | http | shell | healthcheck | waitAll | nothing | duration | custom
deriving DecidableEq, Repr

namespace Kind

/-- The name used in messages. -/
def name : Kind → String
  | .logMessage => "log_message"
  | .hostPort => "host_port"
  | .http => "http"
  | .shell => "shell"
  | .healthcheck => "healthcheck"
  | .waitAll => "wait_all"
  | .nothing => "nothing"
  | .duration => "duration"
  | .custom => "custom"

/-- The name used in descriptions of values. -/
def label : Kind → String
  | .logMessage => "LogMessage"
  | .hostPort => "HostPort"
  | .http => "Http"
  | .shell => "Shell"
  | .healthcheck => "Healthcheck"
  | .waitAll => "WaitAll"
  | .nothing => "Nothing"
  | .duration => "Duration"
  | .custom => "Custom"

def all : List Kind :=
  [.logMessage, .hostPort, .http, .shell, .healthcheck, .waitAll, .nothing, .duration, .custom]

/-- The kind with the given name in descriptions of values. -/
def ofLabel? (label : String) : Option Kind := all.find? fun k => k.label = label

end Kind

/-- How a composite applies its own timeout. -/
inductive Mode
  /-- The timeout of the composite replaces that of every child. -/
  | outer
  /-- Every child keeps its own timeout, and the composite has none. -/
  | individual
  /-- Every child keeps its own timeout, and the composite fails once the total time reaches its
  own. -/
  | maximum
deriving DecidableEq, Repr, Inhabited

namespace Mode

/-- The name used in messages. -/
def name : Mode → String
  | .outer => "WITH_OUTER_TIMEOUT"
  | .individual => "WITH_INDIVIDUAL_TIMEOUTS_ONLY"
  | .maximum => "WITH_MAXIMUM_OUTER_TIMEOUT"

/-- The name used in descriptions of values. -/
def label : Mode → String
  | .outer => "WithOuterTimeout"
  | .individual => "WithIndividualTimeoutsOnly"
  | .maximum => "WithMaximumOuterTimeout"

end Mode

/-- A strategy cannot run with the configuration that it was given. -/
inductive ConfigurationError
  | missingPattern
  | invalidPattern (fault : Pattern.Fault)
  | missingCommand
  | timeoutNotSupported (mode : Mode)
  | readTimeoutTooShort (timeout : Duration)
  | invalidUrl (fault : Url.Fault)
  | httpClient (text : String)
deriving DecidableEq, Repr

namespace ConfigurationError

/-- The wording; it stops before what the pattern reader has to say of an invalid pattern. -/
def message : ConfigurationError → String
  | .missingPattern => "log message pattern must be set before waiting"
  | .invalidPattern _ => "invalid log message pattern: "
  | .missingCommand => "shell command must be set before waiting"
  | .timeoutNotSupported mode => "changing startup timeout is not supported with mode " ++ mode.name
  | .readTimeoutTooShort d => "read timeout must be at least 1 millisecond, got " ++ d.text
  | .invalidUrl fault => "invalid URL: " ++ fault.message
  | .httpClient text => "failed to build HTTP client: " ++ text

def label : ConfigurationError → String
  | .missingPattern => "MissingPattern"
  | .invalidPattern _ => "InvalidPattern"
  | .missingCommand => "MissingCommand"
  | .timeoutNotSupported _ => "TimeoutNotSupported"
  | .readTimeoutTooShort _ => "ReadTimeoutTooShort"
  | .invalidUrl _ => "InvalidUrl"
  | .httpClient _ => "HttpClient"

/-- The messages of the errors that this one rests on, nearest first. -/
def sources : ConfigurationError → List String
  | .invalidPattern _ => ["<regex error>"]
  | .invalidUrl fault => [fault.message]
  | _ => []

/-- The error as it is written in descriptions of values. -/
def describe : ConfigurationError → String
  | .missingPattern => "MissingPattern"
  | .invalidPattern _ => "InvalidPattern(<regex error>)"
  | .missingCommand => "MissingCommand"
  | .timeoutNotSupported mode => "TimeoutNotSupported(" ++ mode.label ++ ")"
  | .readTimeoutTooShort d => "ReadTimeoutTooShort(" ++ d.text ++ ")"
  | .invalidUrl fault => "InvalidUrl(" ++ fault.label ++ ")"
  | .httpClient text => "HttpClient(" ++ Text.quote text ++ ")"

end ConfigurationError

/-- Kinds of input and output errors. -/
inductive IoKind
  | other | refused | notFound | timedOut
deriving DecidableEq, Repr

/-- What is said of an error of which only the kind is known. -/
def IoKind.message : IoKind → String
  | .other => "other error"
  | .refused => "connection refused"
  | .notFound => "entity not found"
  | .timedOut => "timed out"

/-- A question to the target that was not answered. -/
inductive TargetError
  | portNotMapped (id : String) (port : UInt16)
  | notSupported (id operation : String)
  /-- An input or output error; an empty text stands for the message of the kind. -/
  | io (kind : IoKind) (text : String)
  | other (text : String)
deriving DecidableEq, Repr

namespace TargetError

/-- The wording of an input or output error. -/
def ioMessage (kind : IoKind) (text : String) : String := if text = "" then kind.message else text

/-- The wording for something that a container cannot do. -/
def unsupportedMessage (id operation : String) : String :=
  "container '" ++ id ++ "' does not support " ++ operation

def message : TargetError → String
  | .portNotMapped id port =>
    "container '" ++ id ++ "' does not expose port " ++ toString port.toNat
  | .notSupported id operation => unsupportedMessage id operation
  | .io kind text => "I/O error: " ++ ioMessage kind text
  | .other text => "other error: " ++ text

def label : TargetError → String
  | .portNotMapped .. => "PortNotMapped"
  | .notSupported .. => "NotSupported"
  | .io .. => "Io"
  | .other .. => "Other"

/-- Whether no amount of asking again can help. -/
def isNotSupported : TargetError → Bool
  | .notSupported .. => true
  | _ => false

/-- The messages of the errors that this one rests on. -/
def sources : TargetError → List String
  | .io kind text => [ioMessage kind text]
  | _ => []

end TargetError

/-- What ends a wait without readiness. -/
inductive WaitError
  /-- The strategy was misconfigured. -/
  | configuration (cause : ConfigurationError)
  /-- The condition was not met in time. -/
  | timeout (kind : Kind) (elapsed : Duration) (detail : String) (source : Option WaitError)
  /-- The target cannot answer the question that the strategy asks. -/
  | unsupported (id operation : String)
  /-- The target failed in a way that is not worth trying again. -/
  | target (cause : TargetError)
deriving Repr

namespace WaitError

/-- Whether the wait ended because its time was up. -/
def isTimeout : WaitError → Bool
  | .timeout .. => true
  | _ => false

/-- How a question that failed ends a wait. -/
def ofTarget : TargetError → WaitError
  | .notSupported id operation => .unsupported id operation
  | e => .target e

def message : WaitError → String
  | .configuration cause => "invalid wait strategy configuration: " ++ cause.message
  | .timeout kind elapsed detail _ =>
    kind.name ++ " wait strategy timed out after " ++ elapsed.text ++ ": " ++ detail
  | .unsupported id operation => TargetError.unsupportedMessage id operation
  | .target cause => cause.message

/-- The messages of the errors that this one rests on, nearest first. A target error stands for
itself, so its own message is not among them. -/
def sources : WaitError → List String
  | .configuration cause => cause.message :: cause.sources
  | .timeout _ _ _ none => []
  | .timeout _ _ _ (some source) => source.message :: source.sources
  | .unsupported .. => []
  | .target cause => cause.sources

end WaitError

end Readiness
