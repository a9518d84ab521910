import Readiness.Strategy.Basic

/-! Descriptions of strategies.

`Strategy.describe` writes a strategy with its fields, for people who look for the reason why a wait
does not end. Passwords and tokens are left out, and so is what cannot be written. -/

namespace Readiness

namespace Describe

/-- A name with fields in braces. -/
def fields (name : String) (fields : List (String × String)) : String :=
  name ++ " \x7b " ++ ", ".intercalate (fields.map fun f => f.1 ++ ": " ++ f.2) ++ " \x7d"

def option {α : Type} (describe : α → String) : Option α → String
  | none => "None"
  | some a => "Some(" ++ describe a ++ ")"

/-- Values between braces. -/
def set (s : Ascending) : String := "\x7b" ++ s.text ", " ++ "\x7d"

def bool (b : Bool) : String := if b then "true" else "false"

end Describe

open Describe

def LogMessage.describe (c : LogMessage) : String :=
  fields "LogMessageWaitStrategy"
    [("regex", option Text.quote c.pattern),
     ("times", toString c.times),
     ("startup_timeout", c.pace.timeout.text),
     ("poll_interval", c.pace.interval.text)]

def HostPort.describe (c : HostPort) : String :=
  fields "HostPortWaitStrategy"
    [("ports", option set c.ports),
     ("startup_timeout", c.pace.timeout.text),
     ("poll_interval", c.pace.interval.text),
     ("connect_timeout", c.connectTimeout.text)]

def HttpProbe.describe (c : HttpProbe) : String :=
  fields "HttpWaitStrategy"
    [("path", Text.quote c.path),
     ("port", option (fun p => toString p.toNat) c.port),
     ("method", c.method),
     ("headers", c.headers.describe),
     ("body", option Text.quoteBytes c.body),
     ("auth", option Http.Auth.describe c.auth),
     ("use_tls", bool c.useTls),
     ("allow_insecure", bool c.allowInsecure),
     ("read_timeout", c.readTimeout.text),
     ("status_codes", set c.statusCodes),
     ("startup_timeout", c.pace.timeout.text)]

def ShellCommand.describe (c : ShellCommand) : String :=
  fields "ShellWaitStrategy"
    [("command", option Text.quote c.command),
     ("startup_timeout", c.pace.timeout.text),
     ("poll_interval", c.pace.interval.text)]

def Healthcheck.describe (c : Healthcheck) : String :=
  fields "DockerHealthcheckWaitStrategy"
    [("startup_timeout", c.pace.timeout.text),
     ("poll_interval", c.pace.interval.text)]

def Custom.describe (c : Custom) : String :=
  "Custom(" ++ Text.quote c.name ++ ", " ++ c.timeout.text ++ ")"

namespace Strategy

mutual

/-- The text of a strategy with all that is in it. -/
def describe : Strategy → String
  | .logMessage c => c.describe
  | .hostPort c => c.describe
  | .http c => c.describe
  | .shell c => c.describe
  | .healthcheck c => c.describe
  | .nothing => "Nothing"
  | .duration length => fields "Duration" [("length", length.text)]
  | .custom c => c.describe
  | .wrapped .box inner => describe inner
  | .wrapped (.condition variant) inner => variant.name ++ "(" ++ describe inner ++ ")"
  | .all mode timeout refused children =>
    fields "WaitAllStrategy"
      [("mode", mode.label),
       ("strategies", "[" ++ ", ".intercalate (describeEach children) ++ "]"),
       ("startup_timeout", timeout.text),
       ("refused", option ConfigurationError.describe refused)]

def describeEach : List Strategy → List String
  | [] => []
  | child :: rest => describe child :: describeEach rest

end

end Strategy

end Readiness
