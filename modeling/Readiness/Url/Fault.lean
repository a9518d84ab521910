/-! Why a text is not a URL. -/

namespace Readiness.Url

/-- What is wrong with a text that should be a URL. -/
inductive Fault
  | emptyHost
  | internationalDomain
  | port
  | ipv4
  | ipv6
  | domainCharacter
  | relative
deriving DecidableEq, Repr

namespace Fault

def message : Fault → String
  | .emptyHost => "empty host"
  | .internationalDomain => "invalid international domain name"
  | .port => "invalid port number"
  | .ipv4 => "invalid IPv4 address"
  | .ipv6 => "invalid IPv6 address"
  | .domainCharacter => "invalid domain character"
  | .relative => "relative URL without a base"

/-- The name of the fault in descriptions of values. -/
def label : Fault → String
  | .emptyHost => "EmptyHost"
  | .internationalDomain => "IdnaError"
  | .port => "InvalidPort"
  | .ipv4 => "InvalidIpv4Address"
  | .ipv6 => "InvalidIpv6Address"
  | .domainCharacter => "InvalidDomainCharacter"
  | .relative => "RelativeUrlWithoutBase"

end Fault

end Readiness.Url
