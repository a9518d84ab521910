import Readiness.Url.Address
import Readiness.Url.Domain
import Readiness.Url.Percent

/-! Hosts.

A `Host` is a domain or a numeric address, and `Host.text` its written form. `Host.parse` reads the
host of a URL whose scheme has a meaning of its own: what is in brackets is an `Ipv6`, a name that
ends in a number has to be an `Ipv4`, and any other name is brought into the form in which it is
looked up. `Host.parseOpaque` takes names as they are. -/

namespace Readiness.Url

/-- Where something may be reached. -/
inductive Host
  | domain (name : String)
  | ipv4 (address : Ipv4)
  | ipv6 (address : Ipv6)
deriving DecidableEq, Repr, Inhabited

namespace Host

def text : Host → String
  | .domain name => name
  | .ipv4 a => a.text
  | .ipv6 a => "[" ++ a.text ++ "]"

def loopback : Host := .ipv4 ⟨0x7F000001⟩

/-- An address in brackets, of which the first has been read. -/
def parseBracketed (rest : List Char) : Except Fault Host :=
  match rest.reverse with
  | ']' :: inner =>
    match Ipv6.read? inner.reverse with
    | some a => .ok (.ipv6 a)
    | none => .error .ipv6
  | _ => .error .ipv6

/-- Reads the host of a URL whose scheme has a meaning of its own. -/
def parse (s : List Char) : Except Fault Host :=
  match s with
  | '[' :: rest => parseBracketed rest
  | s => do
    let name ← Domain.toAscii (Percent.decode (String.ofList s))
    if name.isEmpty then throw .emptyHost
    if Ipv4.endsInNumber name then
      match Ipv4.ofShorthand? name with
      | some a => return .ipv4 a
      | none => throw .ipv4
    else
      return .domain (String.ofList name)

/-- Characters that cannot be in the host of a URL whose scheme has no meaning of its own. -/
def isForbidden (c : Char) : Bool := "\x00\t\n\r #/:<>?@[\\]^|".toList.contains c

/-- Reads the host of any other URL. -/
def parseOpaque (s : List Char) : Except Fault Host :=
  match s with
  | '[' :: rest => parseBracketed rest
  | s =>
    if s.any isForbidden then .error .domainCharacter
    else .ok (.domain (String.ofList (Percent.encode Percent.everywhere s)))

end Host

end Readiness.Url
