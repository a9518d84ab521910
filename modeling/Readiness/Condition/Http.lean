import Readiness.Environment
import Readiness.Http.Client

/-! Waiting for a response.

`HttpProbe` sends a request to the container until it is answered as expected: with an accepted
status and, where a predicate is given, with a body that the predicate accepts. Without a predicate
the body is not read. `HttpProbe.livenessUrl` builds the URL of the request. -/

namespace Readiness

/-- Waits for a certain response. -/
structure HttpProbe where
  path : String := "/"
  /-- The container port, the first of the ports that show liveness if left out. -/
  port : Option UInt16 := none
  method : String := "GET"
  headers : Http.Headers := .empty
  body : Option (List UInt8) := none
  auth : Option Http.Auth := none
  useTls : Bool := false
  allowInsecure : Bool := false
  readTimeout : Duration := .ofSecs 1
  statusCodes : Ascending := ∅
  statusMatcher : Option (UInt16 → Bool) := none
  responsePredicate : Option (String → Bool) := none
  /-- A client that is used in place of one made for this probe. -/
  client : Option Http.Client := none
  pace : Pace

inductive HttpProbe.Setting
  | port (n : UInt16)
  | method (name : String)
  | tls
  | allowInsecure
  | header (name : String) (value : Http.HeaderValue)
  | headers (fields : Http.Headers)
  | body (bytes : List UInt8)
  | auth (a : Http.Auth)
  | readTimeout (d : Duration)
  | status (code : UInt16)
  | statusMatcher (accepts : UInt16 → Bool)
  | responsePredicate (accepts : String → Bool)
  | client (c : Http.Client)
  | pace (s : Pace.Setting)

/-- Why an attempt did not count. -/
inductive Miss
  | status (status : UInt16)
  | body (status : UInt16)
  | request (error : Http.FetchError)
deriving DecidableEq, Repr

def Miss.message : Miss → String
  | .status s => "last response status was " ++ toString s.toNat
  | .body s =>
    "last response (status " ++ toString s.toNat ++ ") did not match the response predicate"
  | .request error => "last request failed: " ++ error.message

namespace HttpProbe

/-- The interval of a new condition where the environment says nothing. -/
def usualInterval : Duration := .ofMillis 500

def apply (c : HttpProbe) : Setting → HttpProbe
  | .port n => { c with port := some n }
  | .method name => { c with method := name }
  | .tls => { c with useTls := true }
  | .allowInsecure => { c with allowInsecure := true }
  | .header name value => { c with headers := c.headers.insert name value }
  | .headers fields => { c with headers := c.headers.extend fields }
  | .body bytes => { c with body := some bytes }
  | .auth a => { c with auth := some a }
  | .readTimeout d => { c with readTimeout := d }
  | .status code => { c with statusCodes := c.statusCodes.insert code }
  | .statusMatcher accepts => { c with statusMatcher := some accepts }
  | .responsePredicate accepts => { c with responsePredicate := some accepts }
  | .client client => { c with client := some client }
  | .pace s => { c with pace := c.pace.apply s }

/-- What is waited for, in a message. -/
def expectation (c : HttpProbe) : String :=
  match c.statusCodes.isEmpty, c.statusMatcher.isSome with
  | true, false => "200"
  | true, true => "a matching status"
  | false, false => c.statusCodes.text " or "
  | false, true => c.statusCodes.text " or " ++ " or a matching status"

/-- Whether a status is accepted; the matcher is asked only where the codes do not decide. -/
def acceptsStatus (c : HttpProbe) (status : UInt16) : Wait Bool := do
  match c.statusMatcher with
  | none => return if c.statusCodes.isEmpty then status = 200 else decide (status ∈ c.statusCodes)
  | some accepts =>
    if status ∈ c.statusCodes then return true
    Timed.record (.matcher status)
    return accepts status

def clientOf (c : HttpProbe) : Http.Client :=
  c.client.getD { timeout := some c.readTimeout, acceptsAnyCertificate := c.allowInsecure }

def request (c : HttpProbe) (url : Url) : Option Http.Outgoing :=
  Http.Outgoing.prepare c.method url c.headers c.body c.auth

def check (c : HttpProbe) (url : Url) : Wait (Except Miss Unit) := do
  match ← c.clientOf.fetch (c.request url) with
  | .error e => return .error (.request e)
  | .ok response =>
    if ← c.acceptsStatus response.status then
      match c.responsePredicate with
      | none => return .ok ()
      | some accepts =>
        match ← c.clientOf.readText response with
        | .error e => return .error (.request e)
        | .ok text =>
          Timed.record (.predicate text)
          return if accepts text then .ok () else .error (.body response.status)
    else
      return .error (.status response.status)

def attempt (c : HttpProbe) (url : Url) : Wait (Attempt Unit) := do
  match ← c.check url with
  | .ok () =>
    Wait.say .info ("URL " ++ url.text ++ " is accessible")
    return .ready
  | .error miss =>
    return .missed () (url.text ++ " should return HTTP " ++ c.expectation ++ ", " ++ miss.message)

/-- The text of the URL of `host` and `port`; the port is left out if it is the default of the
scheme, and the path is given a slash if it begins with none. -/
def livenessText (host : Url.Host) (port : UInt16) (useTls : Bool) (path : String) : String :=
  let (scheme, default) := if useTls then ("https", 443) else ("http", 80)
  let path := if path.toList.head? = some '/' then path else "/" ++ path
  let port := if port = default then "" else ":" ++ toString port.toNat
  scheme ++ "://" ++ host.text ++ port ++ path

/-- The URL to which the request is sent. -/
def livenessUrl (host : Url.Host) (port : UInt16) (useTls : Bool) (path : String) :
    Except Url.Fault Url :=
  Url.parse (livenessText host port useTls path)

/-- The host port to which the request is sent, if there is one. -/
def hostPort? (c : HttpProbe) : Query (Option UInt16) := do
  match c.port with
  | some port => return some (← Query.mappedPort port)
  | none => return (← Query.livenessCheckPorts).least?

def shortestReadTimeout : Duration := .ofMillis 1

def wait (c : HttpProbe) : Wait Unit := do
  if c.readTimeout < shortestReadTimeout then
    Wait.misconfigured (.readTimeoutTooShort c.readTimeout)
  match ← Wait.require c.hostPort? with
  | none => Wait.say .warn "No exposed or mapped ports, cannot wait for HTTP status"
  | some port =>
    let host ← Wait.require Query.host
    match livenessUrl host port c.useTls c.path with
    | .error fault => Wait.misconfigured (.invalidUrl fault)
    | .ok url =>
      Wait.say .info ("Waiting for " ++ c.pace.timeout.text ++ " for URL: " ++ url.text
        ++ " (expecting HTTP " ++ c.expectation ++ ")")
      Poll.run ⟨.http, c.pace⟩ (fun _ => c.attempt url) ()

end HttpProbe

end Readiness
