import Readiness.Poll
import Readiness.Text.Base64
import Readiness.Url.Resolve

/-! The client that sends requests.

`Outgoing` is a request that is to be sent, `Outgoing.prepare` builds it and `Client.fetch` sends it
and follows redirects until there is a response that is none. The only thing that takes time is a
server that lets the client wait: then the time of the client runs out. -/

namespace Readiness.Http

/-- Who the request is from. -/
inductive Auth
  | basic (username password : String)
  | bearer (token : String)
deriving DecidableEq, Repr, Inhabited

namespace Auth

/-- The text of the header in which the credentials are sent. -/
def headerText : Auth → String
  | .basic username password =>
    "Basic " ++ String.ofList (Text.base64 (username ++ ":" ++ password).toUTF8.toList)
  | .bearer token => "Bearer " ++ token

/-- The header value, if the credentials can be sent at all. -/
def headerValue? (a : Auth) : Option HeaderValue := HeaderValue.secret? a.headerText

/-- The credentials without their secret. -/
def describe : Auth → String
  | .basic username _ =>
    "Basic \x7b username: " ++ Text.quote username ++ ", password: \"<redacted>\" \x7d"
  | .bearer _ => "Bearer(\"<redacted>\")"

end Auth

/-- A request to be sent. -/
structure Outgoing where
  method : String
  url : Url
  headers : Headers
  body : Option (List UInt8)

namespace Outgoing

/-- The credentials that a URL carries. -/
def urlAuth? (url : Url) : Option Auth :=
  if url.username = "" ∧ url.password.isNone then none
  else
    let read (s : String) : String := Text.Charset.decode .utf8 (Url.Percent.decode s)
    some (.basic (read url.username) (read (url.password.getD "")))

/-- The headers of a request: those that the credentials of the URL need, replaced by the given ones
where they have the same name, and the given credentials added to what there is. There are none if
these cannot be sent. -/
def assemble (url : Url) (headers : Headers) (auth : Option Auth) : Option Headers :=
  let fromUrl := (urlAuth? url).bind Auth.headerValue?
  let first := fromUrl.elim Headers.empty fun v => Headers.empty.insert "authorization" v
  let merged := first.extend headers
  match auth with
  | none => some merged
  | some a => a.headerValue?.map fun v => merged.append "authorization" v

/-- Builds a request. Credentials in the URL are taken out of it, see `assemble`. -/
def prepare (method : String) (url : Url) (headers : Headers) (body : Option (List UInt8))
    (auth : Option Auth) : Option Outgoing :=
  (assemble url headers auth).map fun headers =>
    { method, url := url.withoutUserinfo, headers, body }

/-- Characters that a URL may hold on the wire. -/
def isSendable (c : Char) : Bool :=
  c.toNat < 0x7F && 0x20 < c.toNat && !("\"`\x7b\x7d<>\\^|".toList.contains c)

/-- Whether the request line and the host can be written. -/
def isSendableUrl (url : Url) : Bool :=
  (url.host.elim "" Url.Host.text).toList.all isSendable && url.text.length < 65535

/-- The fields as they are sent, with those that the client adds, ascending by name. -/
def fields (o : Outgoing) : List (String × List UInt8) :=
  let accept := HeaderValue.ofText "*/*"
  let host := HeaderValue.ofText o.url.authorityText
  let length := match o.body with
    | some (_ :: rest) => some (toString (rest.length + 1))
    | _ => if ["POST", "PUT", "PATCH"].contains o.method then some "0" else none
  let headers := (o.headers.orInsert "accept" accept).orInsert "host" host
  let headers := length.elim headers fun n => headers.orInsert "content-length" (.ofText n)
  (headers.pairs.map fun p => (p.1, p.2.bytes)).mergeSort fun a b => a.1 ≤ b.1

/-- What the server receives. -/
def request (o : Outgoing) : Request :=
  { method := o.method, path := o.url.pathAndQuery, headers := o.fields, body := o.body.getD [] }

end Outgoing

/-- How requests are sent. -/
structure Client where
  followsRedirects : Bool := true
  /-- The time for a request with everything that it leads to; without one there is no limit. -/
  timeout : Option Duration := none
  acceptsAnyCertificate : Bool := false
deriving DecidableEq, Repr, Inhabited

/-- Why there is no response, or no body. -/
inductive FetchError
  | build
  | buildFor (url : String)
  | send (url : String)
  | redirect (url : String)
  | decode
deriving DecidableEq, Repr

def FetchError.message : FetchError → String
  | .build => "builder error"
  | .buildFor url => "builder error for url (" ++ url ++ ")"
  | .send url => "error sending request for url (" ++ url ++ ")"
  | .redirect url => "error following redirect for url (" ++ url ++ ")"
  | .decode => "error decoding response body"

namespace Client

/-- Waits in vain until the time is up. -/
def giveUp (c : Client) : Wait Unit :=
  match c.timeout with
  | some d => Timed.pause d
  | none => throw .endless

/-- Whether the client and the server understand each other at all. -/
def agrees (c : Client) (url : Url) (server : Server) : Bool :=
  if url.scheme = "https" then server.tls && c.acceptsAnyCertificate else !server.tls

/-- Sends one request; there may be no response. -/
def exchange (c : Client) (o : Outgoing) : Wait (Option Received) := do
  let port := (o.url.effectivePort).getD 0
  match ← Timed.connect (o.url.host.getD Url.Host.loopback) port with
  | .failed _ => return none
  | .pending => do
    c.giveUp
    return none
  | .made server =>
    if c.agrees o.url server then
      Timed.record (.request port o.request)
      match server.reaction.final with
      | .closes => return none
      | .silent => do
        c.giveUp
        return none
      | .raw bytes => return (← Timed.reader).response? o.method bytes
      | .answers response missing stalls =>
        return some ((← Timed.reader).answer o.method response missing stalls)
    else
      return none

/-- Statuses that send the client elsewhere. -/
def isRedirect (status : UInt16) : Bool := [301, 302, 303, 307, 308].contains status

/-- Whether the client only asks the other place for the result, instead of repeating there the
request that it made with the given method. -/
def asksAnew (status : UInt16) (method : String) : Bool :=
  status = 303 || ((status = 301 || status = 302) && method = "POST")

/-- Headers that are for one server only. -/
def confidential : List String :=
  ["authorization", "cookie", "cookie2", "proxy-authorization", "www-authenticate"]

/-- The request that a redirect from `o` to `url` leads to. -/
def redirected (o : Outgoing) (status : UInt16) (url : Url) : Outgoing :=
  let elsewhere := url.host ≠ o.url.host ∨ url.effectivePort ≠ o.url.effectivePort
  let anew := asksAnew status o.method
  let headers :=
    if anew then
      ["transfer-encoding", "content-encoding", "content-type", "content-length"].foldl
        Headers.erase o.headers
    else o.headers
  let referer := { o.url.withoutUserinfo with fragment := none }
  let headers :=
    if url.scheme = "http" ∧ o.url.scheme = "https" then headers
    else headers.insert "referer" (.ofText referer.text)
  { method := if anew ∧ o.method ≠ "HEAD" then "GET" else o.method
    url
    headers := if elsewhere then confidential.foldl Headers.erase headers else headers
    body := if anew then none else o.body }

/-- Where a response sends the client, if it does. -/
def location? (o : Outgoing) (r : Received) : Option Url :=
  if isRedirect r.status then
    (r.header? "location").bind fun location => (o.url.resolve location).toOption
  else none

/-- Sends a request and follows at most `redirects` redirects; `first` is the URL asked for first.
It is named in the error whichever of the requests gets no response. -/
def follow (c : Client) (first : String) : Nat → Outgoing → Wait (Except FetchError Received)
  | redirects, o => do
    match ← c.exchange o with
    | none => return .error (.send first)
    | some r =>
      match location? o r with
      | none => return .ok r
      | some url =>
        if c.followsRedirects then
          match redirects with
          | 0 => return .error (.redirect o.url.text)
          | redirects + 1 =>
            if url.scheme = "http" ∨ url.scheme = "https" then
              c.follow first redirects (redirected o r.status url)
            else return .error (.buildFor url.text)
        else return .ok r

/-- How many redirects are followed. -/
def redirectLimit : Nat := 10

/-- Sends a request that may have been built, and follows where it leads. -/
def fetch (c : Client) : Option Outgoing → Wait (Except FetchError Received)
  | none => return .error .build
  | some o =>
    if Outgoing.isSendableUrl o.url then c.follow o.url.text redirectLimit o
    else return .error (.buildFor o.url.text)

/-- Reads the body of a response as text. -/
def readText (c : Client) (r : Received) : Wait (Except FetchError String) := do
  match r.body with
  | .whole text => return .ok text
  | .broken => return .error .decode
  | .stalled => do
    c.giveUp
    return .error .decode

end Client

end Readiness.Http
