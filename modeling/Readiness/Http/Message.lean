import Readiness.Http.Headers

/-! What client and server send to each other.

A `Request` is what a server receives, a `Response` what it means to answer, and `Server` how it
goes about answering: it may say nothing, hang up, send bytes of its own making, or break off in the
body. -/

namespace Readiness.Http

/-- A request as a server receives it. -/
structure Request where
  method : String
  /-- The path with the query. -/
  path : String
  /-- Names with values, ascending by name. -/
  headers : List (String × List UInt8)
  body : List UInt8
deriving DecidableEq, Repr, Inhabited

structure Response where
  status : UInt16 := 200
  headers : List (String × String) := []
  body : List UInt8 := []
deriving DecidableEq, Repr, Inhabited

/-- Statuses of responses that another one follows. -/
def isInterim (status : UInt16) : Bool := 100 ≤ status && status < 200 && status ≠ 101

/-- What a server does once it has read a request. -/
inductive Reaction
  /-- It closes the connection. -/
  | closes
  /-- It keeps the connection open and sends nothing. -/
  | silent
  /-- It sends some bytes and closes the connection. -/
  | raw (bytes : List UInt8)
  /-- It answers, but the body is `missing` bytes shorter than announced; the connection is then
  closed, or stays open if the server `stalls`. -/
  | answers (response : Response) (missing : Nat) (stalls : Bool)
deriving DecidableEq, Repr, Inhabited

/-- What a reaction amounts to for a client that passes over interim responses and takes no status
that has not three digits: such an answer is none. -/
def Reaction.final : Reaction → Reaction
  | .answers response missing stalls =>
    if isInterim response.status ∧ stalls ∧ missing ≠ 0 then .silent
    else if isInterim response.status ∨ response.status < 100 ∨ 999 < response.status then .closes
    else .answers response missing stalls
  | reaction => reaction

/-- The far end of a connection. -/
structure Server where
  /-- Whether it speaks TLS, with a certificate that only it vouches for. -/
  tls : Bool := false
  reaction : Reaction := .closes
deriving DecidableEq, Repr, Inhabited

end Readiness.Http
