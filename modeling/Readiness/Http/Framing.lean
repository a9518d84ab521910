import Readiness.Http.Message
import Readiness.Url.Address

/-! Responses in bytes.

`Received.parse?` reads what a server sent before it closed the connection. Interim responses are
passed over. The head of the final one has to be in good order, or there is no response at all;
`Head.extent?` finds out how the end of the body is told: by the status, by chunks, by the announced
length or by the end of the connection, in this order. -/

namespace Readiness.Http

/-- How the body of a response arrives. -/
inductive Body
  /-- All of it, as text. -/
  | whole (text : String)
  /-- It breaks off or is not in good order. -/
  | broken
  /-- It goes on without ending. -/
  | stalled
deriving DecidableEq, Repr

/-- A response as a client receives it. -/
structure Received where
  status : UInt16
  /-- Names are in lower case. -/
  headers : List (String × String) := []
  body : Body := .whole ""
deriving DecidableEq, Repr

/-- How the end of a body is told. -/
inductive Extent
  | none
  | chunked
  | bytes (count : Nat)
  /-- By the end of the connection. -/
  | connection
deriving DecidableEq, Repr

/-- The head of a response. -/
structure Head where
  /-- Whether the server speaks HTTP/1.0. -/
  old : Bool
  status : UInt16
  headers : List (String × String)
deriving DecidableEq, Repr

/-- The first value of a header. -/
def Received.header? (r : Received) (name : String) : Option String := r.headers.lookup name

namespace Framing

/-- The characters up to the end of a line, and what follows it. -/
def splitLine : List Char → Option (List Char × List Char)
  | [] => none
  | '\r' :: '\n' :: rest => some ([], rest)
  | '\n' :: rest => some ([], rest)
  | c :: rest => (splitLine rest).map fun (line, after) => (c :: line, after)

/-- What follows a line is shorter than what it was split from. -/
theorem length_splitLine {s line rest : List Char} (h : splitLine s = some (line, rest)) :
    rest.length < s.length := by
  fun_induction splitLine s generalizing line rest with
  | case1 => simp at h
  | case2 =>
    obtain ⟨rfl, rfl⟩ : [] = line ∧ _ = rest := by simpa using h
    simp only [List.length_cons]
    omega
  | case3 => simp_all
  | case4 c s _ _ ih =>
    obtain ⟨p, hp, heq⟩ := Option.map_eq_some_iff.1 h
    have := @ih p.1 p.2 hp
    simp only [Prod.mk.injEq] at heq
    simp only [List.length_cons, ← heq.2]
    omega

/-- As `splitLine`, for lines that end in both characters of a line break and have neither of them
anywhere else. -/
def splitStrict (s : List Char) : Option (List Char × List Char) :=
  let line := s.takeWhile fun c => c ≠ '\r' ∧ c ≠ '\n'
  match s.drop line.length with
  | '\r' :: '\n' :: rest => some (line, rest)
  | _ => none

def isBlank (c : Char) : Bool := c = ' ' || c = '\t'

def trim (s : List Char) : List Char := ((s.dropWhile isBlank).reverse.dropWhile isBlank).reverse

/-- Characters that may be in a reason or in a value: no control characters but the tab. -/
def isFieldChar (c : Char) : Bool := c = '\t' || (' ' ≤ c && c.toNat ≠ 0x7F)

/-- Characters that names consist of. -/
def isNameChar (c : Char) : Bool := c.isAlphanum || "!#$%&'*+-.^_`|~".toList.contains c

/-- Whether the server speaks HTTP/1.0, and the status. -/
def statusOf? (line : List Char) : Option (Bool × UInt16) :=
  match line with
  | 'H' :: 'T' :: 'T' :: 'P' :: '/' :: '1' :: '.' :: minor :: ' ' :: a :: b :: c :: rest =>
    if (minor = '0' ∨ minor = '1') ∧ (rest.isEmpty ∨ rest.head? = some ' ')
        ∧ rest.all isFieldChar then
      (Url.number? 10 [a, b, c]).bind fun n =>
        if 100 ≤ n then some (minor = '0', n.toUInt16) else none
    else none
  | _ => none

/-- A header line as a name and a value. -/
def headerOf? (line : List Char) : Option (String × String) :=
  let name := line.takeWhile (· ≠ ':')
  let value := trim (line.drop (name.length + 1))
  if name.isEmpty ∨ name.length = line.length ∨ !name.all isNameChar ∨ !value.all isFieldChar then
    none
  else some (String.ofList (name.map Char.toLower), String.ofList value)

/-- The header lines up to an empty one, and what follows it. -/
def parseHeaders (s : List Char) : Option (List (String × String) × List Char) :=
  match _h : splitLine s with
  | none => none
  | some ([], rest) => some ([], rest)
  | some (line, rest) => do
    let header ← headerOf? line
    let (headers, body) ← parseHeaders rest
    return (header :: headers, body)
termination_by s.length
decreasing_by exact length_splitLine _h

/-- Leaves out empty lines at the beginning. -/
def skipEmpty : List Char → List Char
  | '\r' :: '\n' :: rest => skipEmpty rest
  | '\n' :: rest => skipEmpty rest
  | s => s

/-- A head, and what follows it. -/
def parseHead (s : List Char) : Option (Head × List Char) := do
  let (line, rest) ← splitLine (skipEmpty s)
  let (old, status) ← statusOf? line
  let (headers, rest) ← parseHeaders rest
  return (⟨old, status, headers⟩, rest)

/-- The head of the final response, and what follows it; at most `fuel` heads are read. -/
def parseFinal : Nat → List Char → Option (Head × List Char)
  | 0, _ => none
  | fuel + 1, s => do
    let (head, rest) ← parseHead s
    if isInterim head.status then parseFinal fuel rest else return (head, rest)

/-- The size that the first line of a chunk tells. Anything may follow it behind a semicolon. -/
def chunkSize? (line : List Char) : Option Nat :=
  let digits := line.takeWhile fun c => c ≠ ';' ∧ !isBlank c
  let rest := (line.drop digits.length).dropWhile isBlank
  if digits.isEmpty ∨ ¬ (rest.isEmpty ∨ rest.head? = some ';') then none
  else Url.number? 16 digits

/-- Whether header lines and an empty line follow the last chunk; at most `fuel` lines are read. -/
def endsInOrder : Nat → List Char → Bool
  | 0, _ => false
  | fuel + 1, s =>
    match splitStrict s with
    | none => false
    | some ([], _) => true
    | some (line, rest) => (headerOf? line).isSome && endsInOrder fuel rest

/-- The contents of chunks up to the empty one; at most `fuel` chunks are read. -/
def parseChunks : Nat → List Char → Option (List Char)
  | 0, _ => none
  | fuel + 1, s => do
    let (line, rest) ← splitStrict s
    let size ← chunkSize? line
    if size = 0 then
      if endsInOrder (rest.length + 1) rest then return [] else none
    else
      if rest.length < size then none
      match rest.drop size with
      | '\r' :: '\n' :: after => return rest.take size ++ (← parseChunks fuel after)
      | _ => none

/-- The one number that all the announcements of a length agree on. -/
def length? (values : List String) : Option Nat := do
  let parts := values.flatMap fun v => (Url.splitAt ',' v.toList).map trim
  let numbers ← parts.mapM fun digits =>
    if digits.isEmpty then none else Url.number? 10 digits
  match numbers with
  | [] => none
  | n :: rest => if n + 2 < UInt64.size ∧ rest.all (· = n) then some n else none

/-- Whether chunks are the last of the codings that a body has gone through. -/
def isChunked (codings : String) : Bool :=
  ((Url.splitAt ',' codings.toList).getLast?.map fun coding => (trim coding).map Char.toLower)
    = some "chunked".toList

/-- Characters that stand for one byte each, as bytes. -/
def toBytes (s : List Char) : List UInt8 := s.map fun c => c.toNat.toUInt8

/-- Whether a response with this status to this method has no body, whatever its head says. -/
def isBodiless (method : String) (status : UInt16) : Bool :=
  method = "HEAD" || status = 101 || status = 204 || status = 304

end Framing

open Framing

namespace Head

/-- The values of a header. -/
def all (h : Head) (name : String) : List String :=
  (h.headers.filter fun header => header.1 = name).map Prod.snd

/-- How the end of the body is told. A length that cannot be made out spoils the response. -/
def extent? (method : String) (h : Head) : Option Extent :=
  if isBodiless method h.status then some .none
  else match (h.all "transfer-encoding").getLast?, h.all "content-length" with
    | some codings, _ =>
      if h.old then none else some (if isChunked codings then .chunked else .connection)
    | none, [] => some .connection
    | none, lengths => (length? lengths).map .bytes

end Head

/-- The bytes of a body behind which the connection is closed, unless they are not in order. -/
def Extent.bytesOf? (rest : List Char) : Extent → Option (List UInt8)
  | .none => some []
  | .chunked => (parseChunks (rest.length + 1) rest).map toBytes
  | .bytes count => if rest.length < count then Option.none else some (toBytes (rest.take count))
  | .connection => some (toBytes rest)

/-- Reads the response to a request with the given method. `text` turns the bytes of a body into text,
by the content type. -/
def Received.parse? (text : Option String → List UInt8 → String) (method : String)
    (bytes : List UInt8) : Option Received := do
  let s := bytes.map fun b => Char.ofNat b.toNat
  let (head, rest) ← parseFinal (s.length + 1) s
  let extent ← head.extent? method
  let read := text (head.headers.lookup "content-type")
  return ⟨head.status, head.headers, (extent.bytesOf? rest).elim .broken fun b => .whole (read b)⟩

end Readiness.Http
