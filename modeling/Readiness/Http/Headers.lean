import Readiness.Text.Quoted

/-! Header fields.

A `Headers` lists its names in the order of their first mention, each with all of its values; names
are kept in lower case, so that they are compared without regard to case. `Headers.insert` and
`Headers.extend` replace whatever a name had, `Headers.append` adds to it. `Headers.values` is the
view in which the three are told apart. -/

namespace Readiness.Http

/-- The value of a field. A sensitive one is not shown in descriptions. -/
structure HeaderValue where
  bytes : List UInt8
  sensitive : Bool := false
deriving DecidableEq, Repr, Inhabited

namespace HeaderValue

/-- Bytes that may be in a value: no control characters but the tab. -/
def isLegalByte (b : UInt8) : Bool := (0x20 ≤ b && b ≠ 0x7F) || b = 9

def ofText (s : String) : HeaderValue := { bytes := s.toUTF8.toList }

/-- A value that is not shown, if the text can be a value at all. -/
def secret? (s : String) : Option HeaderValue :=
  let bytes := s.toUTF8.toList
  if bytes.all isLegalByte then some { bytes, sensitive := true } else none

/-- The value in a description; a sensitive one is only named as such. -/
def describe (v : HeaderValue) : String :=
  if v.sensitive then "Sensitive" else Text.quoteHeaderValue v.bytes

end HeaderValue

/-- A name in the form in which names are compared. -/
def headerName (name : String) : String := name.map Char.toLower

/-- Fields by name. -/
structure Headers where
  entries : List (String × List HeaderValue) := []
deriving DecidableEq, Repr, Inhabited

namespace Headers

def empty : Headers := {}

/-- The values of the name `key`, in the form of `headerName`. -/
def lookup (key : String) : List (String × List HeaderValue) → List HeaderValue
  | [] => []
  | (name, values) :: rest => if name = key then values else lookup key rest

/-- The values of a name, none if it is not mentioned. -/
def values (h : Headers) (name : String) : List HeaderValue := lookup (headerName name) h.entries

/-- Changes the values of the name `key`, which comes last if it is new. -/
def update (key : String) (change : List HeaderValue → List HeaderValue) :
    List (String × List HeaderValue) → List (String × List HeaderValue)
  | [] => [(key, change [])]
  | (name, values) :: rest =>
    if name = key then (name, change values) :: rest else (name, values) :: update key change rest

/-- Gives a name the one value `v`. -/
def insert (h : Headers) (name : String) (v : HeaderValue) : Headers :=
  ⟨update (headerName name) (fun _ => [v]) h.entries⟩

/-- Adds a value to those of a name. -/
def append (h : Headers) (name : String) (v : HeaderValue) : Headers :=
  ⟨update (headerName name) (· ++ [v]) h.entries⟩

/-- Gives every name of `other` the values that it has there. -/
def extend (h other : Headers) : Headers :=
  ⟨other.entries.foldl (fun entries e => update e.1 (fun _ => e.2) entries) h.entries⟩

def erase (h : Headers) (name : String) : Headers :=
  ⟨h.entries.filter fun e => e.1 ≠ headerName name⟩

def contains (h : Headers) (name : String) : Bool := h.entries.any fun e => e.1 = headerName name

/-- Adds a value only if the name is not there. -/
def orInsert (h : Headers) (name : String) (v : HeaderValue) : Headers :=
  if h.contains name then h else h.insert name v

def ofPairs (pairs : List (String × HeaderValue)) : Headers :=
  pairs.foldl (fun h p => h.append p.1 p.2) empty

/-- Every name with each of its values. -/
def pairs (h : Headers) : List (String × HeaderValue) :=
  h.entries.flatMap fun e => e.2.map fun v => (e.1, v)

/-- The fields in a description, each value with its name. -/
def describe (h : Headers) : String :=
  "\x7b" ++ ", ".intercalate (h.pairs.map fun p => Text.quote p.1 ++ ": " ++ p.2.describe) ++ "\x7d"

end Headers

end Readiness.Http
