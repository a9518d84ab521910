import Readiness.Text.Quoted

/-! Numeric addresses.

`Ipv4` and `Ipv6` are the two kinds of numeric address. `Ipv4.ofDotted?` reads the plain form of
four decimal numbers, `Ipv4.ofShorthand?` the wide form that URLs admit (one to four numbers, each
decimal, octal or hexadecimal, the last one filling the remaining bytes), and `Ipv6.read?` the colon
form with its one gap. `text` writes each in its shortest usual form. -/

namespace Readiness.Url

structure Ipv4 where
  value : UInt32
deriving DecidableEq, Repr, Inhabited

structure Ipv6 where
  groups : Vector UInt16 8
deriving DecidableEq, Repr, Inhabited

/-- The parts of a text between occurrences of `separator`. -/
def splitAt (separator : Char) : List Char → List (List Char)
  | [] => [[]]
  | c :: rest =>
    if c = separator then [] :: splitAt separator rest
    else match splitAt separator rest with
      | [] => [[c]]
      | part :: parts => (c :: part) :: parts

/-- The value of a digit, letters counting from ten. -/
def digitValue (c : Char) : Option Nat :=
  if '0' ≤ c ∧ c ≤ '9' then some (c.toNat - '0'.toNat)
  else if 'a' ≤ c ∧ c ≤ 'z' then some (c.toNat - 'a'.toNat + 10)
  else if 'A' ≤ c ∧ c ≤ 'Z' then some (c.toNat - 'A'.toNat + 10)
  else none

/-- The number with the given digits in base `base`; no digits are zero. -/
def number? (base : Nat) (digits : List Char) : Option Nat :=
  digits.foldlM (fun n c => do
    let d ← digitValue c
    if d < base then some (n * base + d) else none) 0

namespace Ipv4

/-- The four bytes, first one first. -/
def bytes (a : Ipv4) : List Nat :=
  let n := a.value.toNat
  [n / 0x1000000, n / 0x10000 % 256, n / 0x100 % 256, n % 256]

def text (a : Ipv4) : String := ".".intercalate (a.bytes.map toString)

/-- A part of the plain form: at most three digits, no needless zero, below 256. -/
def octet? (digits : List Char) : Option Nat := do
  if digits.isEmpty ∨ 3 < digits.length ∨ (1 < digits.length ∧ digits.head? = some '0') then none
  let n ← number? 10 digits
  if n < 256 then some n else none

/-- Reads four decimal numbers with points between. -/
def ofDotted? (s : String) : Option Ipv4 := do
  match ← (splitAt '.' s.toList).mapM octet? with
  | [a, b, c, d] => some ⟨(((a * 256 + b) * 256 + c) * 256 + d).toUInt32⟩
  | _ => none

/-- A part of the wide form: `0x` starts a hexadecimal number, another leading zero an octal one.
The outer option fails on what is no number. -/
def part? (digits : List Char) : Option Nat :=
  match digits with
  | [] => none
  | '0' :: 'x' :: rest | '0' :: 'X' :: rest => number? 16 rest
  | ['0'] => some 0
  | '0' :: rest => number? 8 rest
  | digits => number? 10 digits

def addresses : Nat := 0x100000000

/-- Puts the leading numbers in front of the last one, a byte each. The result is below `room`. -/
def combine (room : Nat) (leading : List Nat) (last : Nat) : Option Nat :=
  match leading with
  | [] => if last < room then some last else none
  | n :: rest =>
    if n < 256 then (combine (room / 256) rest last).map (n * (room / 256) + ·) else none

/-- The parts of a wide form; a point at the end does not count. -/
def parts (s : List Char) : List (List Char) :=
  let all := splitAt '.' s
  if all.getLast? = some [] then all.dropLast else all

def ofShorthand? (s : List Char) : Option Ipv4 := do
  let ps := parts s
  if 4 < ps.length then none
  let numbers ← ps.mapM part?
  if numbers.any (addresses ≤ ·) then none
  let last ← numbers.getLast?
  let n ← combine addresses numbers.dropLast last
  return ⟨n.toUInt32⟩

/-- Whether the last part of a host makes it a number: digits alone, or a part of the wide form. -/
def endsInNumber (s : List Char) : Bool :=
  let all := (splitAt '.' s).reverse
  let last := match all with
    | [] :: next :: _ => next
    | last :: _ => last
    | [] => []
  (!last.isEmpty && last.all fun c => '0' ≤ c && c ≤ '9') || (part? last).isSome

example : (ofShorthand? "0x7f.1".toList).map text = some "127.0.0.1" := by decide +kernel
example : ofShorthand? "1.2.3.4.5".toList = none := by decide +kernel

end Ipv4

namespace Ipv6

/-- The lengths of the runs of zeros that start at each group. -/
def zeroRuns : List UInt16 → List Nat
  | [] => []
  | g :: rest =>
    let runs := zeroRuns rest
    (if g = 0 then runs.headD 0 + 1 else 0) :: runs

/-- The first of the longest runs of at least two zeros, as its start and length. -/
def gap? (groups : List UInt16) : Option (Nat × Nat) :=
  let runs := zeroRuns groups
  let longest := runs.foldl max 0
  if longest < 2 then none else (runs.findIdx? (· = longest)).map fun i => (i, longest)

/-- Groups of hexadecimal digits with colons between them. -/
def groupsText (groups : List UInt16) : String :=
  ":".intercalate (groups.map fun g => Text.hex g.toNat)

/-- Groups in hexadecimal with colons between; the longest run of zeros is left out. -/
def text (a : Ipv6) : String :=
  let groups := a.groups.toList
  match gap? groups with
  | none => groupsText groups
  | some (start, length) =>
    groupsText (groups.take start) ++ "::" ++ groupsText (groups.drop (start + length))

/-- A group of one to four hexadecimal digits. -/
def group? (digits : List Char) : Option UInt16 := do
  if digits.isEmpty ∨ 4 < digits.length then none
  return (← number? 16 digits).toUInt16

/-- The groups of one side of the gap; the last part may be a plain `Ipv4`, which is two groups. -/
def side? (mayEndDotted : Bool) (s : List Char) : Option (List UInt16) :=
  match s with
  | [] => some []
  | s => do
    let ps := splitAt ':' s
    let last ← ps.getLast?
    let leading ← ps.dropLast.mapM group?
    if mayEndDotted ∧ last.contains '.' then
      let a ← Ipv4.ofDotted? (String.ofList last)
      return leading ++ [(a.value >>> 16).toUInt16, a.value.toUInt16]
    else
      return leading ++ [← group? last]

/-- What stands before and after the first `::`, if there is one. -/
def splitGap : List Char → Option (List Char × List Char)
  | ':' :: ':' :: rest => some ([], rest)
  | c :: rest => (splitGap rest).map fun (before, after) => (c :: before, after)
  | [] => none

/-- Reads groups with colons between; one `::` may stand for one or more groups of zeros. -/
def read? (s : List Char) : Option Ipv6 := do
  let groups ← match splitGap s with
    | none => side? true s
    | some (before, after) => do
      let head ← side? false before
      let tail ← side? true after
      if 8 ≤ head.length + tail.length then none
      pure (head ++ List.replicate (8 - head.length - tail.length) 0 ++ tail)
  if h : groups.length = 8 then return ⟨⟨groups.toArray, by simp [h]⟩⟩ else none

example : (read? "2001:db8:0:0:1:0:0:1".toList).map text = some "2001:db8::1:0:0:1" := by
  decide +kernel
example : (read? "::ffff:1.2.3.4".toList).map text = some "::ffff:102:304" := by decide +kernel
example : read? "1::2::3".toList = none := by decide +kernel

end Ipv6

end Readiness.Url
