/-! Sets of code points as ascending ranges.

A `CodeSet` keeps its ranges ascending and apart, so that `CodeSet.contains` can halve its way to an
answer and two sets with the same members have the same ranges. The Boolean operations are written
with `CodeSet.compl` and `CodeSet.union` alone. `CodeSet.ofLines` reads the packed form in which the
tables of `Readiness.Unicode` are kept. -/

namespace Readiness.Unicode

/-- The last code point. -/
def lastCode : Nat := 0x10FFFF

/-- Code points given by inclusive ranges, ascending and with at least one code point between any
two. -/
structure CodeSet where
  ranges : Array (Nat × Nat)
deriving Inhabited, DecidableEq

namespace CodeSet

/-- The set without members. -/
def empty : CodeSet := ⟨#[]⟩

/-- Joins a range to those before it, which are kept last first. -/
def joinLast (before : List (Nat × Nat)) (range : Nat × Nat) : List (Nat × Nat) :=
  match before with
  | [] => [range]
  | (lo, hi) :: rest =>
    if range.1 ≤ hi + 1 then (lo, max hi range.2) :: rest else range :: before

/-- The ranges `a` and those of `bs` by their starts, where `rest` does the same for what follows
`a` on its side. -/
def mergeHead (a : Nat × Nat) (rest : List (Nat × Nat) → List (Nat × Nat)) :
    List (Nat × Nat) → List (Nat × Nat)
  | [] => a :: rest []
  | b :: bs => if a.1 ≤ b.1 then a :: rest (b :: bs) else b :: mergeHead a rest bs

/-- Two ascending lists of ranges as one, by their starts. -/
def mergeRanges : List (Nat × Nat) → List (Nat × Nat) → List (Nat × Nat)
  | [], bs => bs
  | a :: as, bs => mergeHead a (mergeRanges as) bs

/-- The members of either set. -/
def union (a b : CodeSet) : CodeSet :=
  ⟨((mergeRanges a.ranges.toList b.ranges.toList).foldl joinLast []).reverse.toArray⟩

/-- The members of any of the sets. -/
def unions (sets : List CodeSet) : CodeSet := sets.foldl union empty

/-- A range of code points, empty if its end lies before its start. -/
def range (lo hi : Nat) : CodeSet := if lo ≤ hi then ⟨#[(lo, hi)]⟩ else empty

/-- The members of any ranges, in any order. -/
def ofRanges (ranges : List (Nat × Nat)) : CodeSet := unions (ranges.map fun r => range r.1 r.2)

/-- The given code points, in any order. -/
def ofCodes (codes : List Nat) : CodeSet :=
  ⟨((codes.mergeSort).foldl (fun before code => joinLast before (code, code)) []).reverse.toArray⟩

def single (code : Nat) : CodeSet := ⟨#[(code, code)]⟩

def full : CodeSet := ⟨#[(0, lastCode)]⟩

/-- Whether some range between the positions `lo` and `hi` holds `code`. -/
def search (ranges : Array (Nat × Nat)) (code lo hi : Nat) : Bool :=
  if _h : lo < hi then
    let mid := (lo + hi) / 2
    match ranges[mid]? with
    | none => false
    | some (first, last) =>
      if code < first then search ranges code lo mid
      else if last < code then search ranges code (mid + 1) hi
      else true
  else false
termination_by hi - lo

def contains (s : CodeSet) (code : Nat) : Bool := search s.ranges code 0 s.ranges.size

def hasChar (s : CodeSet) (c : Char) : Bool := s.contains c.toNat

def isEmpty (s : CodeSet) : Bool := s.ranges.isEmpty

/-- The gaps between ascending ranges, from `start` on. -/
def gaps (start : Nat) : List (Nat × Nat) → List (Nat × Nat)
  | [] => if start ≤ lastCode then [(start, lastCode)] else []
  | (lo, hi) :: rest =>
    if start < lo then (start, lo - 1) :: gaps (hi + 1) rest else gaps (hi + 1) rest

def compl (s : CodeSet) : CodeSet := ⟨(gaps 0 s.ranges.toList).toArray⟩

def inter (a b : CodeSet) : CodeSet := (a.compl.union b.compl).compl

def diff (a b : CodeSet) : CodeSet := a.inter b.compl

def symmDiff (a b : CodeSet) : CodeSet := (a.union b).diff (a.inter b)

def size (s : CodeSet) : Nat := s.ranges.foldl (fun n r => n + (r.2 - r.1 + 1)) 0

/-- A hexadecimal digit in lower case. -/
def hexDigit (c : Char) : Nat := if c ≤ '9' then c.toNat - 48 else c.toNat - 87

/-- What has been read of a packed table. -/
structure Unpacking where
  ranges : Array (Nat × Nat) := #[]
  next : Nat := 0
  gap : Nat := 0
  more : Option Nat := none

/-- Ends a range: `gap` code points are skipped, and it is `more` longer than one. -/
def Unpacking.endRange (u : Unpacking) : Unpacking :=
  let first := u.next + u.gap
  let last := first + u.more.getD 0
  ⟨u.ranges.push (first, last), last + 1, 0, none⟩

/-- Reads one character of a packed table. -/
def Unpacking.step (u : Unpacking) (c : Char) : Unpacking :=
  if c = ' ' then u.endRange
  else if c = ':' then { u with more := some 0 }
  else match u.more with
    | none => { u with gap := u.gap * 16 + hexDigit c }
    | some n => { u with more := some (n * 16 + hexDigit c) }

/-- Reads a line of a packed table, which ends with a range. -/
def Unpacking.line (u : Unpacking) (text : String) : Unpacking :=
  (text.toList.foldl Unpacking.step u).endRange

/-- Reads a packed table: for each range the number of code points skipped since the one before,
and after a colon how much longer than one it is, in hexadecimal digits, with blanks or line ends
between. -/
def ofLines (lines : List String) : CodeSet :=
  ⟨(lines.foldl Unpacking.line {}).ranges⟩

example : (ofLines ["41:19 6:19"]).ranges = #[(0x41, 0x5a), (0x61, 0x7a)] := by decide +kernel
example : ((range 97 109).symmDiff (range 103 122)).ranges = #[(97, 102), (110, 122)] := by
  decide +kernel

end CodeSet

end Readiness.Unicode
