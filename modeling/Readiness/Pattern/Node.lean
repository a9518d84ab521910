import Readiness.Pattern.Look

/-! What a pattern looks for.

A `Node` says which texts match and which of several matches comes first: the first side of a
choice, and the longer or shorter repetition. `Node.cost` is the room that searching for it takes: a
character beyond ASCII takes a step for each of its bytes in UTF-8, and bytes that several
characters of a set begin with are shared. -/

namespace Readiness.Pattern

open Readiness.Unicode

/-- What a pattern looks for. -/
inductive Node
  | empty
  | one (set : CodeSet)
  | look (condition : Look)
  | sequence (first second : Node)
  | choice (first second : Node)
  /-- The body `least` times or more, up to `most` times; as often as possible if `greedy`. -/
  | repetition (body : Node) (least : Nat) (most : Option Nat) (greedy : Bool)
deriving Inhabited

namespace Node

/-- Whether no match of a node takes a character. -/
def takesNone : Node → Bool
  | empty => true
  | one _ => false
  | look _ => true
  | sequence first second => first.takesNone && second.takesNone
  | choice first second => first.takesNone && second.takesNone
  | repetition body _ _ _ => body.takesNone

/-- A node repeated. What takes no character need not be repeated more than once. -/
def repeated (body : Node) (least : Nat) (most : Option Nat) (greedy : Bool) : Node :=
  let (least, most) :=
    if body.takesNone then (min least 1, some (min (most.getD 1) 1)) else (least, most)
  match most with
  | some 0 => empty
  | some 1 => if least = 1 then body else repetition body least most greedy
  | _ => repetition body least most greedy

end Node

/-! The size of a set in bytes. -/

/-- The bytes of a code point in UTF-8. -/
def utf8Bytes (code : Nat) : List Nat :=
  if code < 0x80 then [code]
  else if code < 0x800 then [0xC0 + code / 0x40, 0x80 + code % 0x40]
  else if code < 0x10000 then [0xE0 + code / 0x1000, 0x80 + code / 0x40 % 0x40, 0x80 + code % 0x40]
  else [0xF0 + code / 0x40000, 0x80 + code / 0x1000 % 0x40, 0x80 + code / 0x40 % 0x40,
    0x80 + code % 0x40]

/-- Parts ranges so that in each part every byte after the one at place `tail` from the end is free:
`block` is how many code points differ in these bytes alone. -/
def alignTo (block : Nat) (ranges : List (Nat × Nat)) : List (Nat × Nat) :=
  ranges.flatMap fun (lo, hi) =>
    if lo / block = hi / block then [(lo, hi)]
    else
      let start := (lo + block - 1) / block * block
      let stop := (hi + 1) / block * block
      [(lo, start - 1), (start, stop - 1), (stop, hi)].filter fun (lo, hi) => lo < hi + 1

/-- The parts of a range whose members all have the same number of bytes. -/
def sameLength (range : Nat × Nat) : List (Nat × Nat) :=
  let spans : List (Nat × Nat) :=
    [(0, 0x7F), (0x80, 0x7FF), (0x800, 0xD7FF), (0xE000, 0xFFFF), (0x10000, 0x10FFFF)]
  spans.filterMap fun (lo, hi) =>
    let lo := max lo range.1
    let hi := min hi range.2
    if lo ≤ hi then some (lo, hi) else none

/-- The ranges of bytes, one after the other, that a set is made of. -/
def byteRanges (set : CodeSet) : List (List (Nat × Nat)) :=
  set.ranges.toList.flatMap fun range =>
    (sameLength range).flatMap fun part =>
      let parts := if part.2 < 0x80 then [part]
        else if part.2 < 0x800 then alignTo 0x40 [part]
        else if part.2 < 0x10000 then alignTo 0x40 (alignTo 0x1000 [part])
        else alignTo 0x40 (alignTo 0x1000 (alignTo 0x40000 [part]))
      parts.map fun (lo, hi) => (utf8Bytes lo).zip (utf8Bytes hi)

/-- How many elements two lists begin with in common. -/
def commonLength [BEq α] : List α → List α → Nat
  | a :: as, b :: bs => if a == b then commonLength as bs + 1 else 0
  | _, _ => 0

/-- The room that a set takes. -/
def setCost (set : CodeSet) : Nat :=
  match set.ranges.toList with
  | [(lo, hi)] => if lo = hi then 32 * (utf8Bytes lo).length else many
  | _ => many
where
  many : Nat :=
    if set.ranges.all fun r => r.2 < 0x80 then 64 + 8 * set.ranges.size
    else
      let sequences := byteRanges set
      let shared := (sequences.zip sequences.tail).foldl (fun n (a, b) => n + commonLength a b) 0
      let states := sequences.foldl (fun n bytes => n + bytes.length) 0 - shared
      64 + 4 * sequences.length + 32 * states

namespace Node

/-- The room that searching for a node takes. -/
def cost : Node → Nat
  | empty => 32
  | one set => setCost set
  | look _ => 32
  | sequence first second => first.cost + second.cost
  | choice first second => 36 + first.cost + second.cost
  | repetition body least none _ => if least = 0 then body.cost + 112 else least * body.cost + 40
  | repetition body least (some most) _ =>
    if least = most then least * body.cost
    else least * body.cost + 32 + (most - least) * (body.cost + 40)

def costLimit : Nat := 0xA00000

end Node

end Readiness.Pattern
