import Readiness.Pattern.Reader.Escape

/-! Reading brackets.

`bracket` reads a set of characters between brackets. An operator takes all items on its left for
its left side, so that a chain of operators is read from the left; `Bracket` keeps that side while
the items on the right are read. A bracket inside another is read at one level less. -/

namespace Readiness.Pattern

open Readiness.Unicode
open Reader

/-- What has been read between brackets: the items since the last operator, and what stands before
it. -/
structure Bracket where
  left : Option (ClassSet × SetOperator) := none
  items : ClassSet := .empty
deriving DecidableEq, Repr

namespace Bracket

def add (b : Bracket) (item : ClassSet) : Bracket :=
  { b with items := if b.items = .empty then item else .union b.items item }

/-- The set that the bracket stands for if it ends here. -/
def close (b : Bracket) : ClassSet :=
  match b.left with
  | none => b.items
  | some (left, operator) => .operation operator left b.items

/-- Goes on behind an operator. -/
def operate (b : Bracket) (operator : SetOperator) : Bracket := ⟨some (b.close, operator), .empty⟩

end Bracket

/-- The class of ASCII characters with the given name. -/
def asciiClass? (name : List Char) : Option AsciiClass :=
  match String.ofList name with
  | "alnum" => some .alnum
  | "alpha" => some .alpha
  | "ascii" => some .ascii
  | "blank" => some .blank
  | "cntrl" => some .cntrl
  | "digit" => some .digit
  | "graph" => some .graph
  | "lower" => some .lower
  | "print" => some .print
  | "punct" => some .punct
  | "space" => some .space
  | "upper" => some .upper
  | "word" => some .word
  | "xdigit" => some .xdigit
  | _ => none

/-- A named class between colons and a bracket, and what follows; `s` is behind the left bracket. -/
def namedClass? (s : List Char) : Option (ClassSet × List Char) := do
  let ':' :: s := s | none
  let (negated, s) := match s with
    | '^' :: s => (true, s)
    | s => (false, s)
  let (name, after) ← splitAt? [':'] s
  let ']' :: after := after | none
  return (.ascii (← asciiClass? name) negated, after)

/-- What an expression means between brackets. -/
def ClassSet.ofExpression? : Expression → Option ClassSet
  | .literal l => some (.range l l)
  | .property query negated => some (.property query negated)
  | .shorthand kind negated => some (.shorthand kind negated)
  | _ => none

/-- The character after a hyphen at the front, past blanks. The sign of a comment counts as a blank
once. -/
def afterHyphen (ignoreSpace : Bool) (s : List Char) : Option Char :=
  if ignoreSpace then
    match s.dropWhile isBlank with
    | '#' :: rest => (rest.dropWhile isBlank).head? <|> s.head?
    | c :: _ => some c
    | [] => s.head?
  else s.head?

/-- One character or escape between brackets, where no other character than the backslash has a
meaning of its own. -/
def classAtom : Reader Expression := do
  match ← take with
  | '\\' => escape
  | c => return .literal ⟨c, false⟩

/-- One character, or a range of them, or a class. -/
def classItem : Reader ClassSet := do
  let first ← classAtom
  skip
  let input ← get
  match input.rest with
  | [] => failure
  | '-' :: s =>
    let next := afterHyphen input.ignoreSpace s
    if next = some ']' || next = some '-' then ClassSet.ofExpression? first
    else
      skipTo s
      let last ← classAtom
      match first, last with
      | .literal a, .literal b => if a.char ≤ b.char then return .range a b else failure
      | _, _ => failure
  | _ => ClassSet.ofExpression? first

/-- Hyphens at the front of a bracket, which stand for themselves. -/
def leadingHyphens : Nat → Bracket → Reader Bracket
  | 0, b => return b
  | n + 1, b => do
    match ← rest with
    | '-' :: s =>
      skipTo s
      leadingHyphens n (b.add (.range ⟨'-', false⟩ ⟨'-', false⟩))
    | _ => return b

/-- The items of a bracket up to its end, where `nested` reads a bracket in it. -/
def classItems (nested : Reader ClassSet) : Nat → Bracket → Reader ClassSet
  | 0, _ => failure
  | n + 1, b => do
    skip
    match ← rest with
    | [] => failure
    | ']' :: s =>
      setRest s
      return b.close
    | '[' :: s =>
      match namedClass? s with
      | some (item, after) =>
        setRest after
        classItems nested n (b.add item)
      | none =>
        setRest s
        classItems nested n (b.add (← nested))
    | '&' :: '&' :: s =>
      setRest s
      classItems nested n (b.operate .intersection)
    | '-' :: '-' :: s =>
      setRest s
      classItems nested n (b.operate .difference)
    | '~' :: '~' :: s =>
      setRest s
      classItems nested n (b.operate .symmetricDifference)
    | _ => classItems nested n (b.add (← classItem))

/-- A bracket, from what follows the opening one, at most `depth` deep. -/
def bracket : Nat → Reader ClassSet
  | 0 => failure
  | depth + 1 => do
    skip
    let negated := (← rest).head? == some '^'
    if negated then
      let _ ← take
      skip
    let b ← leadingHyphens (← rounds) {}
    let b ← match b.items, ← rest with
      | .empty, ']' :: s => do
        skipTo s
        pure (b.add (.range ⟨']', false⟩ ⟨']', false⟩))
      | _, _ => pure b
    return .bracketed negated (← classItems (bracket depth) (← rounds) b)

end Readiness.Pattern
