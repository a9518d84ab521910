import Readiness.Pattern.Node

/-! Steps of a search.

A `Program` is a list of `Step`s that name each other by their places. `Program.ofNode` lays out a
node from front to back: the steps of a part begin where those before it end, and are told where to
go on, so no step has to be changed afterwards. -/

namespace Readiness.Pattern

open Readiness.Unicode

/-- A step of a search. -/
inductive Step
  /-- All of the pattern has matched. -/
  | accept
  /-- Takes a character of a set. -/
  | one (set : CodeSet) (next : Nat)
  | look (condition : Look) (next : Nat)
  /-- Goes on at both places, and prefers the first. -/
  | split (first second : Nat)
  | jump (next : Nat)
deriving Inhabited

namespace Node

/-- How many steps a node takes. -/
def size : Node → Nat
  | empty => 1
  | one _ => 1
  | look _ => 1
  | sequence first second => first.size + second.size
  | choice first second => 1 + first.size + second.size
  | repetition body least none _ => if least = 0 then body.size + 2 else least * body.size + 1
  | repetition body least (some most) _ => least * body.size + (most - least) * (body.size + 1) + 1

/-- Goes on with another round or leaves, whichever is preferred. -/
def turn (greedy : Bool) (again leave : Nat) : Step :=
  if greedy then .split again leave else .split leave again

/-- Adds the steps of a node, which go on at `next` after a match. -/
def emit : Node → Nat → Array Step → Array Step
  | empty, next, steps => steps.push (.jump next)
  | one set, next, steps => steps.push (.one set next)
  | look condition, next, steps => steps.push (.look condition next)
  | sequence first second, next, steps =>
    second.emit next (first.emit (steps.size + first.size) steps)
  | choice first second, next, steps =>
    let start := steps.size + 1
    second.emit next (first.emit next (steps.push (.split start (start + first.size))))
  | repetition body least none greedy, next, steps =>
    if least = 0 then
      let start := steps.size + 1
      let steps := body.emit (start + body.size) (steps.push (turn greedy start next))
      steps.push (turn greedy start next)
    else
      let again (steps : Array Step) : Array Step := body.emit (steps.size + body.size) steps
      let steps := Nat.repeat again (least - 1) steps
      let start := steps.size
      (body.emit (start + body.size) steps).push (turn greedy start next)
  | repetition body least (some most) greedy, next, steps =>
    let steps := Nat.repeat (fun steps => body.emit (steps.size + body.size) steps) least steps
    let steps := Nat.repeat
      (fun steps =>
        let start := steps.size + 1
        body.emit (start + body.size) (steps.push (turn greedy start next)))
      (most - least) steps
    steps.push (.jump next)

end Node

/-- The steps of a search, of which the one at place 0 is the first. -/
structure Program where
  steps : Array Step
deriving Inhabited

/-- The steps of a node, with the accepting step last. -/
def Program.ofNode (node : Node) : Program := ⟨(node.emit node.size #[]).push .accept⟩

end Readiness.Pattern
