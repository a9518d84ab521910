import Readiness.Pattern.Meaning
import Readiness.Pattern.Reader.Group
import Readiness.Pattern.Search

/-! Patterns to search texts for.

`Pattern.compile` makes a pattern of its text, and `Pattern.count` counts the matches in a text that
do not overlap. -/

namespace Readiness

structure Pattern where
  program : Pattern.Program
deriving Inhabited

namespace Pattern

/-- What is in force at the start of a pattern: a dot matches the end of a line too. -/
def usualFlags : Flags := { dotMatchesNewline := true }

/-- Reads a pattern and makes it ready. -/
def compile (text : String) : Except Fault Pattern := do
  let some expression := Expression.read? text.toList | .error .malformed
  let (node, _) ← expression.meaning usualFlags
  if node.cost ≤ Node.costLimit then return ⟨.ofNode node⟩ else .error .tooLarge

/-- Counts the matches in `s`, which stands after `before`. An empty match where the last one ended
does not count, and the search goes on after the next character; `fresh` tells that no match ended
here. -/
def countFrom (p : Program) (before : Option Char) (fresh : Bool) (s : List Char) : Nat :=
  match h : p.firstEnd before s with
  | none => 0
  | some n =>
    if hn : n = 0 then
      if fresh then 1 + countFrom p before false s
      else
        match s with
        | [] => 0
        | c :: rest => countFrom p (some c) true rest
    else
      have := p.firstEnd_le before h
      1 + countFrom p s[n - 1]? false (s.drop n)
termination_by 2 * s.length + fresh.toNat
decreasing_by all_goals simp_all <;> omega

/-- Counts the matches in a text that do not overlap. -/
def count (p : Pattern) (text : List Char) : Nat := countFrom p.program none true text

example : (compile "aba").toOption.map (·.count "ababa aba".toList) = some 2 := by decide +kernel
example : (compile "a*").toOption.map (·.count "baac".toList) = some 3 := by decide +kernel
example : (compile "(a").toOption.isNone := by decide +kernel

end Pattern

end Readiness
