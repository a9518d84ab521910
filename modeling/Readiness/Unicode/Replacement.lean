import Readiness.Unicode.CodeSet

/-! Tables of code points that are replaced by others.

A `Replacement` replaces one code point by a sequence, or a run of them by code points at the same
distance. `Replacement.ofLines` reads the packed form in which such tables are kept. -/

namespace Readiness.Unicode

/-- Replaces `first` by `target`, and the `more` code points after it, `step` apart, by what lies as
far behind `target`. -/
structure Replacement where
  first : Nat
  more : Nat := 0
  step : Nat := 1
  target : List Nat
deriving DecidableEq, Repr

namespace Replacement

def image? (r : Replacement) (code : Nat) : Option (List Nat) :=
  let distance := code - r.first
  if r.first ≤ code && distance ≤ r.more * r.step && distance % r.step == 0 then
    some (r.target.map (· + distance))
  else none

/-- What the first rule for a code point replaces it by. -/
def find? (rules : List Replacement) (code : Nat) : Option (List Nat) :=
  rules.findSome? (·.image? code)

/-- The value of hexadecimal digits. -/
def code (digits : String) : Nat := digits.toList.foldl (fun n c => n * 16 + CodeSet.hexDigit c) 0

/-- Reads a rule: how far its start is from that of the rule before; how many more code points there
are, after a colon if they are next to each other and after a semicolon if every other one is meant;
and what stands for the first. -/
def ofText (before : Nat) (text : String) : Replacement :=
  let (place, target) := match text.splitOn ">" with
    | [place, target] => (place, (target.splitOn ",").map code)
    | _ => (text, [])
  match place.splitOn ":", place.splitOn ";" with
  | [first, more], _ => ⟨before + code first, code more, 1, target⟩
  | _, [first, more] => ⟨before + code first, code more, 2, target⟩
  | _, _ => ⟨before + code place, 0, 1, target⟩

/-- Reads rules one after the other. -/
def ofTexts (before : Nat) : List String → List Replacement
  | [] => []
  | text :: texts =>
    let rule := ofText before text
    rule :: ofTexts rule.first texts

/-- Reads a packed table, in which blanks or line ends stand between the rules. -/
def ofLines (lines : List String) : List Replacement :=
  ofTexts 0 (lines.flatMap fun line => line.splitOn " ")

end Replacement

end Readiness.Unicode
