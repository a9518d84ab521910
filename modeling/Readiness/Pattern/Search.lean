import Readiness.Pattern.Program

/-! Searching a text.

The search goes through the text once. At each place it has the steps that wait for a character,
best first: those of an earlier start come before those of a later one, and of one start those of a
preferred choice come first. A step that several choices lead to is kept where it comes first, as
all that follows from it is the same. When the accepting step is reached, those behind it are given
up and no further start is tried; what is before it may still lead to a better match.

`Program.firstEnd` tells where the first match ends. That is all that counting matches needs. -/

namespace Readiness.Pattern

open Readiness.Unicode

namespace Program

def step? (p : Program) (i : Nat) : Option Step := p.steps[i]?

/-- The steps reached without taking a character. -/
structure Reached where
  seen : Array Bool
  /-- Those that wait for a character or accept, last first. -/
  waiting : List Nat

/-- Follows the pending steps, the first of them first, at a place between two characters. A step
that has been seen is not followed again. -/
def follow (p : Program) (before after : Option Char) : Nat → List Nat → Reached → Reached
  | 0, _, r => r
  | _, [], r => r
  | fuel + 1, i :: pending, r =>
    if r.seen[i]?.getD true then p.follow before after fuel pending r
    else
      let r := { r with seen := r.seen.setIfInBounds i true }
      match p.step? i with
      | none => p.follow before after fuel pending r
      | some .accept => p.follow before after fuel pending { r with waiting := i :: r.waiting }
      | some (.one ..) => p.follow before after fuel pending { r with waiting := i :: r.waiting }
      | some (.look condition next) =>
        if condition.holds before after then p.follow before after fuel (next :: pending) r
        else p.follow before after fuel pending r
      | some (.split first second) => p.follow before after fuel (first :: second :: pending) r
      | some (.jump next) => p.follow before after fuel (next :: pending) r

/-- The waiting steps that the pending ones lead to, best first. Each step is followed once and adds
two at most, which bounds the work. -/
def waiting (p : Program) (before after : Option Char) (pending : List Nat) : List Nat :=
  (p.follow before after (pending.length + 2 * p.steps.size) pending
    ⟨Array.replicate p.steps.size false, []⟩).waiting.reverse

/-- The steps up to the accepting one, and whether there is one. -/
def cutAtAccept (p : Program) : List Nat → List Nat × Bool
  | [] => ([], false)
  | i :: rest =>
    match p.step? i with
    | some .accept => ([], true)
    | _ =>
      let (kept, accepted) := p.cutAtAccept rest
      (i :: kept, accepted)

/-- Where the steps go on that take a character. -/
def advance (p : Program) (c : Char) (waiting : List Nat) : List Nat :=
  waiting.filterMap fun i =>
    match p.step? i with
    | some (.one set next) => if set.hasChar c then some next else none
    | _ => none

/-- Searches the text `s` after `before`. The steps `pending` go on here; `read` characters have
been read, and `best` is where the best match so far ends. -/
def scan (p : Program) (before : Option Char) (pending : List Nat) (read : Nat)
    (best : Option Nat) : List Char → Option Nat
  | [] =>
    if (p.cutAtAccept (p.waiting before none pending)).2 then some read else best
  | c :: s =>
    let (kept, accepted) := p.cutAtAccept (p.waiting before (some c) pending)
    let best := if accepted then some read else best
    let pending := p.advance c kept ++ if best.isNone then [0] else []
    if pending.isEmpty then best else p.scan (some c) pending (read + 1) best s

/-- How many characters of `s`, which stands after `before`, lie before the first match's end. -/
def firstEnd (p : Program) (before : Option Char) (s : List Char) : Option Nat :=
  p.scan before [0] 0 none s

/-- A search does not end beyond the text. -/
theorem scan_le (p : Program) {s : List Char} {before : Option Char} {pending : List Nat}
    {read n : Nat} {best : Option Nat} (hbest : ∀ b, best = some b → b ≤ read + s.length)
    (h : p.scan before pending read best s = some n) : n ≤ read + s.length := by
  induction s generalizing before pending read best with
  | nil =>
    simp only [scan] at h
    split at h
    · simp_all
    · exact hbest n h
  | cons c s ih =>
    simp only [scan] at h
    generalize (p.cutAtAccept (p.waiting before (some c) pending)).2 = accepted at h
    generalize hnow : (if accepted then some read else best) = now at h
    generalize p.advance c _ ++ _ = next at h
    have hnow : ∀ b, now = some b → b ≤ read + 1 + s.length := by
      intro b hb
      subst hnow
      split at hb
      · simp at hb; omega
      · have := hbest b hb
        simp only [List.length_cons] at this
        omega
    rw [List.length_cons]
    split at h
    · have := hnow n h
      omega
    · have := ih hnow h
      omega

/-- The first match ends within the text. -/
theorem firstEnd_le (p : Program) (before : Option Char) {s : List Char} {n : Nat}
    (h : p.firstEnd before s = some n) : n ≤ s.length := by
  have := p.scan_le (by simp) h
  omega

end Program

end Readiness.Pattern
