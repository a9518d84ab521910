import Readiness.Unicode.Decomposition

/-! Texts in composed form.

The same text can be written with a code point for a letter and its marks together, or with one for
each. `composed` brings a text into the form with as few as possible: it takes all apart, orders the
marks on each base by rank, and puts together what can be. -/

namespace Readiness.Unicode

/-! Korean syllables have a leading consonant, a vowel and perhaps a trailing consonant. They are
numbered in this order, and so are the parts. -/

def firstSyllable : Nat := 0xAC00

def syllables : Nat := 11172

/-- The parts of a code point, in the order of their ranks. -/
def decompose (code : Nat) : List Nat :=
  if firstSyllable ≤ code && code < firstSyllable + syllables then
    let n := code - firstSyllable
    [0x1100 + n / 588, 0x1161 + n % 588 / 28] ++ if n % 28 = 0 then [] else [0x11A7 + n % 28]
  else (Replacement.find? decompositions code).getD [code]

/-- What stands for a code point and one more after it. -/
def compose? (base code : Nat) : Option Nat :=
  if 0x1100 ≤ base && base < 0x1113 && 0x1161 ≤ code && code < 0x1176 then
    some (firstSyllable + (base - 0x1100) * 588 + (code - 0x1161) * 28)
  else if firstSyllable ≤ base && base < firstSyllable + syllables
      && (base - firstSyllable) % 28 == 0 && 0x11A8 ≤ code && code < 0x11C3 then
    some (base + (code - 0x11A7))
  else
    let parts := decompose base ++ [code]
    (decompositions.find? fun r => r.target == parts && !uncomposed.contains r.first).map (·.first)

def rank (code : Nat) : Nat := combiningClass (Char.ofNat code)

/-- Puts a code point before others that are in order. -/
def insertRanked (code : Nat) : List Nat → List Nat
  | [] => [code]
  | next :: rest =>
    if 0 < rank next && rank next < rank code then next :: insertRanked code rest
    else code :: next :: rest

/-- Orders the marks on each base by rank; those of the same rank stay as they are. -/
def inRankOrder (codes : List Nat) : List Nat := codes.foldr insertRanked []

/-- Puts together what can be, where `marks`, last first, have been kept after `base`. A mark
reaches its base only past marks of lower rank. -/
def composeFrom (base : Nat) (marks : List Nat) : List Nat → List Nat
  | [] => base :: marks.reverse
  | code :: rest =>
    let reaches := match marks with
      | [] => true
      | last :: _ => rank last < rank code
    match if reaches then compose? base code else none with
    | some whole => composeFrom whole marks rest
    | none =>
      if rank code = 0 then base :: marks.reverse ++ composeFrom code [] rest
      else composeFrom base (code :: marks) rest

/-- A sequence in composed form, where marks before the first base are passed over. -/
def composeAll : List Nat → List Nat
  | [] => []
  | code :: rest => if rank code = 0 then composeFrom code [] rest else code :: composeAll rest

def composed (s : List Char) : List Char :=
  if s.all fun c => c.toNat < 0x300 then s
  else (composeAll (inRankOrder (s.flatMap fun c => decompose c.toNat))).map Char.ofNat

end Readiness.Unicode
