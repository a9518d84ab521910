import Readiness.Unicode.Property

/-! Conditions on a place in a text.

A `Look` asks about the characters on both sides of a place and takes none of them. -/

namespace Readiness.Pattern

open Readiness.Unicode

/-- Which characters words are made of. -/
inductive Alphabet
  | unicode | ascii
deriving DecidableEq, Repr

/-- Whether words are made of the character, if there is one. -/
def Alphabet.isWord (a : Alphabet) : Option Char → Bool
  | none => false
  | some c =>
    match a with
    | .unicode => Unicode.isWord c
    | .ascii => c.isAlphanum || c = '_'

/-- A condition on a place in a text. -/
inductive Look
  | textStart | textEnd
  /-- A line starts here; `crlf` tells whether a carriage return ends lines too. -/
  | lineStart (crlf : Bool)
  | lineEnd (crlf : Bool)
  | wordBoundary (words : Alphabet)
  | notWordBoundary (words : Alphabet)
  | wordStart (words : Alphabet)
  | wordEnd (words : Alphabet)
  /-- No word goes on before this place. -/
  | wordStartHalf (words : Alphabet)
  /-- No word goes on after this place. -/
  | wordEndHalf (words : Alphabet)
deriving DecidableEq, Repr

namespace Look

/-- Whether the condition holds between two characters; at an end of the text there is none. A
carriage return and the line feed after it are not parted. -/
def holds (before after : Option Char) : Look → Bool
  | textStart => before.isNone
  | textEnd => after.isNone
  | lineStart false => before.isNone || before = some '\n'
  | lineEnd false => after.isNone || after = some '\n'
  | lineStart true =>
    before.isNone || before = some '\n' || (before = some '\r' && after != some '\n')
  | lineEnd true =>
    after.isNone || after = some '\r' || (after = some '\n' && before != some '\r')
  | wordBoundary words => words.isWord before != words.isWord after
  | notWordBoundary words => words.isWord before == words.isWord after
  | wordStart words => !words.isWord before && words.isWord after
  | wordEnd words => words.isWord before && !words.isWord after
  | wordStartHalf words => !words.isWord before
  | wordEndHalf words => !words.isWord after

end Look

end Readiness.Pattern
