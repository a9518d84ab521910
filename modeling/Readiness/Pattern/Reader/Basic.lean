import Readiness.Pattern.Expression
import Readiness.Unicode.Blank

/-! Readers of parts of a pattern.

A `Reader` takes characters from the front of the text or fails. Where blanks are ignored they are
passed over with `Reader.skip`, comments among them. A loop takes at least one character each time
round and is given as many rounds as characters are left, `Reader.rounds`. -/

namespace Readiness.Pattern

open Readiness.Unicode

/-- What is left to read, and what reading has to remember. -/
structure Input where
  rest : List Char
  ignoreSpace : Bool := false
  /-- The names of the groups read so far. -/
  names : List (List Char) := []
deriving DecidableEq, Repr

/-- Reads a part of a pattern, or fails. -/
abbrev Reader (α : Type) := StateT Input Option α

/-- How deep a pattern may be nested. -/
def nestLimit : Nat := 250

/-- What follows blanks and comments; a comment goes on to the end of its line. -/
def skipBlanks (inComment : Bool) : List Char → List Char
  | [] => []
  | c :: s =>
    if inComment then skipBlanks (c != '\n') s
    else if isBlank c then skipBlanks false s
    else if c = '#' then skipBlanks true s
    else c :: s

/-- The text up to a closing brace and what follows it. Blanks and comments are left out if
`ignoreSpace`. -/
def untilBrace (ignoreSpace inComment : Bool) : List Char → Option (List Char × List Char)
  | [] => none
  | c :: s =>
    if inComment then untilBrace ignoreSpace (c != '\n') s
    else if ignoreSpace && isBlank c then untilBrace ignoreSpace false s
    else if ignoreSpace && c = '#' then untilBrace ignoreSpace true s
    else if c = '\x7d' then some ([], s)
    else (untilBrace ignoreSpace false s).map fun (content, rest) => (c :: content, rest)

namespace Reader

def rest : Reader (List Char) := return (← get).rest

/-- Goes on at `s`. -/
def setRest (s : List Char) : Reader Unit := modify fun input => { input with rest := s }

/-- Passes over blanks and comments where they are ignored. -/
def skip : Reader Unit :=
  modify fun input =>
    if input.ignoreSpace then { input with rest := skipBlanks false input.rest } else input

/-- Goes on at `s`, past blanks and comments where they are ignored. -/
def skipTo (s : List Char) : Reader Unit := do
  setRest s
  skip

def take : Reader Char := do
  match ← rest with
  | [] => failure
  | c :: s =>
    setRest s
    return c

/-- Takes the text up to a closing brace, and the brace. -/
def braced : Reader (List Char) := do
  let input ← get
  match untilBrace input.ignoreSpace false input.rest with
  | none => failure
  | some (content, s) =>
    setRest s
    return content

/-- How many rounds a loop may need. -/
def rounds : Reader Nat := return (← rest).length + 1

end Reader

/-- Parts a text before and after the first place where `mark` stands. -/
def splitAt? (mark : List Char) : List Char → Option (List Char × List Char)
  | [] => none
  | c :: s =>
    if mark.isPrefixOf (c :: s) then some ([], (c :: s).drop mark.length)
    else (splitAt? mark s).map fun (before, after) => (c :: before, after)

end Readiness.Pattern
