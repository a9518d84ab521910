import Readiness.Pattern.Reader.Bracket
import Readiness.Unicode.Property

/-! Reading groups and whole patterns.

`Expression.read?` reads the text of a pattern. What stands between two parentheses, and the whole
pattern, is read by `parts` into a `Draft`: an item after the other, choices parted by bars. A group
inside another is read at one level less, of `nestLimit` at the top. -/

namespace Readiness.Pattern

open Readiness.Unicode
open Reader

/-- The flag that a letter stands for. -/
def flag? : Char → Option Flag
  | 'i' => some .ignoreCase
  | 'm' => some .multiLine
  | 's' => some .dotMatchesNewline
  | 'U' => some .swapGreed
  | 'u' => some .unicode
  | 'R' => some .crlf
  | 'x' => some .ignoreSpace
  | _ => none

/-- Flags up to a colon or a closing parenthesis. No flag stands twice, and those after a hyphen, at
least one, are switched off. -/
def flagChange (off : Bool) (change : FlagChange) : List Char → Option (FlagChange × List Char)
  | [] => none
  | c :: s =>
    if c = ':' || c = ')' then
      if off && change.off.isEmpty then none else some (change, c :: s)
    else if c = '-' then if off then none else flagChange true change s
    else
      match flag? c with
      | none => none
      | some flag =>
        if change.on.contains flag || change.off.contains flag then none
        else if off then flagChange off { change with off := change.off ++ [flag] } s
        else flagChange off { change with on := change.on ++ [flag] } s

/-- Whether the name of a group may start with a character. -/
def isNameStart (c : Char) : Bool := c = '_' || isAlphabetic c

/-- Whether the name of a group may go on with a character. -/
def isNamePart (c : Char) : Bool :=
  c = '_' || c = '.' || c = '[' || c = ']' || isAlphanumeric c

/-- The name of a group and what closes it. -/
def groupName (s : List Char) : Reader Unit := do
  let (name, after) ← splitAt? ['>'] s
  let first :: more := name | failure
  let input ← get
  if isNameStart first && more.all isNamePart && !input.names.contains name then
    set { input with rest := after, names := name :: input.names }
  else failure

/-- What an opening parenthesis begins. -/
inductive Opening
  /-- Flags for what follows, and the end of the parenthesis. -/
  | directive (change : FlagChange)
  /-- A group with flags for what is in it. -/
  | group (change : FlagChange)
deriving DecidableEq, Repr

/-- What follows an opening parenthesis. -/
def opening : Reader Opening := do
  skip
  match ← rest with
  | '?' :: '=' :: _ | '?' :: '!' :: _ | '?' :: '<' :: '=' :: _ | '?' :: '<' :: '!' :: _ => failure
  | '?' :: 'P' :: '<' :: s =>
    groupName s
    return .group {}
  | '?' :: '<' :: s =>
    groupName s
    return .group {}
  | '?' :: s =>
    match ← flagChange false {} s with
    | (change, ')' :: s) =>
      setRest s
      if change = {} then failure else return .directive change
    | (change, s) =>
      setRest (s.drop 1)
      return .group change
  | _ => return .group {}

/-- What has been read of a group: the parts since the last bar, last first, and the choices before
it, last first. -/
structure Draft where
  parts : List Expression := []
  choices : List Expression := []
deriving DecidableEq, Repr

namespace Draft

/-- Adds a part. -/
def add (d : Draft) (x : Expression) : Draft := { d with parts := x :: d.parts }

/-- Goes on behind a bar. -/
def bar (d : Draft) : Draft := ⟨[], .ofSequence d.parts.reverse :: d.choices⟩

/-- The expression that the group holds if it ends here. -/
def finish (d : Draft) : Expression := .ofChoice d.bar.choices.reverse

/-- Repeats the last part; flags cannot be repeated. -/
def repeatLast? (d : Draft) (least : Nat) (most : Option Nat) (greedy : Bool) : Option Draft :=
  match d.parts with
  | [] | .empty :: _ | .flags _ :: _ => none
  | x :: parts => some { d with parts := .repetition x least most greedy :: parts }

end Draft

/-- A number in decimal digits, of at most 32 bits, with blanks around it. -/
def decimal? (s : List Char) : Option Nat :=
  let digits := trim s
  let n := digits.foldl (fun n c => n * 10 + (c.toNat - '0'.toNat)) 0
  if !digits.isEmpty && digits.all Char.isDigit && n < 0x100000000 then some n else none

/-- The numbers between the braces of a repetition. -/
def bounds? (content : List Char) : Option (Nat × Option Nat) := do
  match splitAt? [','] content with
  | none =>
    let n ← decimal? content
    return (n, some n)
  | some (least, []) => return (← decimal? least, none)
  | some (least, most) =>
    let least ← decimal? least
    let most ← decimal? most
    if least ≤ most then return (least, some most) else none

/-- Takes the question mark that makes a repetition prefer less. -/
def greedy : Reader Bool := do
  match ← rest with
  | '?' :: s =>
    setRest s
    return false
  | _ => return true

/-- The parts of a group up to its end, where `nested` reads a group in it from what follows the
opening parenthesis. -/
def parts (nested : Reader Expression) : Nat → Draft → Reader Expression
  | 0, _ => failure
  | n + 1, d => do
    skip
    match ← rest with
    | [] | ')' :: _ => return d.finish
    | '|' :: s =>
      setRest s
      parts nested n d.bar
    | '(' :: s =>
      setRest s
      parts nested n (d.add (← nested))
    | '[' :: s =>
      setRest s
      match ← bracket nestLimit with
      | .bracketed negated set => parts nested n (d.add (.bracketed negated set))
      | _ => failure
    | '?' :: s =>
      setRest s
      parts nested n (← d.repeatLast? 0 (some 1) (← greedy))
    | '*' :: s =>
      setRest s
      parts nested n (← d.repeatLast? 0 none (← greedy))
    | '+' :: s =>
      setRest s
      parts nested n (← d.repeatLast? 1 none (← greedy))
    | '\x7b' :: s =>
      setRest s
      let (least, most) ← bounds? (← braced)
      skip
      parts nested n (← d.repeatLast? least most (← greedy))
    | _ => parts nested n (d.add (← primitive))

/-- A group or directive, from what follows the opening parenthesis, at most `depth` deep. -/
def groupReader : Nat → Reader Expression
  | 0 => failure
  | depth + 1 => do
    let before := (← get).ignoreSpace
    match ← opening with
    | .directive change =>
      modify fun input => { input with ignoreSpace := change.apply .ignoreSpace before }
      return .flags change
    | .group change =>
      modify fun input => { input with ignoreSpace := change.apply .ignoreSpace before }
      let body ← parts (groupReader depth) (← rounds) {}
      match ← rest with
      | ')' :: s =>
        modify fun input => { input with rest := s, ignoreSpace := before }
        return .group change body
      | _ => failure

/-- Reads the text of a pattern. -/
def Expression.read? (text : List Char) : Option Expression := do
  let reader := parts (groupReader nestLimit) (text.length + 1) {}
  let (expression, input) ← reader.run { rest := text }
  if input.rest.isEmpty && expression.depth none ≤ nestLimit then some expression else none

end Readiness.Pattern
