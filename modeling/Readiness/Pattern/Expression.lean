/-! Patterns as they are written.

An `Expression` is what the text of a pattern says, before flags and tables of characters give it a
meaning. A part in brackets is a `ClassSet`. Sequences and choices are built from two parts at a
time: `Expression.depth` counts a whole sequence, or a whole choice, as one level. -/

namespace Readiness.Pattern

/-- What can be switched on and off for a part of a pattern. -/
inductive Flag
  | ignoreCase | multiLine | dotMatchesNewline | swapGreed | unicode | crlf | ignoreSpace
deriving DecidableEq, Repr

/-- Flags switched on and off together. -/
structure FlagChange where
  on : List Flag := []
  off : List Flag := []
deriving DecidableEq, Repr

/-- What a change makes of a flag. -/
def FlagChange.apply (change : FlagChange) (flag : Flag) (value : Bool) : Bool :=
  if change.on.contains flag then true else if change.off.contains flag then false else value

/-- A place in the text, as it is written. -/
inductive Assertion
  | lineStart | lineEnd | textStart | textEnd
  | wordBoundary | notWordBoundary | wordStart | wordEnd | wordStartHalf | wordEndHalf
deriving DecidableEq, Repr

/-- Classes of characters with a letter of their own. -/
inductive Shorthand
  | digit | space | word
deriving DecidableEq, Repr

/-- Classes of ASCII characters with a name of their own. -/
inductive AsciiClass
  | alnum | alpha | ascii | blank | cntrl | digit | graph | lower | print | punct | space | upper
  | word | xdigit
deriving DecidableEq, Repr

/-- A set of code points asked for by name. -/
inductive PropertyQuery
  | name (text : List Char)
  | value (property value : List Char)
deriving DecidableEq, Repr

structure Literal where
  char : Char
  /-- Whether it is written as a byte, by two hexadecimal digits. -/
  asByte : Bool := false
deriving DecidableEq, Repr

/-- How the sets on both sides are joined. -/
inductive SetOperator
  | intersection | difference | symmetricDifference
deriving DecidableEq, Repr

/-- What is between brackets. -/
inductive ClassSet
  | empty
  | range (first last : Literal)
  | ascii (kind : AsciiClass) (negated : Bool)
  | property (query : PropertyQuery) (negated : Bool)
  | shorthand (kind : Shorthand) (negated : Bool)
  | bracketed (negated : Bool) (set : ClassSet)
  | union (items : ClassSet) (item : ClassSet)
  | operation (operator : SetOperator) (left right : ClassSet)
deriving DecidableEq, Repr

/-- A pattern as it is written. -/
inductive Expression
  | empty
  | flags (change : FlagChange)
  | literal (literal : Literal)
  | dot
  | assertion (kind : Assertion)
  | property (query : PropertyQuery) (negated : Bool)
  | shorthand (kind : Shorthand) (negated : Bool)
  | bracketed (negated : Bool) (set : ClassSet)
  | repetition (body : Expression) (least : Nat) (most : Option Nat) (greedy : Bool)
  | group (change : FlagChange) (body : Expression)
  | sequence (first : Expression) (rest : Expression)
  | choice (first : Expression) (rest : Expression)
deriving DecidableEq, Repr

namespace ClassSet

/-- How deep a set is nested, where `joined` tells that it begins a longer union. -/
def depth (joined : Bool) : ClassSet → Nat
  | bracketed _ set => 1 + set.depth false
  | union items item => (if joined then 0 else 1) + max (items.depth true) (item.depth false)
  | operation _ left right => 1 + max (left.depth false) (right.depth false)
  | _ => 0

end ClassSet

namespace Expression

/-- What stands before a part that begins a longer sequence or choice. -/
inductive Joint
  | sequence | choice
deriving DecidableEq, Repr

/-- How deep an expression is nested, where `joint` tells whether it goes on with a sequence or a
choice. -/
def depth (joint : Option Joint) : Expression → Nat
  | bracketed _ set => 1 + set.depth false
  | repetition body _ _ _ => 1 + body.depth none
  | group _ body => 1 + body.depth none
  | sequence first rest =>
    (if joint = some .sequence then 0 else 1) + max (first.depth none) (rest.depth (some .sequence))
  | choice first rest =>
    (if joint = some .choice then 0 else 1) + max (first.depth none) (rest.depth (some .choice))
  | _ => 0

/-- Parts one after the other. -/
def ofSequence : List Expression → Expression
  | [] => empty
  | [x] => x
  | x :: rest => sequence x (ofSequence rest)

/-- Parts of which one is to match, the first that does. -/
def ofChoice : List Expression → Expression
  | [] => empty
  | [x] => x
  | x :: rest => choice x (ofChoice rest)

end Expression

end Readiness.Pattern
