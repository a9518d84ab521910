import Readiness.Pattern.Fault
import Readiness.Pattern.Node
import Readiness.Pattern.Property
import Readiness.Unicode.Folding

/-! What a written pattern looks for.

`Expression.meaning` gives the `Node` of an expression under the `Flags` in force. A directive
changes the flags for all that follows in its group, the choices after it among them. Without the
flag for Unicode, a part means bytes, and one that could match a byte beyond ASCII has no meaning in
a text. -/

namespace Readiness.Pattern

open Readiness.Unicode

structure Flags where
  ignoreCase : Bool := false
  multiLine : Bool := false
  dotMatchesNewline : Bool := false
  swapGreed : Bool := false
  unicode : Bool := true
  crlf : Bool := false
deriving DecidableEq, Repr

namespace Flags

def change (f : Flags) (c : FlagChange) : Flags where
  ignoreCase := c.apply .ignoreCase f.ignoreCase
  multiLine := c.apply .multiLine f.multiLine
  dotMatchesNewline := c.apply .dotMatchesNewline f.dotMatchesNewline
  swapGreed := c.apply .swapGreed f.swapGreed
  unicode := c.apply .unicode f.unicode
  crlf := c.apply .crlf f.crlf

/-- Which characters words are made of. -/
def alphabet (f : Flags) : Alphabet := if f.unicode then .unicode else .ascii

/-- The set with the variants of its members where case is ignored. -/
def fold (f : Flags) (s : CodeSet) : CodeSet :=
  if !f.ignoreCase then s else if f.unicode then s.foldCase else s.foldAsciiCase

/-- The set, if it has a meaning. -/
def check (f : Flags) (s : CodeSet) : Except Fault CodeSet :=
  if f.unicode || s.ranges.all (fun r => r.2 < 0x80) then .ok s else .error .meaningless

/-- The set or what is not in it, with variants. -/
def close (f : Flags) (negated : Bool) (s : CodeSet) : Except Fault CodeSet :=
  let s := f.fold s
  f.check (if negated then s.compl else s)

end Flags

/-- A byte beyond ASCII is no character. -/
def Literal.check (f : Flags) (l : Literal) : Except Fault Unit :=
  if l.asByte && !f.unicode && 0x80 ≤ l.char.toNat then .error .meaningless else .ok ()

/-- The members of a set asked for by name. -/
def PropertyQuery.members (f : Flags) (query : PropertyQuery) (negated : Bool) :
    Except Fault CodeSet :=
  match f.unicode, query.members? with
  | true, some s => f.close negated s
  | _, _ => .error .meaningless

/-- The members of a shorthand class, or the rest. -/
def Shorthand.meaning (f : Flags) (kind : Shorthand) (negated : Bool) : Except Fault CodeSet :=
  let s := kind.members f.alphabet
  f.check (if negated then s.compl else s)

/-- The members of two sets joined by an operator. -/
def SetOperator.apply (left right : CodeSet) : SetOperator → CodeSet
  | intersection => left.inter right
  | difference => left.diff right
  | symmetricDifference => left.symmDiff right

/-- The members of what stands between brackets. -/
def ClassSet.meaning (f : Flags) : ClassSet → Except Fault CodeSet
  | empty => .ok CodeSet.empty
  | range first last => f.check (CodeSet.range first.char.toNat last.char.toNat)
  | ascii kind negated => f.close negated kind.members
  | property query negated => query.members f negated
  | shorthand kind negated => kind.meaning f negated
  | bracketed negated set => do f.close negated (← set.meaning f)
  | union items item => return (← items.meaning f).union (← item.meaning f)
  | operation operator left right =>
    return operator.apply (f.fold (← left.meaning f)) (f.fold (← right.meaning f))

/-- Where an assertion holds. -/
def Assertion.meaning (f : Flags) : Assertion → Look
  | lineStart => if f.multiLine then .lineStart f.crlf else .textStart
  | lineEnd => if f.multiLine then .lineEnd f.crlf else .textEnd
  | textStart => .textStart
  | textEnd => .textEnd
  | wordBoundary => .wordBoundary f.alphabet
  | notWordBoundary => .notWordBoundary f.alphabet
  | wordStart => .wordStart f.alphabet
  | wordEnd => .wordEnd f.alphabet
  | wordStartHalf => .wordStartHalf f.alphabet
  | wordEndHalf => .wordEndHalf f.alphabet

def dot (f : Flags) : CodeSet :=
  if f.dotMatchesNewline then CodeSet.full
  else (CodeSet.ofCodes (if f.crlf then [0x0A, 0x0D] else [0x0A])).compl

/-- What an expression looks for, and the flags in force after it. -/
def Expression.meaning (f : Flags) : Expression → Except Fault (Node × Flags)
  | empty => .ok (.empty, f)
  | flags change => .ok (.empty, f.change change)
  | literal l => do
    l.check f
    return (.one (f.fold (CodeSet.single l.char.toNat)), f)
  | .dot => if f.unicode then .ok (.one (Pattern.dot f), f) else .error .meaningless
  | assertion kind => .ok (.look (kind.meaning f), f)
  | property query negated => return (.one (← query.members f negated), f)
  | shorthand kind negated => return (.one (← kind.meaning f negated), f)
  | bracketed negated set => return (.one (← f.close negated (← set.meaning f)), f)
  | repetition body least most greedy => do
    let (node, f) ← body.meaning f
    return (node.repeated least most (greedy != f.swapGreed), f)
  | group change body => return ((← body.meaning (f.change change)).1, f)
  | sequence first rest => do
    let (a, f) ← first.meaning f
    let (b, f) ← rest.meaning f
    return (.sequence a b, f)
  | choice first rest => do
    let (a, f) ← first.meaning f
    let (b, f) ← rest.meaning f
    return (.choice a b, f)

end Readiness.Pattern
