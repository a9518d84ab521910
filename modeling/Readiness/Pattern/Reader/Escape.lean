import Readiness.Pattern.Reader.Basic

/-! Reading escapes.

`escape` reads what follows a backslash: a character by its code, a set of characters, a place, or a
character that has no meaning of its own there. -/

namespace Readiness.Pattern

open Reader

/-- Whether a character is a hexadecimal digit, in either case. -/
def isHexDigit (c : Char) : Bool :=
  c.isDigit || ('a' ≤ c && c ≤ 'f') || ('A' ≤ c && c ≤ 'F')

def hexValue (c : Char) : Nat :=
  if c.isDigit then c.toNat - '0'.toNat else c.toLower.toNat - 'a'.toNat + 10

/-- The character of a code in hexadecimal digits. -/
def charOfHex? (digits : List Char) : Option Char :=
  let code := digits.foldl (fun n c => n * 16 + hexValue c) 0
  if !digits.isEmpty && digits.all isHexDigit && code.isValidChar then some (Char.ofNat code)
  else none

/-- Takes `n` hexadecimal digits. -/
def hexDigits : Nat → Reader (List Char)
  | 0 => return []
  | n + 1 => do
    let c ← take
    skip
    return c :: (← hexDigits n)

/-- A character by its code: in braces, or in exactly `n` digits. -/
def hexLiteral (n : Nat) : Reader Literal := do
  skip
  match ← rest with
  | '\x7b' :: s =>
    setRest s
    return ⟨← charOfHex? (← braced), false⟩
  | _ => return ⟨← charOfHex? (← hexDigits n), n = 2⟩

/-- Which set is asked for between braces. -/
def PropertyQuery.ofText (text : List Char) : PropertyQuery :=
  match splitAt? ['!', '='] text <|> splitAt? [':'] text <|> splitAt? ['='] text with
  | some (key, wanted) => .value key wanted
  | none => .name text

/-- A set by one letter, or by what stands between braces. -/
def propertyQuery : Reader PropertyQuery := do
  skip
  match ← rest with
  | [] => failure
  | '\\' :: _ => failure
  | '\x7b' :: s =>
    setRest s
    return .ofText (← braced)
  | c :: s =>
    skipTo s
    return .name [c]

/-- Characters with a meaning of their own, which a backslash takes away. -/
def isMeta (c : Char) : Bool := "\\.+*?()|[]\x7b\x7d^$#&-~".toList.contains c

/-- Characters that may be written after a backslash and stand for themselves. -/
def isEscapable (c : Char) : Bool :=
  isMeta c || (c.toNat < 0x80 && !c.isAlphanum && c != '<' && c != '>')

/-- The kinds of place that are named in braces after `\b`. -/
def boundaryKind? (name : List Char) : Option Assertion :=
  match String.ofList name with
  | "start" => some .wordStart
  | "end" => some .wordEnd
  | "start-half" => some .wordStartHalf
  | "end-half" => some .wordEndHalf
  | _ => none

/-- What follows `\b`: the name of a kind of place in braces, or nothing. Braces that begin with
something else are left for a repetition. -/
def boundary : Reader Assertion := do
  let input ← get
  match input.rest with
  | '\x7b' :: s =>
    match untilBrace input.ignoreSpace false s with
    | none => failure
    | some (content, after) =>
      if content.head?.any fun c => c.isAlpha || c = '-' then
        setRest after
        boundaryKind? content
      else return .wordBoundary
  | _ => return .wordBoundary

/-- What follows a backslash. -/
def escape : Reader Expression := do
  let c ← take
  match c with
  | 'x' => return .literal (← hexLiteral 2)
  | 'u' => return .literal (← hexLiteral 4)
  | 'U' => return .literal (← hexLiteral 8)
  | 'p' => return .property (← propertyQuery) false
  | 'P' => return .property (← propertyQuery) true
  | 'd' => return .shorthand .digit false
  | 's' => return .shorthand .space false
  | 'w' => return .shorthand .word false
  | 'D' => return .shorthand .digit true
  | 'S' => return .shorthand .space true
  | 'W' => return .shorthand .word true
  | 'a' => return .literal ⟨'\x07', false⟩
  | 'f' => return .literal ⟨'\x0c', false⟩
  | 't' => return .literal ⟨'\t', false⟩
  | 'n' => return .literal ⟨'\n', false⟩
  | 'r' => return .literal ⟨'\r', false⟩
  | 'v' => return .literal ⟨'\x0b', false⟩
  | 'A' => return .assertion .textStart
  | 'z' => return .assertion .textEnd
  | 'b' => return .assertion (← boundary)
  | 'B' => return .assertion .notWordBoundary
  | '<' => return .assertion .wordStart
  | '>' => return .assertion .wordEnd
  | c => if isEscapable c then return .literal ⟨c, false⟩ else failure

/-- A part of one character or escape. -/
def primitive : Reader Expression := do
  match ← take with
  | '\\' => escape
  | '.' => return .dot
  | '^' => return .assertion .lineStart
  | '$' => return .assertion .lineEnd
  | c => return .literal ⟨c, false⟩

end Readiness.Pattern
