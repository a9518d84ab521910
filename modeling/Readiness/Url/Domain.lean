import Readiness.Unicode.Category
import Readiness.Unicode.Composed
import Readiness.Unicode.Direction
import Readiness.Unicode.Joining
import Readiness.Url.Domain.Mapping
import Readiness.Url.Domain.Punycode
import Readiness.Url.Fault

/-! Domain names.

`Domain.toAscii` brings a name into the form in which it is looked up. Characters are first replaced
and composed; the name is then taken label by label, and a label beyond ASCII is encoded. A label
that is already encoded has to be one that this would give. -/

namespace Readiness.Url.Domain

open Readiness.Unicode

/-- Characters that end or confuse a host, and so are in no domain. -/
def isForbidden (c : Char) : Bool :=
  c.toNat < 0x20 || c.toNat = 0x7F || " #%/:<>?@[\\]^|".toList.contains c

def isAscii (s : List Char) : Bool := s.all fun c => c.toNat < 0x80

def replace? (c : Char) : Option (List Char) :=
  if c.toNat < 0x80 then some [c.toLower]
  else if leftOut.hasChar c then some []
  else match Replacement.find? replacements c.toNat with
    | some codes => some (codes.map Char.ofNat)
    | none => if kept.hasChar c then some [c] else none

/-- A name after replacement, in composed form. -/
def prepare? (s : List Char) : Option (List Char) :=
  (s.mapM replace?).map fun parts => composed parts.flatten

def labels : List Char → List (List Char)
  | [] => [[]]
  | c :: s =>
    match labels s with
    | [] => [[c]]
    | first :: rest => if c = '.' then [] :: first :: rest else (c :: first) :: rest

/-- The rank of marks that silence the vowel of a letter. -/
def isVirama (c : Char) : Bool := combiningClass c = 9

/-- Whether letters on both sides, the first of them before, would join. -/
def joins (before after : List Char) : Bool :=
  let skip := fun c => joiningTransparent.hasChar c
  (((before.dropWhile skip).head?.any fun c => joiningBoth.hasChar c || joiningNext.hasChar c))
    && ((after.dropWhile skip).head?.any fun c =>
      joiningBoth.hasChar c || joiningPrevious.hasChar c)

/-- Whether joiners stand only where they change how letters are written; `before` has the
characters already passed, last first. -/
def joinersFit (before : List Char) : List Char → Bool
  | [] => true
  | c :: rest =>
    (if c = '\u200d' then before.head?.any isVirama
      else if c = '\u200c' then before.head?.any isVirama || joins before rest
      else true) && joinersFit (c :: before) rest

/-- Whether a character is a mark, which needs another one before it. -/
def isMark (c : Char) : Bool := (Category.anyOf Category.marks).hasChar c

/-- What the labels written in letters, digits and hyphens begin with. -/
def sign : List Char := "xn--".toList

/-- Whether a label beyond ASCII may be encoded: it is what replacement would give, and neither its
start nor its joiners need what is not there. -/
def isProper (label : List Char) : Bool :=
  label.all (fun c => replace? c == some [c]) && composed label == label
    && !label.head?.any isMark && joinersFit [] label && !sign.isPrefixOf label

/-- Whether the directions in a label fit together. In one that starts from the right there are no
letters from the left and only one kind of digits, and it ends with a letter or digit, marks apart;
in one that starts from the left there are no letters from the right. -/
def directionFits (label : List Char) : Bool :=
  let directions := label.map Direction.ofChar
  let last := (directions.reverse.dropWhile (· == .mark)).head?
  match directions.head? with
  | none => true
  | some .right =>
    !directions.contains .left
      && !(directions.contains .arabicNumber && directions.contains .europeanNumber)
      && last != some .neutral
  | some .left =>
    !directions.contains .right && !directions.contains .arabicNumber && last != some .neutral
  | some _ => false

/-- Whether the directions in all labels fit together; they do if all is written from the left. -/
def directionsFit (labels : List (List Char)) : Bool :=
  labels.all isAscii
    || labels.all (fun label => label.all fun c =>
        let d := Direction.ofChar c
        d != .right && d != .arabicNumber)
    || labels.all directionFits

def longestPlain : Nat := 1000

def longestEncoded : Nat := 2000

/-- A label as it is read, and as it is looked up. -/
def forms? (label : List Char) : Option (List Char × List Char) :=
  if isAscii label then
    if sign.isPrefixOf label then do
      let encoded := label.drop sign.length
      let plain ← if encoded.length ≤ longestEncoded then Punycode.decode? encoded else none
      if !isAscii plain && isProper plain then return (plain, label) else none
    else some (label, label)
  else if isProper label && label.length ≤ longestPlain then
    some (label, sign ++ Punycode.encode label)
  else none

/-- The form of a domain in which it is looked up. -/
def toAscii? (name : List Char) : Option (List Char) := do
  let prepared ← prepare? name
  let forms ← (labels prepared).mapM forms?
  let ascii := List.intercalate ['.'] (forms.map (·.2))
  if directionsFit (forms.map (·.1)) && !ascii.any isForbidden then return ascii else none

/-- The form in which a domain, given in UTF-8, is looked up. -/
def toAscii (bytes : List UInt8) : Except Fault (List Char) :=
  match (String.fromUTF8? ⟨bytes.toArray⟩).bind fun text => toAscii? text.toList with
  | none => .error .internationalDomain
  | some name => .ok name

example : toAscii? "Example.COM.".toList = some "example.com.".toList := by decide +kernel
example : toAscii? "a b".toList = none := by decide +kernel

end Readiness.Url.Domain
