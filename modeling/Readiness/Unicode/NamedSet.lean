import Readiness.Unicode.CodeSet

/-! Sets of code points that are known by name.

Names are compared in the form `foldName` gives them, in which `Old_Italic`, `old italic` and
`isOldItalic` are the same. -/

namespace Readiness.Unicode

/-- A set of code points with its names. -/
structure NamedSet where
  names : List String
  /-- The set, made when it is asked for. -/
  members : Unit → CodeSet

/-- The form in which names are compared: in lower case, without blanks, low lines and hyphens, and
without `is` at the front, which stays only where nothing but a `c` follows. -/
def foldName (name : List Char) : List Char :=
  let isKept (c : Char) : Bool := c.toNat < 0x80 && !" _-".toList.contains c
  let plain (s : List Char) := (s.filter isKept).map Char.toLower
  match name with
  | i :: s :: rest =>
    if i.toLower = 'i' && s.toLower = 's' then
      if plain rest = ['c'] then ['i', 's', 'c'] else plain rest
    else plain name
  | _ => plain name

example : foldName "isOld italic".toList = "olditalic".toList := by decide +kernel

def NamedSet.find? (sets : List NamedSet) (name : List Char) : Option CodeSet :=
  let wanted := foldName name
  (sets.find? fun s => s.names.any fun n => foldName n.toList == wanted).map fun s => s.members ()

end Readiness.Unicode
