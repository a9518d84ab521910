import Readiness.Unicode.CodeSet

/-! White space. -/

namespace Readiness.Unicode

/-- The code points with the property of white space. -/
def blanks : CodeSet :=
  CodeSet.ofRanges [(0x9, 0xD), (0x20, 0x20), (0x85, 0x85), (0xA0, 0xA0), (0x1680, 0x1680),
    (0x2000, 0x200A), (0x2028, 0x2029), (0x202F, 0x202F), (0x205F, 0x205F), (0x3000, 0x3000)]

/-- Whether a character is white space. -/
def isBlank (c : Char) : Bool := blanks.hasChar c

/-- A text without the white space at both ends. -/
def trim (s : List Char) : List Char :=
  ((s.dropWhile isBlank).reverse.dropWhile isBlank).reverse

example : trim " \t25\u3000".toList = "25".toList := by decide +kernel

end Readiness.Unicode
