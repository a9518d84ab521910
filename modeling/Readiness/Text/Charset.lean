import Readiness.Text.Quoted

/-! Text from bytes.

`Charset.ofLabel?` finds the encoding that a label stands for, and `Charset.decode` turns bytes into
text: a mark at the beginning that names an encoding decides and is left out, and bytes that mean
nothing become U+FFFD. -/

namespace Readiness.Text

/-- Ways of writing text in bytes. -/
inductive Charset
  | utf8
  | utf16 (bigEndian : Bool)
  /-- One byte for each character of western European languages. -/
  | western
deriving DecidableEq, Repr

namespace Charset

/-- The character that stands for bytes without a meaning. -/
def replacement : Char := '\ufffd'

/-- The number of further bytes of a character that starts with `b`, and the bounds of the first of
them. -/
def leadByte (b : UInt8) : Option (Nat × UInt8 × UInt8) :=
  if 0xC2 ≤ b ∧ b ≤ 0xDF then some (1, 0x80, 0xBF)
  else if b = 0xE0 then some (2, 0xA0, 0xBF)
  else if b = 0xED then some (2, 0x80, 0x9F)
  else if 0xE1 ≤ b ∧ b ≤ 0xEF then some (2, 0x80, 0xBF)
  else if b = 0xF0 then some (3, 0x90, 0xBF)
  else if b = 0xF4 then some (3, 0x80, 0x8F)
  else if 0xF1 ≤ b ∧ b ≤ 0xF3 then some (3, 0x80, 0xBF)
  else none

/-- A character of which some bytes have been read. -/
structure Pending where
  code : Nat
  missing : Nat
  low : UInt8
  high : UInt8

/-- Decodes UTF-8. A character that breaks off is replaced once. -/
def decodeUtf8 (pending : Option Pending) : List UInt8 → List Char
  | [] => if pending.isSome then [replacement] else []
  | b :: rest =>
    let start (b : UInt8) : List Char × Option Pending :=
      if b < 0x80 then ([Char.ofNat b.toNat], none)
      else match leadByte b with
        | none => ([replacement], none)
        | some (n, low, high) =>
          ([], some ⟨b.toNat % (if n = 1 then 32 else if n = 2 then 16 else 8), n, low, high⟩)
    let (out, next) :=
      match pending with
      | none => start b
      | some p =>
        if p.low ≤ b ∧ b ≤ p.high then
          let code := p.code * 64 + b.toNat % 64
          if p.missing = 1 then ([Char.ofNat code], none)
          else ([], some ⟨code, p.missing - 1, 0x80, 0xBF⟩)
        else
          let (out, next) := start b
          (replacement :: out, next)
    out ++ decodeUtf8 next rest

/-- The sixteen-bit units of bytes; an odd byte at the end is a unit without a meaning. -/
def units (bigEndian : Bool) : List UInt8 → List (Option Nat)
  | a :: b :: rest =>
    some (if bigEndian then a.toNat * 256 + b.toNat else b.toNat * 256 + a.toNat)
      :: units bigEndian rest
  | [_] => [none]
  | [] => []

/-- Decodes UTF-16, of which a first half may have been read. -/
def decodeUtf16 (pending : Option Nat) : List (Option Nat) → List Char
  | [] => if pending.isSome then [replacement] else []
  | none :: rest => replacement :: decodeUtf16 none rest
  | some u :: rest =>
    let isHigh := 0xD800 ≤ u ∧ u < 0xDC00
    let isLow := 0xDC00 ≤ u ∧ u < 0xE000
    match pending with
    | some high =>
      if isLow then
        Char.ofNat (0x10000 + (high - 0xD800) * 1024 + (u - 0xDC00)) :: decodeUtf16 none rest
      else if isHigh then replacement :: decodeUtf16 (some u) rest
      else replacement :: Char.ofNat u :: decodeUtf16 none rest
    | none =>
      if isHigh then decodeUtf16 (some u) rest
      else if isLow then replacement :: decodeUtf16 none rest
      else Char.ofNat u :: decodeUtf16 none rest

/-- The characters of the bytes from 0x80 to 0x9F in western text. -/
def westernHigh : List Char :=
  "€\x81‚ƒ„…†‡ˆ‰Š‹Œ\x8dŽ\x8f\x90‘’“”•–—˜™š›œ\x9džŸ".toList

def decodeWestern (bytes : List UInt8) : List Char :=
  bytes.map fun b =>
    if 0x80 ≤ b ∧ b < 0xA0 then (westernHigh[b.toNat - 0x80]?).getD replacement
    else Char.ofNat b.toNat

def decodeAs (charset : Charset) (bytes : List UInt8) : List Char :=
  match charset with
  | .utf8 => decodeUtf8 none bytes
  | .utf16 bigEndian => decodeUtf16 none (units bigEndian bytes)
  | .western => decodeWestern bytes

/-- Decodes bytes; `charset` counts only if no mark at the beginning says otherwise. -/
def decode (charset : Charset) (bytes : List UInt8) : String :=
  String.ofList <| match bytes with
    | 0xEF :: 0xBB :: 0xBF :: rest => decodeAs .utf8 rest
    | 0xFF :: 0xFE :: rest => decodeAs (.utf16 false) rest
    | 0xFE :: 0xFF :: rest => decodeAs (.utf16 true) rest
    | bytes => decodeAs charset bytes

/-- The encoding of a label, in lower case and without blanks around it. -/
def ofLabel? (label : String) : Option Charset :=
  if ["utf-8", "utf8", "unicode-1-1-utf-8", "unicode11utf8", "unicode20utf8",
      "x-unicode20utf8"].contains label then some .utf8
  else if ["utf-16", "utf-16le", "csunicode", "iso-10646-ucs-2", "ucs-2", "unicode",
      "unicodefeff"].contains label then some (.utf16 false)
  else if ["utf-16be", "unicodefffe"].contains label then some (.utf16 true)
  else if ["ansi_x3.4-1968", "ascii", "cp1252", "cp819", "csisolatin1", "ibm819", "iso-8859-1",
      "iso-ir-100", "iso8859-1", "iso88591", "iso_8859-1", "iso_8859-1:1987", "l1", "latin1",
      "us-ascii", "windows-1252", "x-cp1252"].contains label then some .western
  else none

example : decode .utf8 [0xEF, 0xBB, 0xBF, 0x4F, 0x4B] = "OK" := by decide +kernel
example : decode .utf8 [0x4F, 0xF0, 0x9F, 0x98] = "O\ufffd" := by decide +kernel

end Charset

end Readiness.Text
