import Readiness.Unicode.Printable

/-! Quoted text and quoted bytes.

`quote` writes a text between double quotes so that every character can be told from the picture:
quotes, backslashes and the usual control characters get short escapes, and whatever is not shown
(`Unicode.isShown`) is written by its code point. `quoteBytes` does the same for bytes, and
`quoteHeaderValue` is the looser form used for header values. -/

namespace Readiness.Text

def hex (n : Nat) : String := String.ofList (Nat.toDigits 16 n)

def hexByte (b : UInt8) : String :=
  let digits := Nat.toDigits 16 b.toNat
  String.ofList (List.replicate (2 - digits.length) '0' ++ digits)

def escapeChar (c : Char) : String :=
  match c with
  | '\x00' => "\\0"
  | '\t' => "\\t"
  | '\n' => "\\n"
  | '\r' => "\\r"
  | '"' => "\\\""
  | '\\' => "\\\\"
  | c => if Unicode.isShown c then String.singleton c else "\\u\x7b" ++ hex c.toNat ++ "\x7d"

def quote (s : String) : String := "\"" ++ String.join (s.toList.map escapeChar) ++ "\""

def escapeByte (b : UInt8) : String :=
  if b = 0 then "\\0"
  else if b = 9 then "\\t"
  else if b = 10 then "\\n"
  else if b = 13 then "\\r"
  else if b = 0x22 then "\\\""
  else if b = 0x5C then "\\\\"
  else if 0x20 ≤ b ∧ b < 0x7F then String.singleton (Char.ofNat b.toNat)
  else "\\x" ++ hexByte b

/-- Bytes between quotes, after a letter that says so. -/
def quoteBytes (bytes : List UInt8) : String :=
  "b\"" ++ String.join (bytes.map escapeByte) ++ "\""

/-- A byte of a header value: visible ones stand for themselves, a backslash too. -/
def escapeHeaderByte (b : UInt8) : String :=
  if b = 0x22 then "\\\""
  else if b = 9 ∨ (0x20 ≤ b ∧ b < 0x7F) then String.singleton (Char.ofNat b.toNat)
  else "\\x" ++ hex b.toNat

def quoteHeaderValue (bytes : List UInt8) : String :=
  "\"" ++ String.join (bytes.map escapeHeaderByte) ++ "\""

example : quote "a\"b\n" = "\"a\\\"b\\n\"" := by decide +kernel
example : quoteBytes [0, 255, 0x22] = "b\"\\0\\xff\\\"\"" := by decide +kernel

end Readiness.Text
