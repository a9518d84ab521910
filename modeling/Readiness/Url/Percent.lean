import Readiness.Text.Quoted

/-! Percent encoding.

A character is encoded as `%XX` for each byte of its UTF-8 form. Which characters are encoded
depends on the part of the URL: `inFragment`, `inPath`, `inUserinfo` and `inQuery` name the parts.
Characters beyond ASCII and control characters are encoded everywhere. -/

namespace Readiness.Url.Percent

/-- Characters that no part of a URL holds as they are. -/
def everywhere (c : Char) : Bool := c.toNat < 0x20 || 0x7F ≤ c.toNat

def inFragment (c : Char) : Bool := everywhere c || " \"<>`".toList.contains c

def inPath (c : Char) : Bool := inFragment c || "#?\x7b\x7d".toList.contains c

def inUserinfo (c : Char) : Bool := inPath c || "/:;=@[\\]^|".toList.contains c

def inQuery (c : Char) : Bool := everywhere c || " \"#<>".toList.contains c

/-- Schemes with a meaning of their own also encode the apostrophe in a query. -/
def inSpecialQuery (c : Char) : Bool := inQuery c || c = '\''

/-- Digits of hexadecimal numbers in upper case. -/
def upperHex (n : Nat) : Char := (Nat.digitChar n).toUpper

/-- A byte as a percent sign and two digits. -/
def encodeByte (b : UInt8) : List Char :=
  ['%', upperHex (b.toNat / 16), upperHex (b.toNat % 16)]

/-- A character, encoded if `encoded` says so. -/
def encodeChar (encoded : Char → Bool) (c : Char) : List Char :=
  if encoded c then (String.singleton c).toUTF8.toList.flatMap encodeByte else [c]

/-- A text in which the given characters are encoded. -/
def encode (encoded : Char → Bool) (s : List Char) : List Char := s.flatMap (encodeChar encoded)

def hexValue? (b : UInt8) : Option Nat :=
  if 48 ≤ b ∧ b ≤ 57 then some (b.toNat - 48)
  else if 97 ≤ b ∧ b ≤ 102 then some (b.toNat - 87)
  else if 65 ≤ b ∧ b ≤ 70 then some (b.toNat - 55)
  else none

/-- Replaces each `%XX` by its byte; a percent sign without two digits stands for itself. -/
def decodeBytes : List UInt8 → List UInt8
  | 37 :: a :: b :: rest =>
    match hexValue? a, hexValue? b with
    | some x, some y => (x * 16 + y).toUInt8 :: decodeBytes rest
    | _, _ => 37 :: decodeBytes (a :: b :: rest)
  | b :: rest => b :: decodeBytes rest
  | [] => []

def decode (s : String) : List UInt8 := decodeBytes s.toUTF8.toList

example : String.ofList (encode inPath "a b\"".toList) = "a%20b%22" := by decide +kernel

end Readiness.Url.Percent
