/-! Bytes in 64 letters. -/

namespace Readiness.Text

/-- The letter for six bits. -/
def base64Letter (n : Nat) : Char :=
  if n < 26 then Char.ofNat (65 + n)
  else if n < 52 then Char.ofNat (97 + (n - 26))
  else if n < 62 then Char.ofNat (48 + (n - 52))
  else if n = 62 then '+'
  else '/'

/-- Four letters for each three bytes; a shorter end is filled up with equals signs. -/
def base64 : List UInt8 → List Char
  | a :: b :: c :: rest =>
    let n := (a.toNat * 256 + b.toNat) * 256 + c.toNat
    base64Letter (n / 0x40000) :: base64Letter (n / 0x1000 % 64) :: base64Letter (n / 64 % 64)
      :: base64Letter (n % 64) :: base64 rest
  | [a, b] =>
    let n := (a.toNat * 256 + b.toNat) * 4
    [base64Letter (n / 0x1000), base64Letter (n / 64 % 64), base64Letter (n % 64), '=']
  | [a] => [base64Letter (a.toNat / 4), base64Letter (a.toNat % 4 * 16), '=', '=']
  | [] => []

example : String.ofList (base64 "admin:s3cr3t".toUTF8.toList) = "YWRtaW46czNjcjN0" := by
  decide +kernel

end Readiness.Text
