/-!
# Base64

Bytes as text of sixty-four signs. Three bytes are four signs; a group at the end that has fewer
bytes is filled up with equals signs.
-/

namespace Assay.Text.Base64

/-- The sign of a number below sixty-four. -/
def sign (n : Nat) : Char :=
  if n < 26 then Char.ofNat (65 + n)
  else if n < 52 then Char.ofNat (71 + n)
  else if n < 62 then Char.ofNat (n - 4)
  else if n = 62 then '+'
  else '/'

/-- The four signs of a group of up to twenty-four bits. -/
def signs (n : Nat) : List Char :=
  [sign (n / 262144 % 64), sign (n / 4096 % 64), sign (n / 64 % 64), sign (n % 64)]

/-- The signs of some bytes. -/
def encode : List UInt8 → List Char
  | [] => []
  | [a] => (signs (65536 * a.toNat)).take 2 ++ ['=', '=']
  | [a, b] => (signs (65536 * a.toNat + 256 * b.toNat)).take 3 ++ ['=']
  | a :: b :: c :: rest => signs (65536 * a.toNat + 256 * b.toNat + c.toNat) ++ encode rest

end Assay.Text.Base64
