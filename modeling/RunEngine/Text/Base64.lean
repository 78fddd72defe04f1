/-!
# Base64

Bytes written with letters, digits, `+` and `/`, three bytes with four of them. `=` fills up the
last four.
-/

namespace RunEngine.Text

/-- The character for six bits. -/
def base64Digit (n : Nat) : Char :=
  if n < 26 then Char.ofNat (65 + n)
  else if n < 52 then Char.ofNat (97 + (n - 26))
  else if n < 62 then Char.ofNat (48 + (n - 52))
  else if n = 62 then '+'
  else '/'

/-- The characters for some multiple of six bits, the highest first. -/
def base64Digits : (count : Nat) → Nat → List Char
  | 0, _ => []
  | count + 1, n => base64Digits count (n / 64) ++ [base64Digit (n % 64)]

def base64 : List UInt8 → List Char
  | [] => []
  | [a] => base64Digits 2 (a.toNat * 16) ++ ['=', '=']
  | [a, b] => base64Digits 3 ((a.toNat * 256 + b.toNat) * 4) ++ ['=']
  | a :: b :: c :: rest =>
    base64Digits 4 ((a.toNat * 256 + b.toNat) * 256 + c.toNat) ++ base64 rest

end RunEngine.Text
