/-!
# Digits

The values of digits and of numbers written in digits alone.
-/

namespace RunEngine.Text

/-- The value of a character as a digit in a base up to 36; letters count in either case. -/
def digit? (base : Nat) (c : Char) : Option Nat :=
  let value :=
    if c.isDigit then some (c.toNat - '0'.toNat)
    else if c.isLower then some (c.toNat - 'a'.toNat + 10)
    else if c.isUpper then some (c.toNat - 'A'.toNat + 10)
    else none
  value.filter fun d => d < base

/-- The number that the digits in `cs` continue, after those that came to `n`. -/
def numberFrom (base : Nat) : (n : Nat) → List Char → Option Nat
  | n, [] => some n
  | n, c :: rest =>
    match digit? base c with
    | some d => numberFrom base (n * base + d) rest
    | none => none

/-- A natural number: one or more digits and nothing else. -/
def natural? (base : Nat) (cs : List Char) : Option Nat :=
  if cs.isEmpty then none else numberFrom base 0 cs

end RunEngine.Text
