import RunEngine.Json.Basic

/-!
# JSON numerals

The digits of a numeral, and the number it stands for. A numeral without fraction and exponent
that fits 64 bits, signed or unsigned, is an integer; every other one is a float, minus zero too.

A float numeral is read by a fixed procedure, which is exact only for short numerals: the leading
digits that fit an unsigned 64-bit integer are rounded to a float, which is then multiplied or
divided by powers of ten, rounding at each step. A numeral that leaves the range of floats stands
for no number.
-/

namespace RunEngine

/-- The parts of a numeral, its digits as numbers from 0 to 9. -/
structure Numeral where
  negative : Bool
  whole : List Nat
  /-- The digits after the decimal point, if there is one. -/
  fraction : Option (List Nat)
  /-- The sign and the digits of the exponent, if there is one. -/
  exponent : Option (Bool × List Nat)

namespace Numeral

/-- The number written by decimal digits. -/
def ofDigits (digits : List Nat) : Nat := digits.foldl (fun n d => n * 10 + d) 0

/-- The largest integer kept exactly. -/
def maxSignificand : Nat := 0xffffffffffffffff

/-- Append digits to a significand as long as they fit. Gives the significand, how many digits were
taken and how many were left. -/
def accumulate (significand : Nat) : List Nat → Nat × Nat × Nat
  | [] => (significand, 0, 0)
  | d :: rest =>
    if significand * 10 + d ≤ maxSignificand then
      let (s, taken, left) := accumulate (significand * 10 + d) rest
      (s, taken + 1, left)
    else (significand, 0, rest.length + 1)

/-- `x · 10 ^ exponent`, scaled by at most 308 places at a time. Absent when it is infinite. Two
steps down from a 64-bit significand reach zero, so `steps` never runs out. -/
def scale : (steps : Nat) → Binary64 → Int → Option Binary64
  | 0, x, _ => some x
  | steps + 1, x, exponent =>
    if exponent.natAbs ≤ 308 then
      let power := Binary64.ofDecimal false 1 exponent.natAbs
      if 0 ≤ exponent then
        let y := x.mul power
        if y.isFinite then some y else none
      else some (x.div power)
    else if x.isZero then some x
    else if 0 ≤ exponent then none
    else scale steps (x.div (Binary64.ofDecimal false 1 308)) (exponent + 308)

/-- The float `± significand · 10 ^ exponent`. -/
def toFloat (negative : Bool) (significand : Nat) (exponent : Int) : Option Number :=
  (scale 8 (Binary64.ofInt significand) exponent).map fun x =>
    .float (if negative then x.neg else x)

/-- The number the numeral stands for. An exponent beyond 32 bits makes it zero, or takes it out of
range, without being computed. -/
def toNumber? (n : Numeral) : Option Number :=
  let (whole, _, dropped) := accumulate 0 n.whole
  let (significand, taken, _) := accumulate whole (n.fraction.getD [])
  let places : Int := (dropped : Int) - taken
  match n.fraction, n.exponent with
  | none, none =>
    if 0 < dropped then toFloat n.negative whole places
    else if n.negative then
      if 0 < whole ∧ whole ≤ 0x8000000000000000 then some (.int (-whole))
      else toFloat true whole 0
    else some (.int whole)
  | _, none => toFloat n.negative significand places
  | _, some (down, digits) =>
    let power := ofDigits digits
    if 0x80000000 ≤ power then
      if significand ≠ 0 ∧ !down then none else some (.float (.zero n.negative))
    else toFloat n.negative significand (if down then places - power else places + power)

end Numeral

end RunEngine
