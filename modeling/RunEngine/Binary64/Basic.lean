/-!
# Binary64 floating-point numbers

A float is its 64 bits: a sign, an 11-bit biased exponent and a 52-bit fraction. Everything here
works on the bits in exact integer arithmetic. A finite float is `significand · 2 ^ exponent`, and
`ofRatio` gives the float nearest to a quotient of naturals, ties going to the even significand.
-/

namespace RunEngine

/-- A binary64 float, by its bits. -/
structure Binary64 where
  bits : UInt64
  deriving DecidableEq, Inhabited

namespace Binary64

/-! ## Fields -/

/-- Whether the sign bit is set. -/
def negative (x : Binary64) : Bool := Nat.pow 2 63 ≤ x.bits.toNat

/-- The exponent field. -/
def biasedExponent (x : Binary64) : Nat := x.bits.toNat / Nat.pow 2 52 % Nat.pow 2 11

/-- The fraction field. -/
def fraction (x : Binary64) : Nat := x.bits.toNat % Nat.pow 2 52

/-- Neither infinite nor a NaN. -/
def isFinite (x : Binary64) : Bool := x.biasedExponent < 2047

/-- Zero of either sign. -/
def isZero (x : Binary64) : Bool := x.biasedExponent == 0 && x.fraction == 0

/-- The integer `m` of a finite float `± m · 2 ^ q`. -/
def significand (x : Binary64) : Nat :=
  if x.biasedExponent = 0 then x.fraction else x.fraction + Nat.pow 2 52

/-- The exponent `q` of a finite float `± m · 2 ^ q`. -/
def exponent (x : Binary64) : Int := max (x.biasedExponent : Int) 1 - 1075

/-- The float with the given sign and the other 63 bits read as a number. -/
def ofMagnitude (negative : Bool) (magnitude : Nat) : Binary64 :=
  ⟨UInt64.ofNat (magnitude + if negative then Nat.pow 2 63 else 0)⟩

/-- The 63 bits of infinity. -/
def infinityMagnitude : Nat := 2047 * Nat.pow 2 52

def zero (negative : Bool) : Binary64 := ofMagnitude negative 0

def infinity (negative : Bool) : Binary64 := ofMagnitude negative infinityMagnitude

def nan : Binary64 := ofMagnitude false (infinityMagnitude + Nat.pow 2 51)

/-- The float of the opposite sign. -/
def neg (x : Binary64) : Binary64 :=
  ofMagnitude (!x.negative) (x.biasedExponent * Nat.pow 2 52 + x.fraction)

/-! ## Rounding -/

/-- The integer nearest to `num / den`, the even one of two. -/
def divRoundEven (num den : Nat) : Nat :=
  let q := num / den
  let r := num % den
  if 2 * r < den ∨ 2 * r = den ∧ q % 2 = 0 then q else q + 1

/-- The largest `k` with `2 ^ k ≤ num / den`, for positive `num` and `den`. -/
def floorLogRatio (num den : Nat) : Int :=
  let k : Int := num.log2 - den.log2
  if 0 ≤ k then
    if den * Nat.pow 2 k.toNat ≤ num then k else k - 1
  else
    if den ≤ num * Nat.pow 2 (-k).toNat then k else k - 1

/-- The float nearest to `± num / den`, for a positive `den`. Past the largest finite float it is
infinite. The significand is rounded on the grid of the quotient's own power of two, which is never
finer than that of the smallest floats; a significand rounded up to the next power of two carries
into the exponent field by itself. -/
def ofRatio (negative : Bool) (num den : Nat) : Binary64 :=
  if num = 0 then zero negative
  else
    let q := max (floorLogRatio num den - 52) (-1074)
    let m :=
      if 0 ≤ q then divRoundEven num (den * Nat.pow 2 q.toNat)
      else divRoundEven (num * Nat.pow 2 (-q).toNat) den
    ofMagnitude negative (min ((q + 1074).toNat * Nat.pow 2 52 + m) infinityMagnitude)

/-- The float nearest to an integer. -/
def ofInt (n : Int) : Binary64 := ofRatio (n < 0) n.natAbs 1

/-- The float nearest to `± digits · 10 ^ exponent`. The two guards answer at once where the
powers of ten would be far outside the range of floats. -/
def ofDecimal (negative : Bool) (digits : Nat) (exponent : Int) : Binary64 :=
  let places : Int := digits.log2 / 3 + 1
  if digits = 0 then zero negative
  else if 310 < exponent then infinity negative
  else if exponent + places < -330 then zero negative
  else if 0 ≤ exponent then ofRatio negative (digits * Nat.pow 10 exponent.toNat) 1
  else ofRatio negative digits (Nat.pow 10 (-exponent).toNat)

/-! ## Products and quotients -/

/-- The quotient `num / den` of the magnitudes that the powers of two leave. -/
private def ofScaledRatio (negative : Bool) (num den : Nat) (power : Int) : Binary64 :=
  if 0 ≤ power then ofRatio negative (num * Nat.pow 2 power.toNat) den
  else ofRatio negative num (den * Nat.pow 2 (-power).toNat)

/-- The float nearest to the product of two finite floats. -/
def mul (x y : Binary64) : Binary64 :=
  ofScaledRatio (x.negative != y.negative) (x.significand * y.significand) 1
    (x.exponent + y.exponent)

/-- The float nearest to the quotient of two finite floats, the second not zero. -/
def div (x y : Binary64) : Binary64 :=
  ofScaledRatio (x.negative != y.negative) x.significand y.significand (x.exponent - y.exponent)

end Binary64

end RunEngine
