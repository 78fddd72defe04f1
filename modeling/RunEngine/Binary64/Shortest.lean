import RunEngine.Binary64.Basic

/-!
# The shortest decimal of a float

Of all decimals that read back as a given float, `shortest` picks one with the fewest digits, and
among those the nearest to the float, an exact tie going to the even last digit.

The decimals that read back are those in the interval of reals that round to the float. The grids
`10 ^ t` are searched from the coarsest on. If any point of a grid lies in the interval then one
of the two grid points next to the float does, so looking at those two is enough.
-/

namespace RunEngine.Binary64

/-- The reals that round to a positive float, as numerators over a common denominator. -/
structure RoundingInterval where
  low : Nat
  value : Nat
  high : Nat
  denominator : Nat
  /-- Whether the two ends themselves round to the float. -/
  closed : Bool

/-- The interval of a positive finite float `m · 2 ^ q`. Its ends lie half way to the neighbouring
floats. The lower neighbour of a power of two is only half as far away as the upper one, unless the
float has the smallest exponent. -/
def roundingInterval (x : Binary64) : RoundingInterval :=
  let m := x.significand
  let below := if x.fraction = 0 ∧ 1 < x.biasedExponent then 1 else 2
  let quarter := x.exponent - 2
  let up := Nat.pow 2 quarter.toNat
  { low := (4 * m - below) * up
    value := 4 * m * up
    high := (4 * m + 2) * up
    denominator := Nat.pow 2 (-quarter).toNat
    closed := m % 2 == 0 }

/-- Whether `d · 10 ^ t` lies in the interval. -/
def RoundingInterval.holds (r : RoundingInterval) (d : Nat) (t : Int) : Bool :=
  let point := d * Nat.pow 10 t.toNat * r.denominator
  let scale := Nat.pow 10 (-t).toNat
  if r.closed then r.low * scale ≤ point && point ≤ r.high * scale
  else r.low * scale < point && point < r.high * scale

/-- The point of the grid `10 ^ t` in the interval that is nearest to the float, if there is one. -/
def RoundingInterval.onGrid? (r : RoundingInterval) (t : Int) : Option Nat :=
  let num := r.value * Nat.pow 10 (-t).toNat
  let den := r.denominator * Nat.pow 10 t.toNat
  let d := num / den
  match r.holds d t, r.holds (d + 1) t with
  | true, true => some (divRoundEven num den)
  | true, false => some d
  | false, true => some (d + 1)
  | false, false => none

/-- Search the grids `10 ^ t`, `10 ^ (t - 1)`, … -/
def RoundingInterval.search (r : RoundingInterval) : Nat → Int → Nat × Int
  | 0, t => (r.value * Nat.pow 10 (-t).toNat / (r.denominator * Nat.pow 10 t.toNat), t)
  | grids + 1, t =>
    match r.onGrid? t with
    | some d => (d, t)
    | none => r.search grids (t - 1)

/-- Digits `d` and exponent `t` of the shortest decimal `d · 10 ^ t` of a positive finite float.
The search starts above the float's leading digit; seventeen digits always suffice. -/
def shortest (x : Binary64) : Nat × Int :=
  let leading := ((x.significand.log2 : Int) + x.exponent) * 30103 / 100000 + 1
  (roundingInterval x).search 22 leading

end RunEngine.Binary64
