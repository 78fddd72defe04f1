/-!
# Sets of characters

A property of characters is kept as the ranges of code points that have it.
-/

namespace RunEngine.Unicode

/-- Whether a character lies in one of the ranges, both ends included. -/
def covers (ranges : List (Nat × Nat)) (c : Char) : Bool :=
  ranges.any fun (first, last) => first ≤ c.toNat && c.toNat ≤ last

end RunEngine.Unicode
