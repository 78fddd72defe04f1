import RunEngine.Domain.Mapping.Disallowed
import RunEngine.Domain.Mapping.Sequence
import RunEngine.Domain.Mapping.Shift
import RunEngine.Domain.Mapping.Single
import RunEngine.Unicode.Range

/-!
# Characters of domain names

Domain names that are meant to be the same may be typed in different ways. Before names are
compared every character is replaced by its image: capitals and variants become the plain letters,
some characters are dropped, and those that could mislead are not allowed.
-/

namespace RunEngine.Domain

/-- The image of a character in a regular run. -/
def shifted? (n : Nat) : Option (List Nat) :=
  shifts.findSome? fun (first, last, step, image) =>
    if first ≤ n ∧ n ≤ last ∧ (n - first) % step = 0 then some [image + (n - first)] else none

/-- What a table of consecutive characters has for one. -/
def listed? {α : Type} (table : List (Nat × List α)) (n : Nat) : Option α :=
  table.findSome? fun (first, images) => if first ≤ n then images[n - first]? else none

/-- The image of a character, if it is another one or several. -/
def image? (n : Nat) : Option (List Nat) :=
  shifted? n <|> (listed? singles n).map (fun image => [image]) <|> listed? sequences n

/-- What becomes of a character. Absent for one that a domain name may not have. -/
def image (c : Char) : Option (List Char) :=
  if Unicode.covers disallowedRanges c then none
  else if Unicode.covers ignoredRanges c then some []
  else some (((image? c.toNat).map fun image => image.map Char.ofNat).getD [c])

/-- Whether a character is its own image. -/
def isPlain (c : Char) : Bool := image c == some [c]

/-- What becomes of a text, unless it has a character that is not allowed. -/
def mapped (cs : List Char) : Option (List Char) := (cs.mapM image).map List.flatten

end RunEngine.Domain
