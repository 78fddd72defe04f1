import RunEngine.Unicode.CombiningClass
import RunEngine.Unicode.Composite

/-!
# The composed form of a text

Texts that look the same may be written with composite characters or with letters and marks. The
composed form is the one they have in common: the text is taken apart, the marks of each letter are
put in order, and what has a composite is put together again.
-/

namespace RunEngine.Unicode

/-! ## Syllables of Hangul

A syllable is a leading consonant, a vowel and perhaps a trailing consonant. The syllables stand in
the order of their parts. -/

def leadingBase : Nat := 0x1100

def vowelBase : Nat := 0x1161

/-- The code point before the first trailing consonant. -/
def trailingBase : Nat := 0x11A7

def syllableBase : Nat := 0xAC00

def leadingCount : Nat := 19

def vowelCount : Nat := 21

/-- The number of trailing consonants, and one for none. -/
def trailingCount : Nat := 28

/-- The parts of a syllable. -/
def splitSyllable (n : Nat) : Option (List Nat) :=
  let index := n - syllableBase
  if syllableBase ≤ n ∧ index < leadingCount * vowelCount * trailingCount then
    let leading := leadingBase + index / (vowelCount * trailingCount)
    let vowel := vowelBase + index / trailingCount % vowelCount
    let trailing := index % trailingCount
    some (if trailing = 0 then [leading, vowel] else [leading, vowel, trailingBase + trailing])
  else none

/-- The syllable of a leading consonant and a vowel, or of a syllable without a trailing consonant
and that consonant. -/
def joinSyllable (a b : Nat) : Option Nat :=
  if leadingBase ≤ a ∧ a < leadingBase + leadingCount ∧ vowelBase ≤ b ∧ b < vowelBase + vowelCount
  then some (syllableBase + ((a - leadingBase) * vowelCount + (b - vowelBase)) * trailingCount)
  else if syllableBase ≤ a ∧ a < syllableBase + leadingCount * vowelCount * trailingCount ∧
      (a - syllableBase) % trailingCount = 0 ∧ trailingBase < b ∧ b < trailingBase + trailingCount
  then some (a + (b - trailingBase))
  else none

/-! ## Taking apart -/

/-- The two parts of a composite. -/
def parts? (n : Nat) : Option (Nat × Nat) :=
  composites.findSome? fun (composite, parts) => if composite = n then some parts else none

/-- A character taken apart, and its first part again, down to the given depth. -/
def split : (depth : Nat) → Nat → List Nat
  | 0, n => [n]
  | depth + 1, n =>
    match parts? n with
    | some (a, b) => split depth a ++ [b]
    | none => (splitSyllable n).getD [n]

/-- A character taken apart. No composite has more than four parts. -/
def decompose (c : Char) : List Char := (split 3 c.toNat).map Char.ofNat

/-! ## Order of marks -/

/-- Put a character into a text that is given backwards: before every mark of a higher class at its
end. -/
def insertMark (c : Char) : List Char → List Char
  | [] => [c]
  | last :: before =>
    if combiningClass c ≠ 0 ∧ combiningClass c < combiningClass last then
      last :: insertMark c before
    else c :: last :: before

/-- The text with the marks after each letter in order of their classes. -/
def orderMarks (cs : List Char) : List Char :=
  (cs.foldl (fun done c => insertMark c done) []).reverse

/-! ## Putting together -/

/-- The composite of two characters. -/
def join? (a b : Char) : Option Char :=
  let composite := composites.findSome? fun (composite, first, second) =>
    if first = a.toNat ∧ second = b.toNat then some composite else none
  (composite <|> joinSyllable a.toNat b.toNat).map Char.ofNat

/-- A text while it is put together. -/
structure Composition where
  /-- What is done with, backwards. -/
  done : List Char := []
  /-- The last letter, to which marks may still be joined. -/
  letter : Option Char := none
  /-- The marks after that letter that were not joined to it, backwards. -/
  marks : List Char := []

namespace Composition

/-- The text so far, backwards. -/
def all (t : Composition) : List Char := t.marks ++ t.letter.toList ++ t.done

/-- Whether no mark stands between the letter and a character of that class, or only marks of lower
classes. -/
def reaches (t : Composition) (k : Nat) : Bool :=
  match t.marks with
  | [] => true
  | last :: _ => combiningClass last < k

/-- The composite of the letter and a character that reaches it. -/
def joined? (t : Composition) (c : Char) : Option Char :=
  if t.reaches (combiningClass c) then t.letter.bind fun letter => join? letter c else none

/-- The text with one more character. -/
def push (t : Composition) (c : Char) : Composition :=
  match t.joined? c with
  | some composite => { t with letter := some composite }
  | none =>
    if combiningClass c = 0 then { done := t.all, letter := some c }
    else { t with marks := c :: t.marks }

end Composition

/-- The text with its composites put together. -/
def composeAll (cs : List Char) : List Char := (cs.foldl Composition.push {}).all.reverse

/-- The composed form of a text. -/
def composed (cs : List Char) : List Char := composeAll (orderMarks (cs.flatMap decompose))

end RunEngine.Unicode
