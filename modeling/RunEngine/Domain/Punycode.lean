import RunEngine.Text.Digit

/-!
# Punycode

Texts written with letters, digits and hyphens alone. The plain characters come first. The others
follow as numbers: for each of them, in ascending order, how many steps it takes to get there from
the one before, when a step leads to the next place in the text and from the end of the text to its
start with the next character. A number is written with digits in base 36, the last one marked by
being low, and what counts as low adapts to the numbers already written.
-/

namespace RunEngine.Domain.Punycode

/-- Whether a character is written as it is. -/
def isBasic (c : Char) : Bool := c.toNat < 128

/-! ## Digits -/

def digitOf (d : Nat) : Char := if d < 26 then Char.ofNat (97 + d) else Char.ofNat (48 + (d - 26))

def valueOf (c : Char) : Option Nat :=
  if c.isLower then some (c.toNat - 97)
  else if c.isDigit then some (c.toNat - 48 + 26)
  else none

/-- The least digit at a place that is not the last one, places being counted by 36 from 36 on. -/
def threshold (bias place : Nat) : Nat := min 26 (max 1 (place - bias))

/-- How often 35 goes into a number until no more than 455 is left, times 36, and what is left. -/
def scaleDown (n places : Nat) : Nat × Nat :=
  if 455 < n then scaleDown (n / 35) (places + 36) else (places, n)
termination_by n
decreasing_by omega

/-- The bias after a number was written, the `count`-th character of the text. -/
def adapt (n count : Nat) (isFirst : Bool) : Nat :=
  let halved := if isFirst then n / 700 else n / 2
  let (places, rest) := scaleDown (halved + halved / count) 0
  places + 36 * rest / (rest + 38)

/-! ## Numbers -/

theorem one_le_threshold (bias place : Nat) : 1 ≤ threshold bias place := by
  simp only [threshold]; omega

/-- A number from the given place on. -/
def writeNumber (bias place n : Nat) : List Char :=
  let low := threshold bias place
  if n < low then [digitOf n]
  else
    digitOf (low + (n - low) % (36 - low)) :: writeNumber bias (place + 36) ((n - low) / (36 - low))
termination_by n
decreasing_by
  have positive := one_le_threshold bias place
  have smaller := Nat.div_le_self (n - threshold bias place) (36 - threshold bias place)
  omega

/-- Numbers one after the other, the first of them for the `count`-th character. -/
def writeNumbers (bias count : Nat) (isFirst : Bool) : List Nat → List Char
  | [] => []
  | n :: rest =>
    writeNumber bias 36 n ++ writeNumbers (adapt n count isFirst) (count + 1) false rest

/-- Read numbers, when `n` has been read of the first, and the next digit of it has the given
weight. -/
def readNumbers (bias count : Nat) (isFirst : Bool) (place weight n : Nat) :
    List Char → Option (List Nat)
  | [] => if place = 36 then some [] else none
  | c :: rest => do
    let digit ← valueOf c
    let n := n + digit * weight
    let low := threshold bias place
    if digit < low then
      let numbers ← readNumbers (adapt n count isFirst) (count + 1) false 36 1 0 rest
      return n :: numbers
    else readNumbers bias count isFirst (place + 36) (weight * (36 - low)) n rest

/-! ## Steps -/

/-- The steps counted on the way through a text. -/
structure Walk where
  /-- The number for each character that was reached, backwards. -/
  numbers : List Nat := []
  /-- The steps since the last one. -/
  steps : Nat := 0
  /-- How many characters there are already. -/
  count : Nat
  /-- The character whose turn it is. -/
  turn : Nat := 128

/-- Go by one character of the text. -/
def Walk.pass (w : Walk) (c : Char) : Walk :=
  if c.toNat < w.turn then { w with steps := w.steps + 1 }
  else if c.toNat = w.turn then
    { w with numbers := w.steps :: w.numbers, steps := 0, count := w.count + 1 }
  else w

/-- Go through the text once, in the turn of the character `n`. -/
def Walk.round (text : List Char) (w : Walk) (n : Nat) : Walk :=
  let reached := { w with steps := w.steps + (n - w.turn) * (w.count + 1), turn := n }
  let passed := text.foldl Walk.pass reached
  { passed with steps := passed.steps + 1, turn := n + 1 }

/-- The number for each character that is not plain, in ascending order of the characters. -/
def numbersOf (text : List Char) : List Nat :=
  let turns := ((text.filter (!isBasic ·)).map Char.toNat).mergeSort.eraseDups
  (turns.foldl (Walk.round text) { count := (text.filter isBasic).length }).numbers.reverse

/-- Put in the character that a number of steps leads to. The state is the text so far, the place
where the steps begin and the character whose turn it is. -/
def insertAfter : List Char × Nat × Nat → Nat → Option (List Char × Nat × Nat)
  | (text, place, turn), steps =>
    let reached := place + steps
    let turn := turn + reached / (text.length + 1)
    let place := reached % (text.length + 1)
    if turn.isValidChar then some (text.insertIdx place (Char.ofNat turn), place + 1, turn)
    else none

/-! ## Texts -/

/-- The written form of a text. -/
def encode (text : List Char) : List Char :=
  let basic := text.filter isBasic
  basic ++ (if basic.isEmpty then [] else ['-']) ++
    writeNumbers 72 (basic.length + 1) true (numbersOf text)

/-- What stands before the last hyphen, and what stands after it. -/
def splitBasic (cs : List Char) : List Char × List Char :=
  let digits := (cs.reverse.takeWhile (· ≠ '-')).reverse
  ((cs.take (cs.length - digits.length)).dropLast, digits)

/-- The text of a written form. A hyphen with nothing before it is no digit. -/
def decode (cs : List Char) : Option (List Char) := do
  let (basic, digits) := splitBasic cs
  if basic.isEmpty && cs.contains '-' then none
  else
    let numbers ← readNumbers 72 (basic.length + 1) true 36 1 0 digits
    return (← numbers.foldlM insertAfter (basic, 0, 128)).1

end RunEngine.Domain.Punycode
