import RunEngine.Binary64.Basic

/-!
# Reading floats

The text of a float: an optional sign, digits with an optional decimal point on either side of
them, an optional exponent; or the words for infinity and for not a number. The float is the one
nearest to the decimal.
-/

namespace RunEngine.Binary64

/-- The number written by the leading decimal digits, how many there are, and the rest. -/
def leadingDigits : List Char → Nat → Nat → Nat × Nat × List Char
  | [], n, count => (n, count, [])
  | c :: rest, n, count =>
    if c.isDigit then leadingDigits rest (n * 10 + (c.toNat - '0'.toNat)) (count + 1)
    else (n, count, c :: rest)

/-- An exponent up to the end of the text; no text is the exponent zero. -/
def exponentOf? (cs : List Char) : Option Int :=
  let power (sign : Int) (rest : List Char) : Option Int :=
    match leadingDigits rest 0 0 with
    | (_, 0, _) => none
    | (n, _, []) => some (sign * n)
    | _ => none
  match cs with
  | [] => some 0
  | e :: rest =>
    if e = 'e' ∨ e = 'E' then
      match rest with
      | '-' :: rest => power (-1) rest
      | '+' :: rest => power 1 rest
      | _ => power 1 rest
    else none

/-- A float without its sign. -/
def unsigned? (negative : Bool) (cs : List Char) : Option Binary64 :=
  let lower := cs.map Char.toLower
  if lower = ['i', 'n', 'f'] ∨ lower = ['i', 'n', 'f', 'i', 'n', 'i', 't', 'y'] then
    some (infinity negative)
  else if lower = ['n', 'a', 'n'] then some nan
  else
    let (whole, wholeCount, rest) := leadingDigits cs 0 0
    let (digits, places, rest) := match rest with
      | '.' :: rest => leadingDigits rest whole 0
      | _ => (whole, 0, rest)
    if wholeCount + places = 0 then none
    else (exponentOf? rest).map fun exponent => ofDecimal negative digits (exponent - places)

/-- The float a text names, if it names one. -/
def read (text : List Char) : Option Binary64 :=
  match text with
  | '-' :: rest => unsigned? true rest
  | '+' :: rest => unsigned? false rest
  | _ => unsigned? false text

end RunEngine.Binary64
