import RunEngine.Json.Numeral
import RunEngine.Json.Source
import RunEngine.Text.Digit

/-!
# Reading JSON texts

`Source.read` reads a text by the JSON grammar, without extensions: one value, white space only
around tokens, no trailing text. `Json.read` gives the value the text stands for.

Every function here takes the characters still to be read and gives back those it left. A value is
at least one character long, so the number of characters bounds the nesting, and `read` starts
`value` with that bound.
-/

namespace RunEngine

namespace Source

/-! ## Tokens -/

/-- The characters after white space. -/
def skipSpace (cs : List Char) : List Char :=
  cs.dropWhile fun c => c == ' ' || c == '\n' || c == '\t' || c == '\r'

/-- The leading decimal digits, and the characters after them. -/
def digits : List Char → List Nat × List Char
  | [] => ([], [])
  | c :: rest =>
    match Text.digit? 10 c with
    | some d => let (ds, left) := digits rest; (d :: ds, left)
    | none => ([], c :: rest)

/-- One or more digits. -/
def digits1 (cs : List Char) : Option (List Nat × List Char) :=
  match digits cs with
  | ([], _) => none
  | (ds, left) => some (ds, left)

/-- The digits before the decimal point, without superfluous zeros. -/
def wholePart (cs : List Char) : Option (List Nat × List Char) :=
  match cs with
  | '0' :: left => some ([0], left)
  | _ => digits1 cs

/-- A decimal point with its digits, if there is one. -/
def fractionPart (cs : List Char) : Option (Option (List Nat) × List Char) :=
  match cs with
  | '.' :: rest => (digits1 rest).map fun (ds, left) => (some ds, left)
  | _ => some (none, cs)

/-- An exponent with its sign and digits, if there is one. -/
def exponentPart (cs : List Char) : Option (Option (Bool × List Nat) × List Char) :=
  let afterMark (rest : List Char) :=
    match rest with
    | '-' :: rest => (digits1 rest).map fun (ds, left) => (some (true, ds), left)
    | '+' :: rest => (digits1 rest).map fun (ds, left) => (some (false, ds), left)
    | _ => (digits1 rest).map fun (ds, left) => (some (false, ds), left)
  match cs with
  | 'e' :: rest => afterMark rest
  | 'E' :: rest => afterMark rest
  | _ => some (none, cs)

/-- A number. -/
def numeral (cs : List Char) : Option (Numeral × List Char) := do
  let (negative, cs) := match cs with
    | '-' :: rest => (true, rest)
    | _ => (false, cs)
  let (whole, cs) ← wholePart cs
  let (fraction, cs) ← fractionPart cs
  let (exponent, cs) ← exponentPart cs
  return (⟨negative, whole, fraction, exponent⟩, cs)

/-- The code unit of four hexadecimal digits. -/
def codeUnit? (a b c d : Char) : Option Nat := Text.natural? 16 [a, b, c, d]

/-- What has been read of a string: its characters in reverse, a first half of a surrogate pair that
waits for the second, and whether every pair so far was complete. -/
structure TextSoFar where
  reversed : List Char
  high : Option Nat
  complete : Bool

/-- The string with one more character. A waiting half stays without its other half. -/
def TextSoFar.push (p : TextSoFar) (c : Char) : TextSoFar :=
  ⟨c :: p.reversed, none, p.complete && p.high.isNone⟩

/-- The string with one more escaped code unit. -/
def TextSoFar.pushUnit (p : TextSoFar) (unit : Nat) : TextSoFar :=
  if 0xD800 ≤ unit ∧ unit < 0xDC00 then ⟨p.reversed, some unit, p.complete && p.high.isNone⟩
  else if 0xDC00 ≤ unit ∧ unit < 0xE000 then
    match p.high with
    | some high =>
      ⟨Char.ofNat ((high - 0xD800) * 0x400 + (unit - 0xDC00) + 0x10000) :: p.reversed, none,
        p.complete⟩
    | none => { p with complete := false }
  else p.push (Char.ofNat unit)

/-- The text, if it is one. -/
def TextSoFar.finish (p : TextSoFar) : Option String :=
  if p.complete ∧ p.high.isNone then some (String.ofList p.reversed.reverse) else none

/-- A string after its opening quote. -/
def stringBody (p : TextSoFar) : List Char → Option (Option String × List Char)
  | [] => none
  | '"' :: rest => some (p.finish, rest)
  | '\\' :: 'u' :: a :: b :: c :: d :: rest =>
    match codeUnit? a b c d with
    | some unit => stringBody (p.pushUnit unit) rest
    | none => none
  | '\\' :: c :: rest =>
    match c with
    | '"' => stringBody (p.push '"') rest
    | '\\' => stringBody (p.push '\\') rest
    | '/' => stringBody (p.push '/') rest
    | 'b' => stringBody (p.push '\x08') rest
    | 'f' => stringBody (p.push '\x0c') rest
    | 'n' => stringBody (p.push '\n') rest
    | 'r' => stringBody (p.push '\r') rest
    | 't' => stringBody (p.push '\t') rest
    | _ => none
  | c :: rest => if c.toNat < 0x20 ∨ c = '\\' then none else stringBody (p.push c) rest

/-- The characters after a given word. -/
def word (expected : List Char) (cs : List Char) : Option (List Char) :=
  if expected.isPrefixOf cs then some (cs.drop expected.length) else none

/-! ## Values -/

mutual

/-- A value, after white space. -/
def value : (depth : Nat) → List Char → Option (Source × List Char)
  | 0, _ => none
  | depth + 1, cs =>
    match skipSpace cs with
    | [] => none
    | 'n' :: rest => (word ['u', 'l', 'l'] rest).map fun left => (.null, left)
    | 't' :: rest => (word ['r', 'u', 'e'] rest).map fun left => (.bool true, left)
    | 'f' :: rest => (word ['a', 'l', 's', 'e'] rest).map fun left => (.bool false, left)
    | '"' :: rest => (stringBody ⟨[], none, true⟩ rest).map fun (s, left) => (.string s, left)
    | '[' :: rest =>
      match skipSpace rest with
      | ']' :: left => some (.array [], left)
      | rest => (items depth rest).map fun (is, left) => (.array is, left)
    | '\x7b' :: rest =>
      match skipSpace rest with
      | '\x7d' :: left => some (.object [], left)
      | rest => (members depth rest).map fun (ms, left) => (.object ms, left)
    | c :: rest => (numeral (c :: rest)).map fun (n, left) => (.number n.toNumber?, left)

/-- The items of an array up to its closing bracket. -/
def items : (depth : Nat) → List Char → Option (List Source × List Char)
  | 0, _ => none
  | depth + 1, cs => do
    let (item, left) ← value depth cs
    match skipSpace left with
    | ',' :: rest =>
      let (more, left) ← items depth rest
      return (item :: more, left)
    | ']' :: left => return ([item], left)
    | _ => none

/-- The members of an object up to its closing bracket. -/
def members : (depth : Nat) → List Char → Option (List (Option String × Source) × List Char)
  | 0, _ => none
  | depth + 1, cs =>
    match skipSpace cs with
    | '"' :: rest => do
      let (name, left) ← stringBody ⟨[], none, true⟩ rest
      match skipSpace left with
      | ':' :: rest =>
        let (source, left) ← value depth rest
        match skipSpace left with
        | ',' :: rest =>
          let (more, left) ← members depth rest
          return ((name, source) :: more, left)
        | '\x7d' :: left => return ([(name, source)], left)
        | _ => none
      | _ => none
    | _ => none

end

/-- The syntax tree of a whole text. -/
def read (text : String) : Option Source := do
  let cs := text.toList
  let (source, left) ← value (2 * cs.length + 2) cs
  if (skipSpace left).isEmpty then return source else none

end Source

namespace Json

/-- The value a text stands for. -/
def read (text : String) : Option Json := do (← Source.read text).value? Source.maxDepth

end Json

end RunEngine
