import RunEngine.Binary64.Reader
import RunEngine.Text.Digit
import RunEngine.Timestamp
import RunEngine.Toml.Basic

/-!
# TOML scalars

A number, a boolean, a date or a time is one token: a run of letters, digits and a few marks. The
kinds have no token in common, so `Value.ofToken?` may try them in any order.
-/

namespace RunEngine.Toml

/-- A character of a token. -/
def isTokenChar (c : Char) : Bool :=
  c.isAlphanum || c == '_' || c == '+' || c == '-' || c == '.' || c == ':'

/-! ## Numbers -/

/-- Digits without the underscores between them. An underscore has a digit on either side. -/
def ungroup? (base : Nat) : List Char → Option (List Char)
  | [] => none
  | [c] => (Text.digit? base c).map fun _ => [c]
  | c :: '_' :: rest => do
    let _ ← Text.digit? base c
    return c :: (← ungroup? base rest)
  | c :: rest => do
    let _ ← Text.digit? base c
    return c :: (← ungroup? base rest)

/-- The digits of a decimal whole number, which has no superfluous zeros in front. -/
def wholeDigits? (cs : List Char) : Option (List Char) :=
  (ungroup? 10 cs).filter fun ds => ds == ['0'] || ds.head? != some '0'

/-- Whether a sign makes a number negative, and the characters after the sign. -/
def takeSign : List Char → Bool × List Char
  | '-' :: rest => (true, rest)
  | '+' :: rest => (false, rest)
  | cs => (false, cs)

/-- A signed 64-bit integer. One with a base in front has no sign. -/
def integer? (token : List Char) : Option Int := do
  let inBase (base : Nat) (cs : List Char) : Option Int := do
    return ((← Text.natural? base (← ungroup? base cs) : Nat) : Int)
  let n ← match token with
    | '0' :: 'x' :: rest => inBase 16 rest
    | '0' :: 'o' :: rest => inBase 8 rest
    | '0' :: 'b' :: rest => inBase 2 rest
    | _ =>
      let (negative, cs) := takeSign token
      ((wholeDigits? cs).bind (Text.natural? 10)).map fun n => if negative then -(n : Int) else n
  if -0x8000000000000000 ≤ n ∧ n < 0x8000000000000000 then some n else none

/-- A decimal without its sign, as plain digits: a whole part with a fraction, an exponent or
both. -/
def decimal? (cs : List Char) : Option (List Char) := do
  let beforeExponent := cs.takeWhile fun c => c != 'e' && c != 'E'
  let whole := beforeExponent.takeWhile (· != '.')
  let fraction ← match beforeExponent.drop whole.length with
    | [] => some []
    | point :: digits => (ungroup? 10 digits).map (point :: ·)
  let exponent ← match cs.drop beforeExponent.length with
    | [] => some []
    | mark :: '-' :: digits => (ungroup? 10 digits).map (mark :: '-' :: ·)
    | mark :: digits => (ungroup? 10 (takeSign digits).2).map (mark :: ·)
  if fraction.isEmpty && exponent.isEmpty then none
  else return (← wholeDigits? whole) ++ fraction ++ exponent

/-- A float. A decimal too large for a float is refused when it is positive and is infinite when it
is negative. -/
def float? (token : List Char) : Option Binary64 :=
  let (negative, cs) := takeSign token
  if cs = ['i', 'n', 'f'] then some (.infinity negative)
  else if cs = ['n', 'a', 'n'] then some .nan
  else do
    let x ← Binary64.unsigned? negative (← decimal? cs)
    if x = .infinity false then none else some x

/-! ## Dates and times -/

/-- The number of exactly `width` digits, and the rest. -/
def fixedDigits? (width : Nat) (cs : List Char) : Option (Nat × List Char) :=
  if cs.length < width then none
  else (Text.natural? 10 (cs.take width)).map fun n => (n, cs.drop width)

/-- The characters after a given one. -/
def after? (mark : Char) : List Char → Option (List Char)
  | c :: rest => if c = mark then some rest else none
  | [] => none

/-- The characters after a date. -/
def afterDate? (cs : List Char) : Option (List Char) := do
  let (year, cs) ← fixedDigits? 4 cs
  let (month, cs) ← fixedDigits? 2 (← after? '-' cs)
  let (day, cs) ← fixedDigits? 2 (← after? '-' cs)
  if 1 ≤ month ∧ month ≤ 12 ∧ 1 ≤ day ∧ day ≤ Timestamp.daysInMonth year month then some cs
  else none

/-- The characters after hours and minutes. -/
def afterMinutes? (cs : List Char) : Option (List Char) := do
  let (hour, cs) ← fixedDigits? 2 cs
  let (minute, cs) ← fixedDigits? 2 (← after? ':' cs)
  if hour < 24 ∧ minute < 60 then some cs else none

/-- The characters after a time of day. A minute may have a leap second. -/
def afterTime? (cs : List Char) : Option (List Char) := do
  let (second, cs) ← fixedDigits? 2 (← after? ':' (← afterMinutes? cs))
  if 60 < second then none
  else match cs with
    | '.' :: d :: rest => if d.isDigit then some (rest.dropWhile Char.isDigit) else none
    | _ => some cs

/-- An offset from UTC. -/
def isOffset : List Char → Bool
  | ['Z'] | ['z'] => true
  | '+' :: rest | '-' :: rest => afterMinutes? rest == some []
  | _ => false

/-- A date, a time of day, or both with or without an offset. -/
def isMoment (token : List Char) : Bool :=
  match afterDate? token with
  | some [] => true
  | some (mark :: rest) =>
    (mark == 'T' || mark == 't' || mark == ' ') &&
      match afterTime? rest with
      | some left => left.isEmpty || isOffset left
      | none => false
  | none => afterTime? token == some []

/-! ## Tokens -/

/-- The value of a token. -/
def Value.ofToken? (token : List Char) : Option Value :=
  if token = ['t', 'r', 'u', 'e'] then some (.boolean true)
  else if token = ['f', 'a', 'l', 's', 'e'] then some (.boolean false)
  else match integer? token with
    | some n => some (.integer n)
    | none =>
      match float? token with
      | some x => some (.float x)
      | none => if isMoment token then some (.moment (String.ofList token)) else none

/-- The scalar at the start, and the rest. A blank may stand between a date and a time. -/
def scalar? (cs : List Char) : Option (Value × List Char) :=
  let token := cs.takeWhile isTokenChar
  let left := cs.drop token.length
  match left with
  | ' ' :: d :: rest =>
    if afterDate? token = some [] ∧ d.isDigit then
      let time := (d :: rest).takeWhile isTokenChar
      (Value.ofToken? (token ++ ' ' :: time)).map fun v => (v, (d :: rest).drop time.length)
    else (Value.ofToken? token).map fun v => (v, left)
  | _ => (Value.ofToken? token).map fun v => (v, left)

end RunEngine.Toml
