import RunEngine.Text.Blank

/-!
# Times

A `Timestamp` is a moment in UTC to the nanosecond. It is written in the RFC 3339 form with `Z`,
with as many fraction digits, in groups of three, as the nanoseconds need. Reading is more lenient:
fields may lack leading zeros, white space may stand between them, and any offset is converted.

Inside a leap second the nanoseconds run on past a thousand million while the seconds stay at 59.
-/

namespace RunEngine

/-- A moment: seconds since 1970 in UTC, and nanoseconds into that second. -/
structure Timestamp where
  seconds : Int
  nanos : Nat
  deriving DecidableEq, Inhabited

namespace Timestamp

/-! ## The calendar

Days are counted from 1970-01-01. The calendar repeats every 400 years, and a year that is taken to
start in March has its leap day at the end. -/

/-- The day number of a date of the proleptic Gregorian calendar. -/
def dayNumber (year : Int) (month day : Nat) : Int :=
  let y := if month ≤ 2 then year - 1 else year
  let era := y / 400
  let yearOfEra := y % 400
  let monthFromMarch := (month + 9) % 12
  let dayOfYear := (153 * monthFromMarch + 2) / 5 + day - 1
  era * 146097 + yearOfEra * 365 + yearOfEra / 4 - yearOfEra / 100 + dayOfYear - 719468

/-- The date of a day number. -/
def date (days : Int) : Int × Nat × Nat :=
  let shifted := days + 719468
  let era := shifted / 146097
  let dayOfEra := (shifted % 146097).toNat
  let yearOfEra := (dayOfEra - dayOfEra / 1460 + dayOfEra / 36524 - dayOfEra / 146096) / 365
  let dayOfYear := dayOfEra - (365 * yearOfEra + yearOfEra / 4 - yearOfEra / 100)
  let monthFromMarch := (5 * dayOfYear + 2) / 153
  let day := dayOfYear - (153 * monthFromMarch + 2) / 5 + 1
  let month := if monthFromMarch < 10 then monthFromMarch + 3 else monthFromMarch - 9
  let year := (yearOfEra : Int) + era * 400
  (if month ≤ 2 then year + 1 else year, month, day)

def isLeapYear (year : Int) : Bool := year % 4 == 0 && (year % 100 != 0 || year % 400 == 0)

/-- The length of a month. -/
def daysInMonth (year : Int) (month : Nat) : Nat :=
  match month with
  | 2 => if isLeapYear year then 29 else 28
  | 4 | 6 | 9 | 11 => 30
  | _ => 31

/-- The years a time may lie in. -/
def inRange (year : Int) : Bool := -262143 ≤ year && year ≤ 262142

/-! ## Writing -/

/-- `n` with leading zeros up to `width` digits. -/
def padded (width n : Nat) : String :=
  let digits := toString n
  String.ofList (List.replicate (width - digits.length) '0') ++ digits

/-- A year outside the four-digit ones has its sign. -/
private def yearText (year : Int) : String :=
  if 0 ≤ year ∧ year ≤ 9999 then padded 4 year.toNat
  else (if year < 0 then "-" else "+") ++ padded 4 year.natAbs

/-- The fraction of a second in the fewest groups of three digits. -/
private def fractionText (nanos : Nat) : String :=
  if nanos = 0 then ""
  else if nanos % 1000000 = 0 then "." ++ padded 3 (nanos / 1000000)
  else if nanos % 1000 = 0 then "." ++ padded 6 (nanos / 1000)
  else "." ++ padded 9 nanos

/-- The RFC 3339 form. -/
def toText (t : Timestamp) : String :=
  let (year, month, day) := date (t.seconds / 86400)
  let ofDay := (t.seconds % 86400).toNat
  let leap := if 1000000000 ≤ t.nanos then 1 else 0
  yearText year ++ "-" ++ padded 2 month ++ "-" ++ padded 2 day ++ "T" ++
    padded 2 (ofDay / 3600) ++ ":" ++ padded 2 (ofDay / 60 % 60) ++ ":" ++
    padded 2 (ofDay % 60 + leap) ++ fractionText (t.nanos - leap * 1000000000) ++ "Z"

/-- Milliseconds since 1970, rounded down. -/
def milliseconds (t : Timestamp) : Int := t.seconds * 1000 + (t.nanos / 1000000 : Nat)

/-! ## Reading -/

/-- Up to `limit` decimal digits: their value, how many there were, and the rest. -/
def someDigits : (limit : Nat) → List Char → Nat → Nat → Nat × Nat × List Char
  | 0, cs, n, count => (n, count, cs)
  | _ + 1, [], n, count => (n, count, [])
  | limit + 1, c :: rest, n, count =>
    if c.isDigit then someDigits limit rest (n * 10 + (c.toNat - '0'.toNat)) (count + 1)
    else (n, count, c :: rest)

/-- A number of one to `limit` digits, after white space. -/
def field (limit : Nat) (cs : List Char) : Option (Nat × List Char) :=
  match someDigits limit (Text.trimStart cs) 0 0 with
  | (_, 0, _) => none
  | (n, _, rest) => some (n, rest)

/-- A year: four digits at most, or any number of digits after a sign. -/
def yearField (cs : List Char) : Option (Int × List Char) :=
  match Text.trimStart cs with
  | '-' :: rest => signed (-1) rest
  | '+' :: rest => signed 1 rest
  | rest => (field 4 rest).map fun (n, left) => ((n : Int), left)
where
  signed (sign : Int) (rest : List Char) : Option (Int × List Char) :=
    match someDigits rest.length rest 0 0 with
    | (_, 0, _) => none
    | (n, _, left) => some (sign * n, left)

/-- A given character, after white space. -/
def mark (expected : Char) (cs : List Char) : Option (List Char) :=
  match Text.trimStart cs with
  | c :: rest => if c = expected then some rest else none
  | [] => none

/-- A fraction of a second in nanoseconds, if there is one. Digits past the ninth are dropped. -/
def fractionField (cs : List Char) : Option (Nat × List Char) :=
  match cs with
  | '.' :: rest =>
    match someDigits 9 rest 0 0 with
    | (_, 0, _) => none
    | (n, count, left) => some (n * Nat.pow 10 (9 - count), left.dropWhile Char.isDigit)
  | _ => some (0, cs)

/-- Hours and minutes of an offset, perhaps with a colon or white space between them, in seconds. -/
def offsetFields (cs : List Char) : Option (Int × List Char) :=
  let two (a b : Char) : Option Nat :=
    if a.isDigit ∧ b.isDigit then some ((a.toNat - '0'.toNat) * 10 + (b.toNat - '0'.toNat))
    else none
  match cs with
  | a :: b :: rest => do
    let hours ← two a b
    match rest.dropWhile (fun c => c == ':' || Text.isBlank c) with
    | c :: d :: left => do
      let minutes ← two c d
      if minutes < 60 then return ((hours * 3600 + minutes * 60 : Nat), left) else none
    | _ => none
  | _ => none

/-- The distance from UTC in seconds: `Z`, `UTC` or hours and minutes. -/
def offsetField (cs : List Char) : Option (Int × List Char) :=
  match Text.trimStart cs with
  | 'Z' :: rest | 'z' :: rest => some (0, rest)
  | '+' :: rest => offsetFields rest
  | '-' :: rest | '\u2212' :: rest =>
    (offsetFields rest).map fun (n, left) => (-n, left)
  | u :: t :: c :: rest =>
    if u.toUpper = 'U' ∧ t.toUpper = 'T' ∧ c.toUpper = 'C' then some (0, rest) else none
  | _ => none

/-- The time a text names, if it names one. -/
def read (text : String) : Option Timestamp := do
  let (year, cs) ← yearField text.toList
  let (month, cs) ← field 2 (← mark '-' cs)
  let (day, cs) ← field 2 (← mark '-' cs)
  let cs ← match cs with
    | 'T' :: rest | 't' :: rest | ' ' :: rest => some rest
    | _ => none
  let (hour, cs) ← field 2 cs
  let (minute, cs) ← field 2 (← mark ':' cs)
  let (second, cs) ← field 2 (← mark ':' cs)
  let (fraction, cs) ← fractionField cs
  let (offset, cs) ← offsetField cs
  if !(Text.trimStart cs).isEmpty then none
  else if !(inRange year && 1 ≤ month && month ≤ 12 && 1 ≤ day && day ≤ daysInMonth year month) then
    none
  else if !(hour < 24 && minute < 60 && second ≤ 60 && offset.natAbs < 86400) then none
  else
    let leap := if second = 60 then 1 else 0
    let ofDay := hour * 3600 + minute * 60 + (second - leap)
    let seconds := dayNumber year month day * 86400 + ofDay
    let time : Timestamp := ⟨seconds - offset, fraction + leap * 1000000000⟩
    if inRange (date (time.seconds / 86400)).1 then some time else none

end Timestamp

end RunEngine
