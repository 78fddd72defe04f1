import RunEngine.Binary64.Shortest
import RunEngine.Json.Basic

/-!
# Writing JSON

The compact form has no white space. The indented form puts every item and member on a line of its
own. In both, a string escapes only the quote, the backslash and control characters, and a float
is written with the fewest digits that read back: positionally, with at least one decimal place,
from 0.00001 up to below 10 ^ 16, and otherwise with an exponent.
-/

namespace RunEngine

/-! ## Numbers -/

namespace Binary64

/-- `digits` as text with the decimal point after the first `point` of them, a negative `point`
counting zeros after it. -/
private def positional (digits : List Char) (point : Int) : List Char :=
  let n := digits.length
  if point ≤ 0 then
    ['0', '.'] ++ List.replicate (-point).toNat '0' ++ digits
  else if point.toNat < n then
    digits.take point.toNat ++ ['.'] ++ digits.drop point.toNat
  else
    digits ++ List.replicate (point.toNat - n) '0' ++ ['.', '0']

/-- `digits` in scientific notation, a positive exponent with its sign. -/
private def scientific (digits : List Char) (exponent : Int) : List Char :=
  let mantissa := match digits with
    | [d] => [d]
    | d :: rest => d :: '.' :: rest
    | [] => ['0']
  let power := (toString exponent.natAbs).toList
  mantissa ++ ['e', if exponent < 0 then '-' else '+'] ++ power

/-- The text of a finite float. -/
def toText (x : Binary64) : String :=
  let sign := if x.negative then ['-'] else []
  if x.isZero then String.ofList (sign ++ ['0', '.', '0'])
  else
    let (d, t) := x.shortest
    let digits := (toString d).toList
    let point : Int := digits.length + t
    let body :=
      if -4 ≤ point ∧ point ≤ 16 then positional digits point
      else scientific digits (point - 1)
    String.ofList (sign ++ body)

end Binary64

/-- The text of a number. A float that is not finite has no JSON form and is written `null`. -/
def Number.toText : Number → String
  | .int n => toString n
  | .float x => if x.isFinite then x.toText else "null"

/-! ## Strings -/

namespace Json

/-- One character inside a string. -/
def escapeChar (c : Char) : List Char :=
  if c = '"' then ['\\', '"']
  else if c = '\\' then ['\\', '\\']
  else if c = '\n' then ['\\', 'n']
  else if c = '\t' then ['\\', 't']
  else if c = '\r' then ['\\', 'r']
  else if c = '\x08' then ['\\', 'b']
  else if c = '\x0c' then ['\\', 'f']
  else if c.toNat < 0x20 then
    ['\\', 'u', '0', '0', Nat.digitChar (c.toNat / 16), Nat.digitChar (c.toNat % 16)]
  else [c]

/-- A string in quotes. -/
def quote (s : String) : String :=
  String.ofList ('"' :: s.toList.flatMap escapeChar ++ ['"'])

/-! ## Values -/

mutual

/-- The compact form. -/
def compact : Json → String
  | .null => "null"
  | .bool b => if b then "true" else "false"
  | .number n => n.toText
  | .string s => quote s
  | .array items => "[" ++ ",".intercalate (compactItems items) ++ "]"
  | .object members => "\x7b" ++ ",".intercalate (compactMembers members) ++ "\x7d"

def compactItems : List Json → List String
  | [] => []
  | item :: rest => compact item :: compactItems rest

def compactMembers : List (String × Json) → List String
  | [] => []
  | (name, value) :: rest => (quote name ++ ":" ++ compact value) :: compactMembers rest

end

/-- Lines between an opening and a closing bracket, each ended by a comma but the last, indented
one step deeper than `indent`. -/
private def bracketed (opening closing indent : String) (lines : List String) : String :=
  if lines.isEmpty then opening ++ closing
  else
    let separator := ",\n" ++ indent ++ "  "
    opening ++ "\n" ++ indent ++ "  " ++ separator.intercalate lines ++ "\n" ++ indent ++ closing

mutual

/-- The indented form of a value that starts on a line indented by `indent`. -/
def indentedAt (indent : String) : Json → String
  | .array items => bracketed "[" "]" indent (indentedItems (indent ++ "  ") items)
  | .object members => bracketed "\x7b" "\x7d" indent (indentedMembers (indent ++ "  ") members)
  | value => compact value

def indentedItems (indent : String) : List Json → List String
  | [] => []
  | item :: rest => indentedAt indent item :: indentedItems indent rest

def indentedMembers (indent : String) : List (String × Json) → List String
  | [] => []
  | (name, value) :: rest =>
    (quote name ++ ": " ++ indentedAt indent value) :: indentedMembers indent rest

end

/-- The indented form. -/
def indented (value : Json) : String := indentedAt "" value

end Json

end RunEngine
