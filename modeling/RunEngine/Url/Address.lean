import RunEngine.Text.Digit

/-!
# Numeric addresses

An IPv4 address is a number of 32 bits. It is written as four bytes, but is read from up to four
numbers in three bases, of which the last one fills what is left. An IPv6 address has eight groups
of 16 bits. It is written with colons between the groups, and the longest run of zeros left out.
-/

namespace RunEngine.Url

/-! ## IPv4 -/

/-- A number of an address: hexadecimal after `0x`, octal after `0`, decimal otherwise. -/
def addressPart? (part : String) : Option Nat :=
  match part.toLower.toList with
  | '0' :: 'x' :: digits => if digits.isEmpty then some 0 else Text.natural? 16 digits
  | '0' :: d :: digits => Text.natural? 8 (d :: digits)
  | digits => Text.natural? 10 digits

/-- The labels of a name; a dot at the end does not count. -/
def addressParts (name : String) : List String :=
  let parts := name.splitOn "."
  if 1 < parts.length ∧ parts.getLast? = some "" then parts.dropLast else parts

/-- Whether the last label marks a name as an IPv4 address, well written or not. -/
def isAddress (name : String) : Bool :=
  (addressParts name).getLast?.any fun label =>
    (!label.isEmpty && label.all Char.isDigit) ||
      (label.toLower.startsWith "0x" && (addressPart? label).isSome)

/-- The address of numbers that are a byte each but the last. -/
def ofAddressParts (parts : List Nat) : Option UInt32 :=
  match parts.reverse with
  | [] => none
  | last :: before =>
    let span := Nat.pow 256 (4 - before.length)
    if before.length ≤ 3 ∧ before.all (· < 256) ∧ last < span then
      some ((before.reverse.foldl (256 * · + ·) 0) * span + last).toUInt32
    else none

def readAddress (name : String) : Option UInt32 :=
  ((addressParts name).mapM addressPart?).bind ofAddressParts

def addressText (address : UInt32) : String :=
  let byte (k : Nat) : String := toString (address.toNat / Nat.pow 256 k % 256)
  ".".intercalate [byte 3, byte 2, byte 1, byte 0]

/-! ## IPv6 -/

/-- A group: one to four hexadecimal digits. -/
def group? (part : String) : Option Nat :=
  if part.length ≤ 4 then Text.natural? 16 part.toList else none

/-- A byte in decimal, without zeros before it. -/
def byte? (part : String) : Option Nat :=
  (Text.natural? 10 part.toList).filter fun n => n < 256 && toString n == part

/-- Two groups written as an IPv4 address. -/
def addressGroups? (part : String) : Option (List Nat) :=
  match (part.splitOn ".").mapM byte? with
  | some [a, b, c, d] => some [256 * a + b, 256 * c + d]
  | _ => none

/-- Groups, of which the last two may be written as an IPv4 address if they end the whole. -/
def readParts (isEnd : Bool) : List String → Option (List Nat)
  | [] => some []
  | [last] =>
    (group? last).map (fun group => [group]) <|> (if isEnd then addressGroups? last else none)
  | part :: rest => do return (← group? part) :: (← readParts isEnd rest)

/-- Groups with colons between them. -/
def readGroups (isEnd : Bool) (text : String) : Option (List Nat) :=
  if text.isEmpty then some [] else readParts isEnd (text.splitOn ":")

/-- All groups of an address. Two colons stand for one or more groups that are zero. -/
def allGroups? (text : String) : Option (List Nat) :=
  match text.splitOn "::" with
  | [text] => readGroups true text
  | [before, after] => do
    let before ← readGroups false before
    let after ← readGroups true after
    let given := before.length + after.length
    if given < 8 then some (before ++ List.replicate (8 - given) 0 ++ after) else none
  | _ => none

def readAddress6 (text : String) : Option (Vector UInt16 8) :=
  (allGroups? text).bind fun groups =>
    if h : groups.length = 8 then some ⟨(groups.map Nat.toUInt16).toArray, by simp [h]⟩ else none

/-- How many groups from the `i`-th on are zero. -/
def zerosFrom (groups : List UInt16) (i : Nat) : Nat :=
  ((groups.drop i).takeWhile (· == 0)).length

/-- The first of the longest runs of zeros, if it has two or more: where it begins, and its
length. -/
def gap? (groups : List UInt16) : Option (Nat × Nat) :=
  let lengths := (List.range groups.length).map (zerosFrom groups)
  let longest := lengths.foldl max 0
  if longest < 2 then none else (lengths.idxOf? longest).map fun start => (start, longest)

def groupsText (groups : List UInt16) : String :=
  ":".intercalate (groups.map fun group => String.ofList (Nat.toDigits 16 group.toNat))

def address6Text (address : Vector UInt16 8) : String :=
  let groups := address.toList
  match gap? groups with
  | none => groupsText groups
  | some (start, length) =>
    groupsText (groups.take start) ++ "::" ++ groupsText (groups.drop (start + length))

end RunEngine.Url
