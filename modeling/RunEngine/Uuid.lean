import RunEngine.Text.Digit

/-!
# Identifiers

Runs are identified by 128-bit numbers, written as 32 lower-case hexadecimal digits in groups of
8, 4, 4, 4 and 12. They are read in that form, without the hyphens, in braces or as a URN.

Identifiers handed out here are numbered: run and task identifiers share a layout (version 4, its
free bits a fixed pattern) and differ in one bit, and the low 62 bits count.
-/

namespace RunEngine

/-- A universally unique identifier. -/
structure Uuid where
  value : BitVec 128
  deriving DecidableEq, Inhabited

namespace Uuid

/-- The identifier whose bits are all zero. -/
def nil : Uuid := ⟨0⟩

/-! ## Writing -/

/-- The digits of a number in base 16, exactly `width` of them. -/
def hex : (width : Nat) → Nat → List Char
  | 0, _ => []
  | width + 1, n => hex width (n / 16) ++ [Nat.digitChar (n % 16)]

/-- The digits in their groups. -/
def hyphenated : List Char → List Nat → List Char
  | digits, [] => digits
  | digits, group :: groups =>
    digits.take group ++ '-' :: hyphenated (digits.drop group) groups

/-- The lengths of the groups before the last. -/
def groups : List Nat := [8, 4, 4, 4]

/-- The written form. -/
def toText (u : Uuid) : String := String.ofList (hyphenated (hex 32 u.value.toNat) groups)

/-! ## Reading -/

/-- 32 digits without hyphens. -/
def ofDigits? (digits : List Char) : Option Uuid :=
  if digits.length = 32 then (Text.natural? 16 digits).map fun n => ⟨BitVec.ofNat 128 n⟩ else none

/-- The digits with the hyphens between the groups taken out, if they stand in their places. -/
def ungroup? : List Char → List Nat → Option (List Char)
  | digits, [] => some digits
  | digits, group :: groups =>
    match digits.drop group with
    | '-' :: rest => (ungroup? rest groups).map (digits.take group ++ ·)
    | _ => none

/-- Digits in their groups. -/
def ofHyphenated? (text : List Char) : Option Uuid :=
  if text.length = 36 then (ungroup? text groups).bind ofDigits? else none

/-- The identifier a text names, if it names one. -/
def read (text : String) : Option Uuid :=
  let cs := text.toList
  match cs.length with
  | 32 => ofDigits? cs
  | 36 => ofHyphenated? cs
  | 38 =>
    match cs with
    | '\x7b' :: rest => if rest.getLast? = some '\x7d' then ofHyphenated? rest.dropLast else none
    | _ => none
  | 45 =>
    if "urn:uuid:".toList.isPrefixOf cs then ofHyphenated? (cs.drop 9) else none
  | _ => none

/-! ## Numbered identifiers -/

/-- The identifier of the run numbered `n`. -/
def ofRun (n : Nat) : Uuid := ⟨0x5e1f0a7c93d24b68b000000000000000#128 + BitVec.ofNat 128 n⟩

/-- The identifier of the task run numbered `n`. -/
def ofTask (n : Nat) : Uuid := ⟨0x5e1f0a7c93d24b69b000000000000000#128 + BitVec.ofNat 128 n⟩

end Uuid

/-- How many identifiers of each kind have been handed out. -/
structure IdSupply where
  runs : Nat := 0
  tasks : Nat := 0
  deriving DecidableEq, Inhabited

namespace IdSupply

/-- The next run identifier. -/
def takeRun (s : IdSupply) : Uuid × IdSupply := (.ofRun s.runs, { s with runs := s.runs + 1 })

/-- The next task run identifier. -/
def takeTask (s : IdSupply) : Uuid × IdSupply := (.ofTask s.tasks, { s with tasks := s.tasks + 1 })

end IdSupply

end RunEngine
