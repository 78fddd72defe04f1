import RunEngine.Domain.Mapping
import RunEngine.Domain.Punycode
import RunEngine.Unicode.Direction
import RunEngine.Unicode.Joining
import RunEngine.Unicode.Normal

/-!
# Labels of domain names

The parts between the dots. A label with characters beyond ASCII is written in Punycode after the
letters `xn--`; it must be one that could have been typed, in its composed form.
-/

namespace RunEngine.Domain

/-- What a label written in Punycode begins with. -/
def marker : List Char := ['x', 'n', '-', '-']

/-! ## Joiners

Two invisible characters ask letters to join or not to join. They may stand only where they make a
difference. -/

def nonJoiner : Char := '\u200c'

def joiner : Char := '\u200d'

/-- Whether the first character that does not let others join past it joins in one of two ways. -/
def meets (ways : List Unicode.Joining) (cs : List Char) : Bool :=
  match cs.dropWhile fun c => Unicode.joining c == .transparent with
  | [] => false
  | c :: _ => ways.contains (Unicode.joining c)

/-- Whether a joiner may stand between what is before it, backwards, and what is after it. -/
def joinerFits (before : List Char) (c : Char) (after : List Char) : Bool :=
  before.head?.any Unicode.isVirama ||
    (c == nonJoiner && meets [.left, .dual] before && meets [.right, .dual] after)

/-- Whether all joiners of a text fit, when so much stands before it, backwards. -/
def joinersFit (before : List Char) : List Char → Bool
  | [] => true
  | c :: after =>
    (!(c == nonJoiner || c == joiner) || joinerFits before c after) &&
      joinersFit (c :: before) after

/-! ## Admissible labels -/

/-- The characters of ASCII that no label has. -/
def forbidden (c : Char) : Bool :=
  c.toNat ≤ 32 || c.toNat == 127 ||
    ['%', '#', '/', ':', '<', '>', '?', '@', '[', '\\', ']', '^', '|', '.'].contains c

def isAscii (cs : List Char) : Bool := cs.all Punycode.isBasic

/-- Whether a label may stand in a domain name. -/
def isAdmissible (label : List Char) : Bool :=
  !label.any forbidden && !label.head?.any Unicode.isMark && joinersFit [] label &&
    (isAscii label || label.length ≤ 1000)

/-! ## Direction -/

/-- Whether a label has characters that run from right to left. -/
def hasRight (label : List Char) : Bool :=
  label.any fun c => [.right, .arabicNumber].contains (Unicode.direction c)

/-- Whether the last of the directions, nonspacing marks aside, is one of those. -/
def endsWith (ends directions : List Unicode.Direction) : Bool :=
  (directions.reverse.dropWhile (· == .nonspacing)).head?.all ends.contains

/-- Whether a label keeps to one direction, so that it reads the same in any surroundings. -/
def keepsDirection (label : List Char) : Bool :=
  let directions := label.map Unicode.direction
  match directions with
  | [] => true
  | .left :: rest =>
    rest.all [.left, .europeanNumber, .neutral, .nonspacing].contains &&
      endsWith [.left, .europeanNumber] rest
  | .right :: rest =>
    rest.all (· ≠ .left) && endsWith [.right, .europeanNumber, .arabicNumber] rest &&
      !(rest.contains .europeanNumber && rest.contains .arabicNumber)
  | _ => false

/-! ## Written form -/

/-- A label as it is typed, from its written form. -/
def decodeLabel (label : List Char) : Option (List Char) :=
  if label.take 4 ≠ marker then some label
  else
    let digits := label.drop 4
    if !isAscii digits || digits.isEmpty || digits.getLast? == some '-' || 2000 < digits.length then
      none
    else
      (Punycode.decode digits).filter fun text =>
        text.all isPlain && Unicode.composed text == text && text.take 4 ≠ marker

/-- The written form of a label. -/
def encodeLabel (label : List Char) : String :=
  String.ofList (if isAscii label then label else marker ++ Punycode.encode label)

end RunEngine.Domain
