import RunEngine.Text.Digit

/-!
# Percent-encoding

A byte that may not stand in a URL as it is, is written with `%` and two hexadecimal digits. Which
characters of ASCII these are depends on the part of the URL; control characters and those beyond
ASCII are encoded everywhere.
-/

namespace RunEngine.Url

/-- A byte percent-encoded. -/
def encodeByte (b : UInt8) : List Char :=
  ['%', (Nat.digitChar (b.toNat / 16)).toUpper, (Nat.digitChar (b.toNat % 16)).toUpper]

/-- A character, its UTF-8 bytes percent-encoded when it may not stand as it is. -/
def encodeChar (reserved : List Char) (c : Char) : List Char :=
  if c.toNat < 32 ∨ 127 ≤ c.toNat ∨ reserved.contains c then
    (String.utf8EncodeChar c).flatMap encodeByte
  else [c]

/-- A part of a URL with what may not stand in it percent-encoded. -/
def encode (reserved cs : List Char) : String := String.ofList (cs.flatMap (encodeChar reserved))

/-- The bytes of a text with the percent-encoded ones decoded. -/
def decodeBytes : List Char → List UInt8
  | '%' :: a :: b :: rest =>
    match Text.natural? 16 [a, b] with
    | some n => n.toUInt8 :: decodeBytes rest
    | none => String.utf8EncodeChar '%' ++ decodeBytes (a :: b :: rest)
  | c :: rest => String.utf8EncodeChar c ++ decodeBytes rest
  | [] => []

/-- A text with the percent-encoded bytes decoded, if all bytes are UTF-8 then. -/
def decode (cs : List Char) : Option String := String.fromUTF8? ⟨(decodeBytes cs).toArray⟩

/-! ## What is encoded -/

def fragmentReserved : List Char := [' ', '"', '<', '>', '`']

def queryReserved : List Char := [' ', '"', '#', '<', '>']

def pathReserved : List Char := [' ', '"', '#', '<', '>', '?', '^', '`', '\x7b', '\x7d']

/-- What is encoded in a user name or a password. -/
def userReserved : List Char := pathReserved ++ ['/', ':', ';', '=', '@', '[', '\\', ']', '|']

end RunEngine.Url
