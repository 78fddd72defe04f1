import RunEngine.Domain.Label

/-!
# The ASCII form of domain names

Every domain name has a form of letters, digits and hyphens, the one that is looked up. Names that
are typed in different ways but mean the same have the same form.
-/

namespace RunEngine.Domain

/-- The labels of a name, as they are typed. -/
def labels (name : List Char) : Option (List (List Char)) := do
  let text := String.ofList (Unicode.composed (← mapped name))
  (text.splitOn ".").mapM fun label => decodeLabel label.toList

/-- Whether labels may stand in one name. As soon as one of them has characters that run from right
to left, every one has to keep to one direction. -/
def fitTogether (labels : List (List Char)) : Bool :=
  labels.all isAdmissible && (!labels.any hasRight || labels.all keepsDirection)

/-- The form of a name in ASCII, if it is the name of a domain. -/
def ascii? (name : List Char) : Option String :=
  ((labels name).filter fitTogether).map fun labels => ".".intercalate (labels.map encodeLabel)

end RunEngine.Domain
