import RunEngine.Text.Base64

/-!
# The header that authorizes a request

A client shows that it may ask with a key or with the name and password of a user.
-/

namespace RunEngine.Http

/-- Whether a character may stand in the value of a header. -/
def inHeader (c : Char) : Bool := c == '\t' || (32 ≤ c.toNat && c.toNat ≠ 127)

/-- The value of the header for a key; blanks at its end are not part of it. -/
def bearer (key : String) : Option String :=
  if key.toList.all inHeader then
    let blank (c : Char) : Bool := c == ' ' || c == '\t'
    some (String.ofList (("Bearer " ++ key).toList.reverse.dropWhile blank).reverse)
  else none

/-- The value of the header for a user. -/
def basic (username password : String) : String :=
  let bytes := (username ++ ":" ++ password).toList.flatMap String.utf8EncodeChar
  "Basic " ++ String.ofList (Text.base64 bytes)

end RunEngine.Http
