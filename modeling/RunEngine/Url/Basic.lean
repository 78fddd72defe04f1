import RunEngine.Url.Host

/-!
# URLs

An absolute URL in its one written form. What may not stand in a part is percent-encoded there, and
a port that goes without saying is not written.
-/

namespace RunEngine

namespace Url

/-- Who is asked for what a URL names. -/
structure Authority where
  username : String := ""
  password : String := ""
  host : Host
  /-- The port, unless it is the one of the scheme. -/
  port : Option Nat := none
  deriving DecidableEq

/-- The user and the `@` after it. -/
def Authority.userText (a : Authority) : String :=
  if a.username.isEmpty && a.password.isEmpty then ""
  else a.username ++ (if a.password.isEmpty then "" else ":" ++ a.password) ++ "@"

def Authority.text (a : Authority) : String :=
  a.userText ++ a.host.text ++ (a.port.map fun n => ":" ++ toString n).getD ""

/-- User name and password, decoded. A password that is no text is as good as none. -/
def Authority.credentials? (a : Authority) : Option (String × String) := do
  let username ← decode a.username.toList
  let password := (decode a.password.toList).getD ""
  if username.isEmpty && password.isEmpty then none else some (username, password)

/-- The port that goes without saying for a scheme of the web. -/
def defaultPort (scheme : String) : Option Nat :=
  match scheme with
  | "http" | "ws" => some 80
  | "https" | "wss" => some 443
  | "ftp" => some 21
  | _ => none

/-- Whether a scheme is one of the web: it always has a host, and any slashes lead to it. -/
def isSpecial (scheme : String) : Bool := (defaultPort scheme).isSome

end Url

/-- An absolute URL. -/
structure Url where
  scheme : String
  authority : Option Url.Authority
  path : String
  query : Option String := none
  fragment : Option String := none
  deriving DecidableEq

namespace Url

def host? (u : Url) : Option Host := (u.authority.map Authority.host).filter (!·.isEmpty)

def port? (u : Url) : Option Nat := u.authority.bind Authority.port <|> defaultPort u.scheme

/-- What is asked for at the host: path and query. -/
def target (u : Url) : String := u.path ++ (u.query.map ("?" ++ ·)).getD ""

/-- The written form. A path that looks like an authority has a dot before it. -/
def text (u : Url) : String :=
  let front := match u.authority with
    | some authority => "//" ++ authority.text
    | none => if u.path.startsWith "//" then "/." else ""
  u.scheme ++ ":" ++ front ++ u.target ++ (u.fragment.map ("#" ++ ·)).getD ""

def credentials? (u : Url) : Option (String × String) := u.authority.bind Authority.credentials?

/-- The URL with its credentials left out, if it has any. -/
def withoutCredentials (u : Url) : Url :=
  if u.credentials?.isNone then u
  else
    let strip (a : Authority) : Authority := { a with username := "", password := "" }
    { u with authority := u.authority.map strip }

end Url

end RunEngine
