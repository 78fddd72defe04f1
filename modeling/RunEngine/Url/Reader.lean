import RunEngine.Url.Basic

/-!
# Reading URLs

Reading follows the rules of browsers, which are lenient: blanks around the URL and line breaks in
it are skipped, the schemes of the web may have any number of slashes and of either kind, dots in
the path are resolved, and what may not stand in a URL is percent-encoded.
-/

namespace RunEngine.Url

/-! ## Paths -/

/-- Whether a segment stands for the directory itself. -/
def isDot (segment : String) : Bool := segment == "." || segment.toLower == "%2e"

/-- Whether a segment stands for the directory above. -/
def isDotDot (segment : String) : Bool :=
  ["..", ".%2e", "%2e.", "%2e%2e"].contains segment.toLower

/-- The segments with the dots resolved. A dot at the end leaves an empty segment. -/
def resolveDots : (done : List String) → List String → List String
  | done, [] => done
  | done, [last] =>
    if isDotDot last then done.dropLast ++ [""]
    else if isDot last then done ++ [""]
    else done ++ [last]
  | done, segment :: rest =>
    if isDotDot segment then resolveDots done.dropLast rest
    else if isDot segment then resolveDots done rest
    else resolveDots (done ++ [segment]) rest

/-- A path from its root, given with the slash it begins with. -/
def readPath (path : List Char) : String :=
  let segments := (encode pathReserved path).splitOn "/"
  "/" ++ "/".intercalate (resolveDots [] (segments.drop 1))

/-- Backslashes as the slashes that they stand for. -/
def straighten (cs : List Char) : List Char := cs.map fun c => if c = '\\' then '/' else c

/-! ## Authorities -/

/-- A port that is not the one of the scheme. -/
def readPort (scheme : String) (cs : List Char) : Option (Option Nat) :=
  if cs.isEmpty then some none
  else
    ((Text.natural? 10 cs).filter (· < 65536)).map fun n =>
      if defaultPort scheme = some n then none else some n

/-- The host as it is written, and what follows it. -/
def splitHost : List Char → List Char × List Char
  | '[' :: rest =>
    let (address, after) := rest.span (· ≠ ']')
    ('[' :: address ++ after.take 1, after.drop 1)
  | cs => cs.span (· ≠ ':')

/-- The user before the last `@`, and what follows it. -/
def splitUser (cs : List Char) : List Char × List Char :=
  let address := (cs.reverse.takeWhile (· ≠ '@')).reverse
  ((cs.take (cs.length - address.length)).dropLast, address)

/-- An authority. Only where there is nothing else may the host be empty. -/
def readAuthority (scheme : String) (cs : List Char) : Option Authority := do
  let (user, address) := splitUser cs
  let (username, password) := user.span (· ≠ ':')
  let (host, port) := splitHost address
  let host ← if isSpecial scheme then Host.read host else Host.readPlain host
  let port ← match port with
    | [] => some none
    | ':' :: digits => readPort scheme digits
    | _ => none
  if host.isEmpty && !cs.isEmpty then none
  else
    return {
      username := encode userReserved username
      password := encode userReserved (password.drop 1)
      host, port }

/-! ## Schemes -/

/-- The scheme of a URL in lower case, and what follows its colon. -/
def takeScheme (cs : List Char) : Option (String × List Char) :=
  match cs.span (· ≠ ':') with
  | (scheme, ':' :: rest) =>
    let allowed (c : Char) : Bool := c.isAlphanum || c == '+' || c == '-' || c == '.'
    if (scheme.head?.any Char.isAlpha) ∧ scheme.all allowed then
      some ((String.ofList scheme).toLower, rest)
    else none
  | _ => none

/-- Authority and path of a scheme of the web. -/
def readSpecial (scheme : String) (cs : List Char) : Option (Option Authority × String) := do
  let (authority, path) := ((straighten cs).dropWhile (· = '/')).span (· ≠ '/')
  return (some (← readAuthority scheme authority), readPath path)

/-- Authority and path of a file. The host is the one at hand unless another is named. -/
def readFile (cs : List Char) : Option (Option Authority × String) := do
  let path (cs : List Char) : String := readPath ('/' :: cs.dropWhile (· = '/'))
  match straighten cs with
  | '/' :: '/' :: rest =>
    let (host, rest) := rest.span (· ≠ '/')
    let host ← if host.isEmpty then some (.name "") else Host.read host
    let host := if host = .name "localhost" then .name "" else host
    return (some { host }, path rest)
  | rest => return (some { host := .name "" }, path rest)

/-- Authority and path of any other scheme, which may go without an authority, and with a path that
has no root. -/
def readOther (scheme : String) : List Char → Option (Option Authority × String)
  | '/' :: '/' :: rest => do
    let (authority, path) := rest.span (· ≠ '/')
    return (some (← readAuthority scheme authority), if path.isEmpty then "" else readPath path)
  | '/' :: rest => some (none, readPath ('/' :: rest))
  | cs => some (none, encode [] cs)

/-! ## Reading -/

/-- A text without the blanks around it and the line breaks and tabs in it. -/
def clean (text : String) : List Char :=
  let blank (c : Char) : Bool := c.toNat ≤ 32
  let trimmed := ((text.toList.dropWhile blank).reverse.dropWhile blank).reverse
  trimmed.filter fun c => c ≠ '\t' && c ≠ '\n' && c ≠ '\r'

/-- What follows a mark, encoded, if there is the mark. -/
def readTail (reserved : List Char) : List Char → Option String
  | [] => none
  | _ :: rest => some (encode reserved rest)

/-- The absolute URL that a text is. -/
def read (text : String) : Option Url := do
  let (scheme, rest) ← takeScheme (clean text)
  let (rest, fragment) := rest.span (· ≠ '#')
  let (front, query) := rest.span (· ≠ '?')
  let isWeb := isSpecial scheme
  let (authority, path) ←
    if isWeb then readSpecial scheme front
    else if scheme = "file" then readFile front
    else readOther scheme front
  let quoted := if isWeb || scheme == "file" then ['\''] else []
  return {
    scheme, authority, path
    query := readTail (quoted ++ queryReserved) query
    fragment := readTail fragmentReserved fragment }

end RunEngine.Url
