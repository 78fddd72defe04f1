import RunEngine.Toml.Scalar

/-!
# Reading TOML documents

`Toml.read` reads a document of TOML 1.0 and gives its root table. A byte order mark may stand in
front. Arrays and inline tables may be nested, and a key may have names, up to `maxNesting`.

Every function here takes the characters still to be read and gives back those it left.
-/

namespace RunEngine.Toml

/-- How deep values may be nested, and how many names a key may have. -/
def maxNesting : Nat := 79

/-! ## Space -/

/-- White space within a line. -/
def isBlank (c : Char) : Bool := c == ' ' || c == '\t'

/-- A character that comments and strings may hold as it is. -/
def isPlain (c : Char) : Bool := c == '\t' || 0x20 ≤ c.toNat && c.toNat != 0x7f

def skipBlanks (cs : List Char) : List Char := cs.dropWhile isBlank

/-- The characters after the end of a line. -/
def afterNewline? : List Char → Option (List Char)
  | '\n' :: rest => some rest
  | '\x0d' :: '\n' :: rest => some rest
  | _ => none

/-- The characters after white space, comments and line ends. A comment runs to the end of its
line. -/
def skipLines (inComment : Bool) : List Char → Option (List Char)
  | [] => some []
  | '\n' :: rest => skipLines false rest
  | '\x0d' :: '\n' :: rest => skipLines false rest
  | c :: rest =>
    if inComment then if isPlain c then skipLines true rest else none
    else if isBlank c then skipLines false rest
    else if c = '#' then skipLines true rest
    else some (c :: rest)

/-- The characters after the end of a statement: nothing but white space and a comment may stand
before the end of the line or of the text. -/
def afterStatement? (cs : List Char) : Option (List Char) :=
  let left := match skipBlanks cs with
    | '#' :: rest => rest.dropWhile isPlain
    | rest => rest
  if left.isEmpty then some [] else afterNewline? left

/-! ## Strings -/

/-- The character with this code in hexadecimal digits. -/
def codePoint? (digits : List Char) : Option Char := do
  let n ← Text.natural? 16 digits
  if n.isValidChar then some (Char.ofNat n) else none

/-- What a letter stands for after a backslash. -/
def escaped? : Char → Option Char
  | 'b' => some '\x08'
  | 't' => some '\t'
  | 'n' => some '\n'
  | 'f' => some '\x0c'
  | 'r' => some '\x0d'
  | '"' => some '"'
  | '\\' => some '\\'
  | _ => none

/-- A string with escapes, after its opening quotes. In a string of several lines, `several`, white
space and line ends are skipped after a backslash at the end of a line, `folding`. Up to two quotes
may stand before the closing ones. -/
def basicBody (several folding : Bool) (reversed : List Char) :
    List Char → Option (String × List Char)
  | [] => none
  | '"' :: '"' :: '"' :: '"' :: '"' :: rest =>
    if several then some (String.ofList ('"' :: '"' :: reversed).reverse, rest)
    else some (String.ofList reversed.reverse, '"' :: '"' :: '"' :: '"' :: rest)
  | '"' :: '"' :: '"' :: '"' :: rest =>
    if several then some (String.ofList ('"' :: reversed).reverse, rest)
    else some (String.ofList reversed.reverse, '"' :: '"' :: '"' :: rest)
  | '"' :: '"' :: '"' :: rest =>
    some (String.ofList reversed.reverse, if several then rest else '"' :: '"' :: rest)
  | '"' :: rest =>
    if several then basicBody true false ('"' :: reversed) rest
    else some (String.ofList reversed.reverse, rest)
  | '\n' :: rest =>
    if several then basicBody true folding (if folding then reversed else '\n' :: reversed) rest
    else none
  | '\x0d' :: '\n' :: rest =>
    if several then basicBody true folding (if folding then reversed else '\n' :: reversed) rest
    else none
  | '\\' :: 'u' :: a :: b :: c :: d :: rest =>
    match codePoint? [a, b, c, d] with
    | some e => basicBody several false (e :: reversed) rest
    | none => none
  | '\\' :: 'U' :: a :: b :: c :: d :: e :: f :: g :: h :: rest =>
    match codePoint? [a, b, c, d, e, f, g, h] with
    | some e => basicBody several false (e :: reversed) rest
    | none => none
  | '\\' :: c :: rest =>
    match escaped? c with
    | some e => basicBody several false (e :: reversed) rest
    | none =>
      if several && (afterNewline? (skipBlanks (c :: rest))).isSome then
        basicBody true true reversed (c :: rest)
      else none
  | c :: rest =>
    if folding && isBlank c then basicBody several true reversed rest
    else if isPlain c && c != '\\' then basicBody several false (c :: reversed) rest
    else none

/-- A string without escapes, after its opening quotes. -/
def literalBody (several : Bool) (reversed : List Char) : List Char → Option (String × List Char)
  | [] => none
  | '\x27' :: '\x27' :: '\x27' :: '\x27' :: '\x27' :: rest =>
    if several then some (String.ofList ('\x27' :: '\x27' :: reversed).reverse, rest)
    else some (String.ofList reversed.reverse, '\x27' :: '\x27' :: '\x27' :: '\x27' :: rest)
  | '\x27' :: '\x27' :: '\x27' :: '\x27' :: rest =>
    if several then some (String.ofList ('\x27' :: reversed).reverse, rest)
    else some (String.ofList reversed.reverse, '\x27' :: '\x27' :: '\x27' :: rest)
  | '\x27' :: '\x27' :: '\x27' :: rest =>
    some (String.ofList reversed.reverse, if several then rest else '\x27' :: '\x27' :: rest)
  | '\x27' :: rest =>
    if several then literalBody true ('\x27' :: reversed) rest
    else some (String.ofList reversed.reverse, rest)
  | '\n' :: rest => if several then literalBody true ('\n' :: reversed) rest else none
  | '\x0d' :: '\n' :: rest => if several then literalBody true ('\n' :: reversed) rest else none
  | c :: rest => if isPlain c then literalBody several (c :: reversed) rest else none

/-- The characters after a line end that follows opening quotes, which is not part of the string. -/
def skipFirstNewline (cs : List Char) : List Char := (afterNewline? cs).getD cs

/-- A string of any of the four forms. -/
def string? : List Char → Option (String × List Char)
  | '"' :: '"' :: '"' :: rest => basicBody true false [] (skipFirstNewline rest)
  | '"' :: rest => basicBody false false [] rest
  | '\x27' :: '\x27' :: '\x27' :: rest => literalBody true [] (skipFirstNewline rest)
  | '\x27' :: rest => literalBody false [] rest
  | _ => none

/-! ## Keys -/

/-- A character of a name without quotes. -/
def isBare (c : Char) : Bool := c.isAlphanum || c == '_' || c == '-'

/-- One name of a key. -/
def name? : List Char → Option (String × List Char)
  | '"' :: rest => basicBody false false [] rest
  | '\x27' :: rest => literalBody false [] rest
  | cs =>
    match cs.takeWhile isBare with
    | [] => none
    | bare => some (String.ofList bare, cs.drop bare.length)

/-- A key of at most so many names, with the white space around it. -/
def key? : (names : Nat) → List Char → Option (Key × List Char)
  | 0, _ => none
  | names + 1, cs => do
    let (name, left) ← name? (skipBlanks cs)
    match skipBlanks left with
    | '.' :: rest =>
      let (key, left) ← key? names rest
      return (⟨name :: key.path, key.name⟩, left)
    | left => return (⟨[], name⟩, left)

/-! ## Values -/

mutual

/-- A value with at most `levels` levels of arrays and inline tables. -/
def value? : (fuel levels : Nat) → List Char → Option (Value × List Char)
  | 0, _, _ => none
  | fuel + 1, levels, cs =>
    match cs, levels with
    | '[' :: rest, levels + 1 =>
      (items? fuel levels rest).map fun (items, left) => (.array items, left)
    | '\x7b' :: rest, levels + 1 =>
      match skipBlanks rest with
      | '\x7d' :: left => some (.table .inline [], left)
      | rest => do
        let (bindings, left) ← bindings? fuel levels rest
        let table ← Table.ofBindings? bindings
        return (.table table.origin table.entries, left)
    | _, _ =>
      match string? cs with
      | some (text, left) => some (.string text, left)
      | none => scalar? cs

/-- The items of an array up to its closing bracket. A comma may stand after the last one. -/
def items? : (fuel levels : Nat) → List Char → Option (List Value × List Char)
  | 0, _, _ => none
  | fuel + 1, levels, cs => do
    match ← skipLines false cs with
    | ']' :: left => return ([], left)
    | cs =>
      let (item, left) ← value? fuel levels cs
      match ← skipLines false left with
      | ',' :: rest =>
        let (more, left) ← items? fuel levels rest
        return (item :: more, left)
      | ']' :: left => return ([item], left)
      | _ => none

/-- The bindings of an inline table up to its closing brace. -/
def bindings? : (fuel levels : Nat) → List Char → Option (List (Key × Value) × List Char)
  | 0, _, _ => none
  | fuel + 1, levels, cs => do
    let (key, left) ← key? maxNesting cs
    let (value, left) ← value? fuel levels (skipBlanks (← after? '=' left))
    match skipBlanks left with
    | ',' :: rest =>
      let (more, left) ← bindings? fuel levels rest
      return ((key, value) :: more, left)
    | '\x7d' :: left => return ([(key, value)], left)
    | _ => none

end

/-! ## Statements -/

/-- One statement, without the end of its line. -/
def statement? (cs : List Char) : Option (Statement × List Char) :=
  match cs with
  | '[' :: '[' :: rest => do
    let (key, left) ← key? maxNesting rest
    return (.element key, ← after? ']' (← after? ']' left))
  | '[' :: rest => do
    let (key, left) ← key? maxNesting rest
    return (.table key, ← after? ']' left)
  | _ => do
    let (key, left) ← key? maxNesting cs
    let rest := skipBlanks (← after? '=' left)
    -- Reading a value takes at most two calls for each of its characters.
    let (value, left) ← value? (2 * rest.length + 2) maxNesting rest
    return (.binding key value, left)

/-- The statements up to the end of the text. -/
def statements? : (fuel : Nat) → List Char → Option (List Statement)
  | 0, _ => none
  | fuel + 1, cs => do
    match ← skipLines false cs with
    | [] => return []
    | cs =>
      let (statement, left) ← statement? cs
      return statement :: (← statements? fuel (← afterStatement? left))

/-- The root table of a text. -/
def read (text : String) : Option Table := do
  let cs := match text.toList with
    | '\ufeff' :: rest => rest
    | cs => cs
  assemble (← statements? (cs.length + 1) cs)

end RunEngine.Toml
