import RunEngine.CommandLine.Basic
import RunEngine.Json.Reader
import RunEngine.Parameters

/-!
# Reading the command line

Arguments are read from left to right. Options stand before or after the command; those of the
program itself may stand on either side of it, and then the later value counts. On one side an
option may be given once, unless it collects values.

The value of an option is judged only when the next option comes up or the arguments end, so an
argument that nobody knows is reported before a bad value that stands in front of it.
-/

namespace RunEngine.CommandLine

/-- The values of all options. -/
structure Arguments where
  config : Option String := none
  verbose : Bool := false
  demo : DemoOptions := {}

/-! ## Options -/

/-- What an option does. -/
inductive Effect where
  /-- It ends the reading. -/
  | stop (refusal : Refusal)
  | flag (set : Arguments → Arguments)
  /-- It takes a value, and perhaps may be given several times. -/
  | value (repeats : Bool) (read : String → Arguments → Except Refusal Arguments)

structure Opt where
  long : String
  short : Option Char := none
  effect : Effect

/-- An unsigned 32-bit number; a sign may stand in front. -/
def readWord (text : String) : Option UInt32 :=
  ((readInt64 text.toList).filter fun n => 0 ≤ n ∧ n < 0x100000000).map fun n =>
    UInt32.ofNat n.toNat

/-- A parameter as KEY=VALUE. A value that is no JSON text stands for itself. -/
def readParameter (text : String) : Option (String × Json) :=
  let name := text.toList.takeWhile (· != '=')
  match name, text.toList.drop name.length with
  | [], _ | _, [] => none
  | _, _ :: rest =>
    let value := String.ofList rest
    some (String.ofList name, (Json.read value).getD (.string value))

/-- An option of the demo command that takes a value. -/
def demoValue {α : Type} (long : String) (repeats : Bool) (read : String → Option α)
    (set : α → DemoOptions → DemoOptions) : Opt :=
  { long
    effect := .value repeats fun text given =>
      match read text with
      | some value => .ok { given with demo := set value given.demo }
      | none => .error (.malformedValue long) }

/-- The options that stand on either side of the command. -/
def sharedOptions (topic : Topic) : List Opt :=
  [{ long := "config"
     effect := .value false fun text given =>
      if text.isEmpty then .error (.missingValue "config")
      else .ok { given with config := some text } },
    { long := "verbose", short := some 'v', effect := .flag fun given =>
      { given with verbose := true } },
    { long := "help", short := some 'h', effect := .stop (.help topic) }]

/-- The options in front of the command. -/
def programOptions : List Opt :=
  { long := "version", short := some 'V', effect := .stop .version } :: sharedOptions .program

/-- The options after the demo command. -/
def demoOptions : List Opt :=
  [demoValue "fail-times" false readWord fun n o => { o with failTimes := n },
    demoValue "retries" false readWord fun n o => { o with retries := n },
    demoValue "hold" false readWord fun n o => { o with hold := n },
    { long := "blocking", effect := .flag fun given =>
      { given with demo := { given.demo with blocking := true } } },
    demoValue "name" false some fun name o => { o with name },
    demoValue "param" true readParameter fun p o => { o with parameters := o.parameters ++ [p] }] ++
    sharedOptions .demo

/-! ## Arguments -/

/-- What an argument looks like. -/
inductive Shape where
  | word
  /-- Two hyphens: what follows are words. -/
  | terminator
  | long (name : String) (value : Option String)
  | short (letters : List Char)
  deriving DecidableEq

/-- The shape of an argument. A single hyphen is a word. -/
def Shape.ofText (argument : String) : Shape :=
  match argument.toList with
  | ['-', '-'] => .terminator
  | '-' :: '-' :: rest =>
    let name := rest.takeWhile (· != '=')
    match rest.drop name.length with
    | [] => .long (String.ofList name) none
    | _ :: value => .long (String.ofList name) (some (String.ofList value))
  | '-' :: c :: rest => .short (c :: rest)
  | _ => .word

/-! ## Reading one side of the command -/

/-- The options read so far. -/
structure Reading where
  values : Arguments := {}
  /-- The options that were given. -/
  given : List String := []
  /-- An option whose value is still to be judged, or still to come. -/
  pending : Option (Opt × Option String) := none

namespace Reading

/-- Take in an option that may be given once unless it `repeats`. -/
def take (r : Reading) (o : Opt) (repeats : Bool)
    (set : Arguments → Except Refusal Arguments) : Except Refusal Reading :=
  if !repeats && r.given.contains o.long then .error (.repeated o.long)
  else do return { r with values := ← set r.values, given := o.long :: r.given }

/-- Take in an option without a value. -/
def takeBare (r : Reading) (o : Opt) : Except Refusal Reading :=
  match o.effect with
  | .stop refusal => .error refusal
  | .flag set => r.take o false fun values => .ok (set values)
  | .value .. => .error (.missingValue o.long)

/-- Take in an option with a value. -/
def takeValue (r : Reading) (o : Opt) (text : String) : Except Refusal Reading :=
  match o.effect with
  | .value repeats read => r.take o repeats (read text)
  | _ => .error (.needlessValue o.long)

/-- Judge the value that is pending. -/
def settle (r : Reading) : Except Refusal Reading :=
  match r.pending with
  | none => .ok r
  | some (o, none) => .error (.missingValue o.long)
  | some (o, some text) => { r with pending := none }.takeValue o text

/-- Read an option by its long name. -/
def long (r : Reading) (o : Opt) (value : Option String) : Except Refusal Reading :=
  match o.effect, value with
  | .value .., some text => do (← r.settle).takeValue o text
  | .value .., none => do return { ← r.settle with pending := some (o, none) }
  | _, some _ => .error (.needlessValue o.long)
  | _, none => do (← r.settle).takeBare o

/-- Read options by their letters. -/
def short (options : List Opt) : List Char → Reading → Except Refusal Reading
  | [], r => .ok r
  | c :: rest, r =>
    match options.find? fun o => o.short == some c with
    | none => .error (.unknownArgument (String.ofList ['-', c]))
    | some o => do short options rest (← (← r.settle).takeBare o)

end Reading

/-- A word that is no option, and what stands after it. -/
structure Word where
  text : String
  /-- Whether two hyphens stand in front of it. -/
  terminated : Bool
  rest : List String

/-- Read options up to the first word, or to the end. -/
def readOptions (options : List Opt) : List String → Reading →
    Except Refusal (Reading × Option Word)
  | [], r => .ok (r, none)
  | argument :: rest, r =>
    match Shape.ofText argument with
    | .terminator => .ok (r, rest.head?.map fun text => ⟨text, true, rest.tail⟩)
    | .long name value =>
      match options.find? fun o => o.long == name with
      | none => .error (.unknownArgument argument)
      | some o =>
        match r.long o value with
        | .ok r => readOptions options rest r
        | .error refusal => .error refusal
    | .short letters =>
      match r.short options letters with
      | .ok r => readOptions options rest r
      | .error refusal => .error refusal
    | .word =>
      match r.pending with
      | some (o, none) => readOptions options rest { r with pending := some (o, some argument) }
      | _ => .ok (r, some ⟨argument, false, rest⟩)

/-- Read what stands after a command, which is options alone. -/
def readCommand (options : List Opt) (arguments : List String) : Except Refusal Arguments := do
  match ← readOptions options arguments {} with
  | (_, some word) => .error (.unknownArgument word.text)
  | (r, none) => return (← r.settle).values

/-! ## Whole command lines -/

/-- The topic of a command. -/
def topic? : String → Option Topic
  | "demo" => some .demo
  | "check" => some .check
  | "help" => some .help
  | _ => none

/-- What the help command comes to. -/
def readHelp : List String → Refusal
  | [] => .help .program
  | [word] =>
    match topic? word with
    | some topic => .help topic
    | none => .unknownCommand word
  | word :: next :: _ => .unknownCommand (if (topic? word).isSome then next else word)

/-- The invocation of a command with the arguments on both sides of it. -/
def invocation (command : Command) (before after : Arguments) : Invocation :=
  { command
    config := after.config <|> before.config
    verbose := after.verbose || before.verbose }

/-- Read the arguments of the program. What stands after the command is judged first. -/
def read (arguments : List String) : Except Refusal Invocation := do
  match ← readOptions programOptions arguments {} with
  | (r, none) =>
    let r ← r.settle
    .error (if r.given.isEmpty then .noArguments else .missingCommand)
  | (r, some word) =>
    match topic? word.text, word.terminated with
    | none, _ => .error (.unknownCommand word.text)
    | some _, true => .error (.unknownArgument word.text)
    | some .demo, false =>
      let after ← readCommand demoOptions word.rest
      return invocation (.demo after.demo) (← r.settle).values after
    | some .check, false =>
      let after ← readCommand (sharedOptions .check) word.rest
      return invocation .check (← r.settle).values after
    | some _, false => .error (readHelp word.rest)

end RunEngine.CommandLine
