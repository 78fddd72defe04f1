import RunEngine.Json.Basic

/-!
# The command line

What the program can be asked to do, and why an invocation may ask for nothing that can be done. A
`Refusal` ends the reading of the arguments; help and the version are refusals that the user asked
for.
-/

namespace RunEngine.CommandLine

/-- The options of the demo command. -/
structure DemoOptions where
  /-- How many attempts fail before the flow succeeds. -/
  failTimes : UInt32 := 0
  retries : UInt32 := 0
  /-- How many proposals to run are held in PENDING, where the orchestrator is in memory. -/
  hold : UInt32 := 0
  /-- Whether to block a thread instead of using a runtime. -/
  blocking : Bool := false
  name : String := "demo"
  parameters : List (String × Json) := []
  deriving DecidableEq

inductive Command where
  /-- Run the built-in flow. -/
  | demo (options : DemoOptions)
  /-- See whether the orchestration API can be reached. -/
  | check
  deriving DecidableEq

/-- What the program is asked to do. -/
structure Invocation where
  command : Command
  /-- The settings file, instead of the one in the working directory. -/
  config : Option String := none
  /-- Whether to log at debug level. -/
  verbose : Bool := false
  deriving DecidableEq

/-! ## Help -/

/-- What there is help about. -/
inductive Topic where
  | program
  | demo
  | check
  | help
  deriving DecidableEq

namespace Topic

/-- How to write an invocation. -/
def usage : Topic → String
  | program => "flowrun [OPTIONS] <COMMAND>"
  | demo => "flowrun demo [OPTIONS]"
  | check => "flowrun check [OPTIONS]"
  | help => "flowrun help [COMMAND]..."

def summary : Topic → String
  | program => "Run engine that drives flow runs against an orchestration API"
  | demo => "Run the built-in demo flow and print its final state"
  | check => "Check that the configured orchestration API is reachable"
  | help => "Print this message or the help of the given subcommand(s)"

def commands : Topic → List String
  | program =>
    ["  demo   " ++ summary demo, "  check  " ++ summary check, "  help   " ++ summary help]
  | _ => []

def demoOptions : List String :=
  ["      --fail-times <FAIL_TIMES>  Number of attempts that fail before the flow succeeds",
    "      --retries <RETRIES>        Retries the orchestrator may grant after a failed attempt",
    "      --hold <HOLD>              RUNNING proposals held in PENDING before the run is admitted",
    "      --blocking                 Drive the run from a blocked thread instead of a runtime",
    "      --name <NAME>              Flow name",
    "      --param <PARAMS>           Flow parameter as KEY=VALUE"]

def options : Topic → List String
  | help => []
  | topic =>
    (if topic = demo then demoOptions else []) ++
      ["      --config <CONFIG>          Settings file to load instead of ./flowrun.toml",
        "  -v, --verbose                  Log at debug level",
        "  -h, --help                     Print help"] ++
      if topic = program then ["  -V, --version                  Print version"] else []

/-- The lines of help. -/
def lines (topic : Topic) : List String :=
  let section_ (title : String) (entries : List String) : List String :=
    if entries.isEmpty then [] else "" :: title :: entries
  [topic.summary, "", "Usage: " ++ topic.usage] ++ section_ "Commands:" topic.commands ++
    section_ "Options:" topic.options

end Topic

/-- The name of the program and its version. -/
def version : String := "flowrun 0.1.0"

/-! ## Refusals -/

/-- Why there is nothing to run. -/
inductive Refusal where
  | help (topic : Topic)
  | version
  | noArguments
  | missingCommand
  | unknownCommand (word : String)
  | unknownArgument (argument : String)
  /-- An option lacks the value it needs. -/
  | missingValue (option : String)
  /-- The value of an option is not what it has to be. -/
  | malformedValue (option : String)
  /-- An option that may be given once was given twice. -/
  | repeated (option : String)
  /-- An option that takes no value was given one. -/
  | needlessValue (option : String)
  deriving DecidableEq

namespace Refusal

def text : Refusal → String
  | help topic => "\n".intercalate topic.lines
  | version => CommandLine.version
  | noArguments => "\n".intercalate (Topic.lines .program)
  | missingCommand => "error: a command is required"
  | unknownCommand word => "error: unrecognized command " ++ word
  | unknownArgument argument => "error: unexpected argument " ++ argument
  | missingValue option => "error: a value is required for " ++ option
  | malformedValue option => "error: invalid value for " ++ option
  | repeated option => "error: the argument " ++ option ++ " cannot be used multiple times"
  | needlessValue option => "error: unexpected value for " ++ option

/-- Whether the user asked for it. -/
def isRequested : Refusal → Bool
  | help _ | version => true
  | _ => false

/-- The status that the program exits with. -/
def status (r : Refusal) : UInt32 := if r.isRequested then 0 else 2

end Refusal

end RunEngine.CommandLine
