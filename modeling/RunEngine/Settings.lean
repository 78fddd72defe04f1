import RunEngine.Program
import RunEngine.Toml.Reader

/-!
# Settings

Which orchestration API to use and how, read from a settings file in TOML. A file that is not there
sets nothing; one that is there has to be readable, and every known setting in it of the right
type. Unknown settings are skipped. Two environment variables take precedence over the file, unless
they are empty.
-/

namespace RunEngine

structure Settings where
  /-- The base URL of the API. Without one every run has an orchestrator in memory. -/
  apiUrl : Option String := none
  apiKey : Option String := none
  /-- Milliseconds between proposals to run while a run is held in PENDING. -/
  pendingPollInterval : Nat := 1000
  /-- Seconds. -/
  connectTimeout : Nat := 10
  /-- Seconds. -/
  requestTimeout : Nat := 30
  /-- Which log lines are written. -/
  logFilter : String := "info"
  deriving DecidableEq, Inhabited

/-- What is found where the settings file should be. -/
inductive SettingsFile where
  | missing
  | unreadable
  | text (content : String)
  deriving DecidableEq

/-- Why there are no settings. -/
inductive SettingsError where
  /-- The file cannot be read. -/
  | unreadable
  /-- The file is not a TOML document, or a setting in it has the wrong type. -/
  | malformed
  deriving DecidableEq

def SettingsError.text : SettingsError → String
  | unreadable => "the settings file cannot be read"
  | malformed => "the settings file is malformed"

namespace Settings

/-- The name of the settings file, in the working directory. -/
def fileName : String := "flowrun.toml"

/-! ## Reading -/

/-- A text. -/
def text? : Toml.Value → Option String
  | .string s => some s
  | _ => none

/-- A natural number. -/
def natural? : Toml.Value → Option Nat
  | .integer n => if 0 ≤ n then some n.toNat else none
  | _ => none

/-- A setting as `read` takes it, or its default when it is not in the file. -/
def setting {α : Type} (table : Toml.Table) (name : String) (default : α)
    (read : Toml.Value → Option α) : Option α :=
  match table.get? name with
  | none => some default
  | some value => read value

/-- The settings in the root table of a file. -/
def ofTable? (table : Toml.Table) : Option Settings := do
  let unset : Settings := {}
  return {
    apiUrl := ← setting table "api_url" unset.apiUrl fun v => (text? v).map some
    apiKey := ← setting table "api_key" unset.apiKey fun v => (text? v).map some
    pendingPollInterval :=
      ← setting table "pending_poll_interval_ms" unset.pendingPollInterval natural?
    connectTimeout := ← setting table "connect_timeout_secs" unset.connectTimeout natural?
    requestTimeout := ← setting table "request_timeout_secs" unset.requestTimeout natural?
    logFilter := ← setting table "log_filter" unset.logFilter text? }

/-- The settings of a file, by themselves. -/
def ofFile : SettingsFile → Except SettingsError Settings
  | .missing => .ok {}
  | .unreadable => .error .unreadable
  | .text content =>
    match (Toml.read content).bind ofTable? with
    | some settings => .ok settings
    | none => .error .malformed

/-- The value of an environment variable that is set to something. -/
def nonempty (environment : String → Option String) (name : String) : Option String :=
  (environment name).filter fun value => !value.isEmpty

/-- The settings with those of the environment in their place. -/
def override (s : Settings) (environment : String → Option String) : Settings :=
  { s with
    apiUrl := nonempty environment "FLOWRUN_API_URL" <|> s.apiUrl
    apiKey := nonempty environment "FLOWRUN_API_KEY" <|> s.apiKey }

/-- The settings of a file and of the environment. -/
def load (file : SettingsFile) (environment : String → Option String) :
    Except SettingsError Settings :=
  (ofFile file).map fun s => s.override environment

/-! ## Use -/

/-- The client that the settings describe. Requests to an API go to `peer`. -/
def client (s : Settings) (peer : Http.Peer) : Client :=
  match s.apiUrl with
  | some url => .remote (.ofUrl url s.apiKey peer)
  | none => .inMemory {}

/-- How runs are driven under the settings. -/
def runOptions (s : Settings) : RunOptions := { backoff := s.pendingPollInterval }

/-- Whether lines of a level are written to the log. A filter that is no level stands for `info`. -/
def logs (s : Settings) (verbose : Bool) (level : LogLevel) : Bool :=
  let least := if verbose then 0 else
    match s.logFilter with
    | "off" => 4
    | "error" => 3
    | "warn" => 2
    | "debug" | "trace" => 0
    | _ => 1
  least ≤ level.severity

end Settings

end RunEngine
