/-
Settings of the log: level, format, whether targets are shown, and a filter; given in code, by the
variables of the process, or by an environment.
-/
import Startup.Config.Environment

namespace Startup

inductive LogLevel where
  | trace
  | debug
  | info
  | warn
  | error
  deriving DecidableEq, Repr

def LogLevel.name : LogLevel → String
  | .trace => "trace"
  | .debug => "debug"
  | .info => "info"
  | .warn => "warn"
  | .error => "error"

/-- The name in capitals, as a line of the log bears it. -/
def LogLevel.label : LogLevel → String
  | .trace => "TRACE"
  | .debug => "DEBUG"
  | .info => "INFO"
  | .warn => "WARN"
  | .error => "ERROR"

/-- A level by its name in any case; `warning` is another name of `warn`. -/
def LogLevel.ofText? (s : String) : Option LogLevel :=
  let word := Text.toLower s
  if word == "warning" then some .warn
  else [LogLevel.trace, .debug, .info, .warn, .error].find? (·.name == word)

inductive LogFormat where
  | compact
  | full
  | json
  | pretty
  deriving DecidableEq, Repr

def LogFormat.name : LogFormat → String
  | .compact => "compact"
  | .full => "full"
  | .json => "json"
  | .pretty => "pretty"

/-- A format by its name in any case. -/
def LogFormat.ofText? (s : String) : Option LogFormat :=
  [LogFormat.compact, .full, .json, .pretty].find? (·.name == Text.toLower s)

structure LogSettings where
  level : LogLevel := .info
  format : LogFormat := .compact
  showTarget : Bool := false
  showThreadIds : Bool := false
  showThreadNames : Bool := false
  filter : Option String := none
  deriving DecidableEq, Repr

namespace LogSettings

def levelKey : String := "logging.level"
def formatKey : String := "logging.format"
def filterKey : String := "logging.filter"
def showTargetKey : String := "logging.show-target"

/-- A setting by the text under a key, or a default. A text that names nothing is an error. -/
def read {α : Type} (env : Environment) (key expected : String) (ofText? : String → Option α)
    (fallback : α) : Except StartupError α :=
  match env.getText? key with
  | none => .ok fallback
  | some s =>
    match ofText? s with
    | some a => .ok a
    | none => .error (.binding key s expected)

def ofEnvironment (env : Environment) : Except StartupError LogSettings := do
  let level ← read env levelKey "a log level" LogLevel.ofText? .info
  let format ← read env formatKey "one of compact, full, json, pretty" LogFormat.ofText? .compact
  let showTarget ← env.getFlag showTargetKey false
  pure { level, format, showTarget, filter := env.getText? filterKey }

/-- The settings that variables of the process give. A variable that names nothing is passed
over. -/
def ofVariables (vars : Variables) : LogSettings where
  level := ((vars.lookup "LOG_LEVEL").bind LogLevel.ofText?).getD .info
  format := ((vars.lookup "LOG_FORMAT").bind LogFormat.ofText?).getD .compact
  filter := vars.lookup "RUST_LOG"

/-- Why the log of a process that has one already cannot be set up. -/
def taken : String := "a global default trace dispatcher has already been set"

/-- Setting up the log of a process that may refuse it. The settings have no part in this. -/
def init (_settings : LogSettings) (refusal : Option String) : Except StartupError Unit :=
  match refusal with
  | none => .ok ()
  | some reason => .error (.loggingInit reason)

end LogSettings

end Startup
