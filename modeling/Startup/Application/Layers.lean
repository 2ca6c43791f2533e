/-
The layers of an application's configuration: its files, beside them the files of its active
profiles, and above both the variables of the process. Of two profiles the later one counts more,
and of two files on one layer the earlier one.
-/
import Startup.Config.Path
import Startup.Lifecycle.World

namespace Startup

/-- Where the configuration of an application comes from. -/
structure Layers where
  files : List String := ["application.toml"]
  /-- What the names of its variables begin with. -/
  variableStart : String := "APP_"
  /-- Profiles set in code. -/
  profiles : List String := []

namespace Layers

/-- The profiles set in code, or else those that a variable of the process lists. -/
def activeProfiles (layers : Layers) (vars : Variables) : List String :=
  if layers.profiles.isEmpty then
    match vars.lookup (layers.variableStart ++ "PROFILES_ACTIVE") with
    | some names => Text.commaItems names
    | none => []
  else layers.profiles

/-- The priority of the files of the profile at a place, a number of 32 bits: where the sum overflows it
wraps. -/
def profilePriority (place : Nat) : Int := (10 + Int32.ofNat place).toInt

/-- The files of a profile, with their priority. -/
def profileFiles (layers : Layers) (profile : String) (place : Nat) : List (String × Int) :=
  layers.files.map fun file => (Path.ofProfile file profile, profilePriority place)

/-- All files with their priorities, in the order they are loaded. -/
def candidates (layers : Layers) (profiles : List String) : List (String × Int) :=
  layers.files.map (·, 0) ++
    profiles.zipIdx.flatMap fun (profile, place) => layers.profileFiles profile place

variable {σ : Type}

/-- The environment with the sources of the files that exist. A file that cannot be read as a
document is an error. -/
def load (disk : Disk) : List (String × Int) → Environment → Action σ (Except StartupError Environment)
  | [], env => pure (.ok env)
  | (file, priority) :: rest, env =>
    if disk.exists? file then
      match Source.ofFile disk file priority with
      | .error e => pure (.error e)
      | .ok source => do
        log .info ("Loaded configuration from: " ++ file ++ " (priority: " ++
          Number.decimal priority ++ ")")
        load disk rest (env.add source)
    else load disk rest env

/-- The environment of an application before it has a context. -/
def prepare (layers : Layers) : Action σ (Except StartupError EnvironmentId) := do
  let w ← get
  let profiles := layers.activeProfiles w.vars
  match ← load w.disk (layers.candidates profiles) {} with
  | .error e => pure (.error e)
  | .ok env => do
    let env := env.add (.ofVariables layers.variableStart w.vars)
    log .info (if profiles.isEmpty then "No active profiles set, using default configuration"
      else "Active profiles: " ++ Text.bracketed (profiles.map Text.quoted))
    return .ok (← newEnvironment { env with profiles })

end Layers

end Startup
