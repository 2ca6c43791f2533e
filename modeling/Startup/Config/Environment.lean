/-
The environment of an application: its sources of properties in the order they are asked, and its
active profiles. The first source that has a key decides its value, whether or not that value can
be read as what is asked for.
-/
import Startup.Config.Source
import Startup.Text.Quoted

namespace Startup

structure Environment where
  sources : List Source := []
  profiles : List String := []

instance : Inhabited Environment := ⟨{}⟩

namespace Environment

/-- The sources with a further one: behind all that have its priority or a higher one. -/
def insertSource (s : Source) : List Source → List Source
  | [] => [s]
  | t :: rest => if t.priority < s.priority then s :: t :: rest else t :: insertSource s rest

def add (env : Environment) (s : Source) : Environment :=
  { env with sources := insertSource s env.sources }

def ofSources (sources : List Source) : Environment := sources.foldl add {}

def sourceNames (env : Environment) : List String := env.sources.map (·.name)

/-! ## Look-up -/

def get? (env : Environment) (key : String) : Option Value :=
  env.sources.findSome? (·.get? key)

def contains (env : Environment) (key : String) : Bool := (env.get? key).isSome

def getText? (env : Environment) (key : String) : Option String := (env.get? key).map (·.display)

def getTextOr (env : Environment) (key fallback : String) : String :=
  (env.getText? key).getD fallback

def getInt? (env : Environment) (key : String) : Option Int64 := (env.get? key).bind (·.asInt?)

def getBool? (env : Environment) (key : String) : Option Bool := (env.get? key).bind (·.asBool?)

def getBoolOr (env : Environment) (key : String) (fallback : Bool) : Bool :=
  (env.getBool? key).getD fallback

def getTexts? (env : Environment) (key : String) : Option (List String) :=
  (env.get? key).bind (·.asTexts?)

/-- A truth value that may be unset. A value that is no truth value is an error. -/
def getTriState (env : Environment) (key : String) : Except StartupError (Option Bool) :=
  match env.get? key with
  | none => .ok none
  | some v =>
    match v.asBool? with
    | some b => .ok (some b)
    | none => .error (.binding key v.display "a boolean")

/-- A truth value that may be unset, with a fallback that may be unset too. -/
def getPropertyOr (env : Environment) (key : String) (fallback : Option Bool) :
    Except StartupError (Option Bool) :=
  (env.getTriState key).map (·.or fallback)

/-- A truth value with a fallback. -/
def getFlag (env : Environment) (key : String) (fallback : Bool) : Except StartupError Bool :=
  (env.getTriState key).map (·.getD fallback)

/-! ## Profiles -/

def acceptsProfile (env : Environment) (profile : String) : Bool := env.profiles.contains profile

/-- The environment as it is shown: its profiles and the number of its sources. -/
def shown (env : Environment) : String :=
  "Environment \x7b active_profiles: " ++ Text.bracketed (env.profiles.map Text.quoted) ++
    ", sources_count: " ++ Number.decimal env.sources.length ++ " \x7d"

end Environment

end Startup
