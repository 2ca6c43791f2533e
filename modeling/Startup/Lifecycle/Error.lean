/-
What can go wrong during a startup. A fault is what the application's own code reports: a text, or
an error of the startup itself, under any number of texts that say in which context it arose. A
startup error may in turn carry a fault, as its cause or in its own place.
-/
import Startup.Lifecycle.Phase

namespace Startup

mutual
/-- A failure reported by the application's code. -/
inductive Fault where
  | text (s : String)
  | within (context : String) (cause : Fault)
  | startup (e : StartupError)

/-- A failure of the startup. -/
inductive StartupError where
  /-- A listener failed or panicked on an event. -/
  | listenerFailure (listener : String) (phase : Phase) (cause : Fault)
  /-- A property has a value that cannot be read as what is expected. -/
  | binding (key value expected : String)
  /-- There is no context, or it is closed. -/
  | contextUnavailable
  /-- A phase was announced out of order. -/
  | phaseOrder (previous : String) (next : Phase)
  /-- A configuration could not be loaded. -/
  | config (message : String)
  /-- The log could not be set up. -/
  | loggingInit (message : String)
  /-- A fault in its own words. -/
  | other (cause : Fault)
end

namespace StartupError

/-- The words for a listener's failure, without those of its cause. -/
def headline (listener : String) (phase : Phase) : String :=
  "Listener '" ++ listener ++ "' failed while handling " ++ phase.name ++ " event"

/-- The words for a value that cannot be read as what is expected. -/
def misread (key value expected : String) : String :=
  "Invalid value '" ++ value ++ "' for property '" ++ key ++ "': expected " ++ expected

/-- The words for a phase out of order. -/
def misplaced (previous : String) (next : Phase) : String :=
  "Lifecycle phase " ++ next.name ++ " cannot follow " ++ previous

/-- Words that say what went wrong, and those that say why. -/
def because (what why : String) : String := what ++ ": " ++ why

end StartupError

/-! ## Texts -/

mutual
/-- The outermost text. -/
def Fault.message : Fault → String
  | .text s => s
  | .within context _ => context
  | .startup e => e.message

/-- The outermost text. -/
def StartupError.message : StartupError → String
  | .listenerFailure listener phase _ => StartupError.headline listener phase
  | .binding key value expected => StartupError.misread key value expected
  | .contextUnavailable => "No usable application context"
  | .phaseOrder previous next => StartupError.misplaced previous next
  | .config message => StartupError.because "Configuration error" message
  | .loggingInit message => StartupError.because "Failed to initialize logging" message
  | .other cause => cause.message
end

/-! ## Causes -/

mutual
/-- What lies behind the outermost level. -/
def Fault.cause? : Fault → Option Fault
  | .text _ => none
  | .within _ cause => some cause
  | .startup e => e.cause?

/-- What lies behind the outermost level. A fault in its own words is no level, so what lies behind the
fault lies behind the error. -/
def StartupError.cause? : StartupError → Option Fault
  | .listenerFailure _ _ cause => some cause
  | .other cause => cause.cause?
  | _ => none
end

mutual
/-- What lies behind the outermost level, and what lies behind that, to the root. -/
def Fault.causes : Fault → List Fault
  | .text _ => []
  | .within _ cause => cause :: cause.causes
  | .startup e => e.causes

/-- What lies behind the outermost level, and what lies behind that, to the root. -/
def StartupError.causes : StartupError → List Fault
  | .listenerFailure _ _ cause => cause :: cause.causes
  | .other cause => cause.causes
  | _ => []
end

/-- The texts of a fault from the outermost to the root. -/
def Fault.chain (f : Fault) : List String := f.message :: f.causes.map Fault.message

/-- The texts of an error from the outermost to the root. -/
def StartupError.chain (e : StartupError) : List String := e.message :: e.causes.map Fault.message

/-- All texts, the outermost first. -/
def Fault.chainMessage (f : Fault) : String := ": ".intercalate f.chain

/-- All texts, the outermost first. -/
def StartupError.chainMessage (e : StartupError) : String := ": ".intercalate e.chain

/-! ## Between the two kinds -/

/-- The startup error that a fault is, or one in the fault's own words. -/
def Fault.toStartup : Fault → StartupError
  | .startup e => e
  | f => .other f

end Startup
