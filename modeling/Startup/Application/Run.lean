/-
Running an application. Its observers, the announcer among them, are told of each phase in turn
while the environment is prepared and the context is made, initialized, loaded and refreshed, and
the runners are called. The first step that fails ends the run: the observers are told of its error,
the context is closed, and the error is the run's result.
-/
import Startup.Application.Banner
import Startup.Application.Layers
import Startup.Lifecycle.Execution

namespace Startup

variable {σ : Type}

/-! ## Observers -/

/-- An observer that the application implements itself. -/
structure ObserverCode (σ : Type) where
  /-- The one of lower order is told first. -/
  order : Int := 0
  onPhase : Announcement → Program σ
  onFailure : Option ContextId → Cause → Program σ

inductive Observer (σ : Type) where
  | announcer (a : AnnouncerId)
  | own (code : ObserverCode σ)

/-- How an observer is made: code to run then, and the observer's own code; without any, it is a
further announcer. -/
structure ObserverFactory (σ : Type) where
  prepare : Descriptor → List String → Program σ
  code : Descriptor → List String → Option (ObserverCode σ)

namespace Observer

def order : Observer σ → Int
  | .announcer _ => 0
  | .own code => code.order

def announce (call : Caller σ) (what : Announcement) : Observer σ → Action σ (Except StartupError Unit)
  | .announcer a => Startup.announce call a what
  | .own code => return (← call (code.onPhase what)).mapError Fault.toStartup

def announceFailure (call : Caller σ) (c : Option ContextId) (cause : Cause) :
    Observer σ → Action σ Unit
  | .announcer a => Startup.announceFailure call a c cause
  | .own code => do let _ ← call (code.onFailure c cause)

end Observer

/-! ## Applications -/

structure Application (σ : Type) where
  name : String := "ChimeraApplication"
  layers : Layers := {}
  showBanner : Bool := true
  /-- Settings of the log to put into effect before everything else. -/
  logging : Option LogSettings := none
  /-- Whether it gets the default listeners, before its own. -/
  withDefaults : Bool := true
  listeners : List ListenerId := []
  initializers : List (ContextId → Program σ) := []
  runners : List (ContextId → List String → Program σ) := []
  observers : List (ObserverFactory σ) := []

namespace Application

variable (call : Caller σ)

/-! ## Steps -/

/-- A step of a run with what it does. -/
abbrev Task (σ : Type) := RunStep × Action σ (Except StartupError Unit)

/-- A step begins. -/
def perform {α : Type} (step : RunStep) (act : Action σ α) : Action σ α := do
  record (.stepped step)
  act

/-- Steps in turn up to the first that fails. -/
def performAll : List (Task σ) → Action σ (Except StartupError Unit)
  | [] => pure (.ok ())
  | (step, act) :: rest => do
    match ← perform step act with
    | .ok () => performAll rest
    | .error e => pure (.error e)

/-- A phase announced to each observer. -/
def announcing (step : Nat → RunStep) (what : Announcement) (observers : List (Observer σ)) :
    List (Task σ) :=
  observers.zipIdx.map fun (o, i) => (step i, o.announce call what)

/-- Code of the application as a step; a fault ends the run in its own words. -/
def calling (step : Nat → RunStep) (programs : List (Program σ)) : List (Task σ) :=
  programs.zipIdx.map fun (p, i) => (step i, return (← call p).mapError StartupError.other)

/-- The steps of a run once the context is made. -/
def tasks (app : Application σ) (observers : List (Observer σ)) (args : List String)
    (c : ContextId) : List (Task σ) :=
  calling call .initializer (app.initializers.map (· c)) ++
  announcing call .contextPrepared (.contextPrepared c) observers ++
  announcing call .contextLoaded (.contextLoaded c) observers ++
  [(.refresh, Startup.refresh call c)] ++
  announcing call .started (.started c) observers ++
  calling call .runner (app.runners.map (· c args)) ++
  announcing call .running (.running c) observers

/-- The steps before the context is made, which give its environment. -/
def environment (app : Application σ) (observers : List (Observer σ)) :
    Action σ (Except StartupError EnvironmentId) := do
  match ← performAll (announcing call .starting .starting observers) with
  | .error e => pure (.error e)
  | .ok () =>
    match ← perform .prepareEnvironment app.layers.prepare with
    | .error e => pure (.error e)
    | .ok env =>
      match ← performAll
          (announcing call .environmentPrepared (.environmentPrepared env) observers) with
      | .error e => pure (.error e)
      | .ok () => pure (.ok env)

/-- The banner, if it is wanted, and the context. -/
def createContext (app : Application σ) (env : EnvironmentId) : Action σ ContextId := do
  if app.showBanner then print banner
  perform .createContext (newNumberedContext env)

/-! ## The end of a failed run -/

/-- Every observer is told of the failure, whatever becomes of the others. -/
def reportAll (c : Option ContextId) (cause : Cause) : List (Observer σ × Nat) → Action σ Unit
  | [] => pure ()
  | (o, i) :: rest => do
    record (.reported i c cause)
    o.announceFailure call c cause
    reportAll c cause rest

/-- The error that a run ends with: its cause, or a copy of its words if the application keeps an
event that has the cause. -/
def outcome (s : Store) (cause : Cause) : StartupError :=
  if s.retained.any fun e => e.cause?.any (·.number == cause.number) then
    .other (.text cause.error.chainMessage)
  else cause.error

def fail (observers : List (Observer σ)) (c : Option ContextId) (error : StartupError) :
    Action σ StartupError := do
  log .error ("Application run failed: " ++ error.chainMessage)
  let cause ← newCause error
  reportAll call c cause observers.zipIdx
  if let some c := c then Startup.close call c
  return outcome (← getStore) cause

/-! ## Runs -/

/-- The observers of a run in the order they are told: the announcer, and those that the
application adds. -/
def makeObservers (app : Application σ) (descriptor : Descriptor) (args : List String) :
    Action σ (List (Observer σ)) := do
  let first := Observer.announcer (← newAnnouncer descriptor args)
  let others ← app.observers.mapM fun factory => do
    let _ ← call (factory.prepare descriptor args)
    match factory.code descriptor args with
    | some code => pure (Observer.own code)
    | none => return Observer.announcer (← newAnnouncer descriptor args)
  pure ((first :: others).mergeSort fun a b => a.order ≤ b.order)

/-- The listeners of an application, the default ones first. -/
def describe (app : Application σ) : Action σ Descriptor := do
  let defaults ← if app.withDefaults then loadListeners else pure []
  pure { name := app.name, listeners := defaults ++ app.listeners }

/-- The log is set up, where the application has settings for it. -/
def readyLog (app : Application σ) : Action σ (Except StartupError Unit) :=
  match app.logging with
  | none => pure (.ok ())
  | some settings => setUpLog settings

/-- What an application does before its first step. -/
def opening (app : Application σ) (args : List String) :
    Action σ (Descriptor × List (Observer σ)) := do
  let d ← app.describe
  let observers ← app.makeObservers call d args
  log .info ("Starting " ++ app.name ++ " application")
  return (d, observers)

/-- The steps of a run up to the first that fails: the context, or the error with the context that
had been made by then. -/
def attempt (app : Application σ) (observers : List (Observer σ)) (args : List String) :
    Action σ (Except (Option ContextId × StartupError) ContextId) := do
  match ← app.environment call observers with
  | .error e => pure (.error (none, e))
  | .ok env => do
    let c ← app.createContext env
    match ← performAll (app.tasks call observers args c) with
    | .ok () => pure (.ok c)
    | .error e => pure (.error (some c, e))

/-- The context of a successful run, or the error of a failed one. -/
def run (app : Application σ) (args : List String) : Action σ (Except StartupError ContextId) := do
  match ← app.readyLog with
  | .error e => pure (.error e)
  | .ok () =>
    let (_, observers) ← app.opening call args
    match ← app.attempt call observers args with
    | .ok c => pure (.ok c)
    | .error (c, e) => return .error (← fail call observers c e)

end Application

end Startup
