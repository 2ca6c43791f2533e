/-
Delivery of events. A channel's listeners that support the phase are called one after the other, as
they and the channel's policy were when the delivery began; what a listener changes on the way
counts for later deliveries only.
-/
import Startup.Lifecycle.World

namespace Startup

variable {σ : Type} (call : Caller σ)

/-! ## One listener -/

/-- A console listener puts the settings of the event's environment into effect. -/
def configureConsole (output : OutputId) (e : Event) : Action σ (Except Fault Unit) := do
  let s ← getStore
  match s.environmentOf e with
  | none => pure (.ok ())
  | some env =>
    let (result, o) := (s.output output).configure (s.environment env)
    modifyStore fun s => { s with outputs := s.outputs.set output o }
    pure (result.mapError .startup)

/-- A log listener reads the settings of the event's environment and sets up the log with them. That the
log is set up already is no failure. -/
def configureLog (e : Event) : Action σ (Except Fault Unit) := do
  let s ← getStore
  match s.environmentOf e with
  | none => pure (.ok ())
  | some env =>
    match LogSettings.ofEnvironment (s.environment env) with
    | .error e => pure (.error (.startup e))
    | .ok settings => do
      let _ ← setUpLog settings
      pure (.ok ())

/-- A web listener computes its settings from the environment of the context it was told. -/
def configureWeb (l : ListenerId) (configuration : Web.Configuration) :
    Action σ (Except Fault Unit) := do
  let s ← getStore
  match (s.listener l).bound with
  | none => pure (.error (.startup .contextUnavailable))
  | some c =>
    match configuration.configure (s.environment (s.context c).environment) with
    | .error e => pure (.error (.startup e))
    | .ok settings =>
      log .info settings.summary
      modifyListener l fun listener => { listener with settings := some settings }
      pure (.ok ())

/-- What a listener does with an event. -/
def react (l : ListenerId) (e : Event) : Action σ (Except Fault Unit) := do
  match ((← getStore).listener l).kind with
  | .own => call (((← get).listenerCode.get l).onEvent e)
  | .console output => configureConsole output e
  | .log => configureLog e
  | .web configuration => configureWeb l configuration

/-- A listener is handed an event. -/
def handleEvent (l : ListenerId) (e : Event) : Action σ (Except Fault Unit) := do
  record (.delivered l e)
  react call l e

/-- A listener is told its context. -/
def bindContext (l : ListenerId) (c : ContextId) : Action σ Unit := do
  record (.bound l c ((← getStore).listenersOf c))
  modifyListener l fun listener => { listener with bound := some c }
  let _ ← call (((← get).listenerCode.get l).onBind c)

/-! ## All listeners of a channel -/

/-- What is done about a listener's failure: the error that ends the delivery, if it ends. -/
def onFailure (policy : Policy) (l : ListenerId) (e : Event) (fault : Fault) :
    Action σ (Except StartupError Unit) := do
  let name := ((← getStore).listener l).name
  match policy with
  | .failFast =>
    log .error (StartupError.headline name e.phase ++ ": " ++ fault.chainMessage)
    pure (.error (.listenerFailure name e.phase fault))
  | .logging =>
    log .warn ("Error calling listener '" ++ name ++ "' for " ++ e.phase.name ++ " event: " ++
      fault.chainMessage)
    pure (.ok ())
  | .handler n =>
    record (.handled l e fault)
    let _ ← call ((← get).handlerCode.get n l e fault)
    pure (.ok ())

/-- An event handed to listeners in turn. -/
def deliver (policy : Policy) (e : Event) : List ListenerId → Action σ (Except StartupError Unit)
  | [] => pure (.ok ())
  | l :: rest => do
    match ← catching (handleEvent call l e) with
    | .ok () => deliver policy e rest
    | .error fault =>
      match ← onFailure call policy l e fault with
      | .ok () => deliver policy e rest
      | .error error => pure (.error error)

/-- The listeners among the given ones that support a phase. -/
def Store.supporting (s : Store) (p : Phase) (ls : List ListenerId) : List ListenerId :=
  ls.filter fun l => (s.listener l).supports p

/-- An event handed to the listeners of a channel. -/
def multicast (ch : ChannelId) (e : Event) : Action σ (Except StartupError Unit) := do
  let s ← getStore
  let channel := s.channel ch
  deliver call channel.policy e (s.supporting e.phase channel.listeners)

end Startup
