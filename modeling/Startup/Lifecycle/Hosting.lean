/-
Contexts. A context is created, becomes active by a refresh and is closed for good; it has its
listeners, each once, publishes events to them, and runs its callbacks at every refresh and its
hooks when it is closed.
-/
import Startup.Lifecycle.Delivery

namespace Startup

variable {σ : Type} (call : Caller σ)

/-! ## Listeners -/

/-- A further listener, unless the context has it. A context that the application implements
itself keeps a listener as often as it is added. -/
def addListener (c : ContextId) (l : ListenerId) : Action σ Unit := do
  record (.added c l)
  let s ← getStore
  if (s.context c).hosted.isNone && (s.listenersOf c).contains l then pure ()
  else register (.ofContext c) l

/-! ## Publishing -/

/-- An event published to a context's listeners. A closed context publishes nothing. -/
def publish (c : ContextId) (e : Event) : Action σ (Except StartupError Unit) := do
  let context := (← getStore).context c
  if context.hosted.isSome then
    return (← call (((← get).hostCode.get c).publish e)).mapError Fault.toStartup
  else if context.state = .closed then pure (.error .contextUnavailable)
  else multicast call (.ofContext c) e

/-- An event handed to each of a context's listeners whatever the others do. -/
def publishIsolated (c : ContextId) (e : Event) : Action σ (Except StartupError Unit) := do
  let s ← getStore
  if (s.context c).hosted.isSome then
    return (← call (((← get).hostCode.get c).isolated e)).mapError Fault.toStartup
  else deliver call .logging e (s.supporting e.phase (s.listenersOf c))

/-! ## Refreshing -/

def onRefresh (c : ContextId) (code : Program σ) : Action σ Unit := do
  let callback ← newCallback code
  modifyContext c fun context => { context with callbacks := context.callbacks ++ [callback] }
  record (.registered c callback)

/-- A callback or hook called by the refresh or closing of this number. -/
def callBack (turn : Nat) (c : ContextId) (callback : CallbackId) : Action σ (Except Fault Unit) := do
  record (.called turn c callback)
  call ((← get).callbackCode.get callback)

/-- Callbacks in turn up to the first that fails. -/
def runCallbacks (turn : Nat) (c : ContextId) : List CallbackId → Action σ (Except Fault Unit)
  | [] => pure (.ok ())
  | callback :: rest => do
    match ← callBack call turn c callback with
    | .ok () => runCallbacks turn c rest
    | .error fault => pure (.error fault)

/-- The callbacks of a context are taken from it for a refresh. -/
def beginRefresh (c : ContextId) : Action σ Nat := do
  let turn ← freshNumber
  record (.refreshing turn c ((← getStore).context c).callbacks)
  modifyContext c fun context => { context with callbacks := [] }
  pure turn

def restoreCallbacks (c : ContextId) (callbacks : List CallbackId) : Action σ Unit :=
  modifyContext c fun now => { now with callbacks := callbacks ++ now.callbacks }

def activate (turn : Nat) (c : ContextId) : Action σ Unit := do
  modifyContext c fun now => { now with state := .active }
  record (.refreshed turn c)

/-- The callbacks of a refresh are put before those registered meanwhile, and the context becomes
active if none has failed. -/
def endRefresh (turn : Nat) (c : ContextId) (callbacks : List CallbackId) :
    Except Fault Unit → Action σ (Except StartupError Unit)
  | .error fault => do
    restoreCallbacks c callbacks
    record (.refreshFailed turn c)
    pure (.error (.other fault))
  | .ok () => do
    restoreCallbacks c callbacks
    activate turn c
    pure (.ok ())

/-- A context that was only created runs its callbacks and becomes active if none fails. While they
run the context has none; those registered meanwhile are put behind them afterwards. -/
def refresh (c : ContextId) : Action σ (Except StartupError Unit) := do
  let context := (← getStore).context c
  if context.hosted.isSome then pure (.ok ())
  else if context.state ≠ .created then
    pure (.error (.other (.text ("Context '" ++ context.name ++ "' cannot be refreshed in state " ++
      context.state.name))))
  else do
    log .info ("Refreshing application context '" ++ context.name ++ "'")
    let turn ← beginRefresh c
    endRefresh turn c context.callbacks (← runCallbacks call turn c context.callbacks)

/-! ## Closing -/

def onClose (c : ContextId) (code : Program σ) : Action σ Unit := do
  let hook ← newCallback code
  modifyContext c fun context => { context with hooks := context.hooks ++ [hook] }

/-- Hooks in turn; a failure is logged and the next one runs. -/
def runHooks (turn : Nat) (c : ContextId) : List CallbackId → Action σ Unit
  | [] => pure ()
  | hook :: rest => do
    match ← callBack call turn c hook with
    | .ok () => pure ()
    | .error fault => log .error ("Shutdown hook failed: " ++ fault.chainMessage)
    runHooks turn c rest

/-- A context becomes closed, whatever it was. -/
def beginClosing (c : ContextId) : Action σ Nat := do
  let turn ← freshNumber
  record (.closing turn c ((← getStore).context c).hooks)
  modifyContext c fun context => { context with state := .closed }
  pure turn

/-- A context that is not closed yet is closed and then runs its hooks. -/
def close (c : ContextId) : Action σ Unit := do
  let context := (← getStore).context c
  if context.hosted.isSome || context.state == .closed then pure ()
  else do
    let turn ← beginClosing c
    log .info ("Closing application context '" ++ context.name ++ "'")
    runHooks call turn c context.hooks

end Startup
