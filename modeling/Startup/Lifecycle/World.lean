/-
The world that programs act on: the objects, the code registered with them, the memory of the
application, and of the process its files, its variables and whether its log is set up. An action changes
the world and ends with a value, or is stopped by a panic or because code called code too deeply; the
change stays.
-/
import Startup.Config.Disk
import Startup.Lifecycle.Program

namespace Startup

/-! ## Code -/

structure ListenerCode (σ : Type) where
  onEvent : Event → Program σ
  onBind : ContextId → Program σ

instance {σ : Type} : Inhabited (ListenerCode σ) := ⟨⟨fun _ => .done, fun _ => .done⟩⟩

/-- How a context that the application implements itself publishes events. -/
structure HostCode (σ : Type) where
  publish : Event → Program σ
  isolated : Event → Program σ

instance {σ : Type} : Inhabited (HostCode σ) := ⟨⟨fun _ => .done, fun _ => .done⟩⟩

/-- What is run on a listener's failure. -/
abbrev HandlerCode (σ : Type) := ListenerId → Event → Fault → Program σ

/-- A listener that every application gets unless it declines; the one of lower order comes
first. -/
structure DefaultListener (σ : Type) where
  name : String
  order : Int
  listener : Listener
  code : ListenerCode σ := default

/-! ## The world -/

structure World (σ : Type) where
  store : Store := {}
  listenerCode : Table ListenerId (ListenerCode σ) := {}
  callbackCode : Table CallbackId (Program σ) := {}
  handlerCode : Table Nat (HandlerCode σ) := {}
  hostCode : Table ContextId (HostCode σ) := {}
  memory : σ
  disk : Disk := {}
  vars : Variables := []
  defaults : List (DefaultListener σ) := []
  /-- Why the process refuses to have its log set up, if it does. -/
  logRefusal : Option String := none

/-- Why an action does not end with a value. -/
inductive Stop where
  | panic (payload : Panic)
  /-- Code called code more deeply than was allowed. -/
  | tooDeep

abbrev Action (σ α : Type) := ExceptT Stop (StateM (World σ)) α

/-- How programs are run when the code of an object is called. -/
abbrev Caller (σ : Type) := Program σ → Action σ (Except Fault Unit)

variable {σ : Type}

/-! ## Small actions -/

def getStore : Action σ Store := return (← get).store

def modifyStore (f : Store → Store) : Action σ Unit :=
  modify fun w => { w with store := f w.store }

def record (e : Entry) : Action σ Unit := modifyStore (·.record e)

def log (severity : Severity) (text : String) : Action σ Unit := record (.logged severity text)

def print (text : String) : Action σ Unit :=
  modifyStore fun s => { s with printed := s.printed ++ text }

/-- A number that no object has. -/
def freshNumber : Action σ Nat := do
  let n := (← getStore).fresh
  modifyStore fun s => { s with fresh := n + 1 }
  pure n

/-- The log of the process is set up, which is done once: whether or not this went well, the process
refuses it from then on. -/
def setUpLog (settings : LogSettings) : Action σ (Except StartupError Unit) := do
  let refusal := (← get).logRefusal
  modify fun w => { w with logRefusal := some LogSettings.taken }
  pure (settings.init refusal)

/-- A panic becomes a fault. -/
def catching (a : Action σ (Except Fault Unit)) : Action σ (Except Fault Unit) := fun w =>
  match a w with
  | (.error (.panic payload), w) =>
    (.ok (.error (.text ("Listener panicked: " ++ payload.message))), w)
  | result => result

/-! ## Making objects -/

def newEnvironment (env : Environment) : Action σ EnvironmentId := do
  let e : EnvironmentId := ⟨← freshNumber⟩
  modifyStore fun s => { s with environments := s.environments.set e env }
  pure e

def modifyEnvironment (e : EnvironmentId) (f : Environment → Environment) : Action σ Unit :=
  modifyStore fun s => { s with environments := s.environments.modify e f }

def newOutput : Action σ OutputId := return ⟨← freshNumber⟩

def newListener (l : Listener) (code : ListenerCode σ) : Action σ ListenerId := do
  let id : ListenerId := ⟨← freshNumber⟩
  modify fun w => { w with
    store := { w.store with listeners := w.store.listeners.set id l }
    listenerCode := w.listenerCode.set id code }
  pure id

def modifyListener (l : ListenerId) (f : Listener → Listener) : Action σ Unit :=
  modifyStore fun s => { s with listeners := s.listeners.modify l f }

/-- The default listeners in the order they are registered, each made anew. -/
def loadListeners : Action σ (List ListenerId) := do
  let sorted := (← get).defaults.mergeSort fun a b =>
    a.order < b.order || (a.order == b.order && a.name ≤ b.name)
  sorted.mapM fun d => newListener d.listener d.code

def newCallback (code : Program σ) : Action σ CallbackId := do
  let id : CallbackId := ⟨← freshNumber⟩
  modify fun w => { w with callbackCode := w.callbackCode.set id code }
  pure id

def newContext (c : Context) : Action σ ContextId := do
  let id : ContextId := ⟨← freshNumber⟩
  modifyStore fun s => { s with contexts := s.contexts.set id c }
  record (.madeContext id)
  pure id

/-- A context named by the next number. -/
def newNumberedContext (e : EnvironmentId) : Action σ ContextId := do
  let n := (← getStore).sequence
  modifyStore fun s => { s with sequence := n + 1 }
  newContext { name := "application-" ++ Number.decimal n, environment := e }

def modifyContext (c : ContextId) (f : Context → Context) : Action σ Unit :=
  modifyStore fun s => { s with contexts := s.contexts.modify c f }

def modifyChannel (ch : ChannelId) (f : Channel → Channel) : Action σ Unit :=
  modifyStore fun s => { s with channels := s.channels.modify ch f }

def setPolicy (ch : ChannelId) (policy : Policy) : Action σ Unit :=
  modifyChannel ch fun channel => { channel with policy }

/-- A listener put behind those of a channel, whether or not it is among them. -/
def register (ch : ChannelId) (l : ListenerId) : Action σ Unit :=
  modifyChannel ch fun channel => { channel with listeners := channel.listeners ++ [l] }

def setHandler (ch : ChannelId) (code : HandlerCode σ) : Action σ Unit := do
  let n ← freshNumber
  modify fun w => { w with handlerCode := w.handlerCode.set n code }
  setPolicy ch (.handler n)

end Startup
