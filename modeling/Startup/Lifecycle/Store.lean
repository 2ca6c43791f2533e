/-
The objects of a startup as plain data: environments, console outputs, listeners, channels,
contexts and announcers, and the journal of what has happened so far.
-/
import Startup.Console.Ansi
import Startup.Console.LogSettings
import Startup.Lifecycle.Event
import Startup.Lifecycle.Table
import Startup.Web.Settings

namespace Startup

/-! ## Listeners -/

inductive Listener.Kind where
  /-- Runs code of the application. -/
  | own
  /-- Puts the console settings of an environment into effect. -/
  | console (output : OutputId)
  /-- Sets up the log as an environment asks. -/
  | log
  /-- Computes the settings of a web application when a context has been loaded. -/
  | web (configuration : Web.Configuration)

structure Listener where
  name : String := "AnonymousListener"
  /-- The phases it listens to; without a list, all. -/
  phases : Option (List Phase) := none
  /-- Whether it is told its context before the context is announced as loaded. -/
  aware : Bool := false
  kind : Listener.Kind := .own
  /-- The context it was told last. -/
  bound : Option ContextId := none
  /-- The settings it computed last. -/
  settings : Option Web.Settings := none
  deriving Inhabited

namespace Listener

def supports (l : Listener) (p : Phase) : Bool :=
  match l.phases with
  | none => true
  | some ps => ps.contains p

def console (output : OutputId) : Listener where
  name := "AnsiOutputListener"
  phases := some [.environmentPrepared]
  kind := .console output

def log : Listener where
  name := "LoggingListener"
  phases := some [.environmentPrepared]
  kind := .log

def web (configuration : Web.Configuration) : Listener where
  name := "WebMvcAutoConfiguration"
  phases := some [.contextLoaded]
  aware := true
  kind := .web configuration

end Listener

/-! ## Channels -/

/-- What happens when a listener fails. -/
inductive Policy where
  /-- The first failure ends the delivery. -/
  | failFast
  /-- A failure is logged, and the delivery goes on. -/
  | logging
  /-- A failure is handed to code of the application, and the delivery goes on. -/
  | handler (number : Nat)
  deriving DecidableEq

def Policy.isIsolated : Policy → Bool
  | .failFast => false
  | _ => true

/-- A channel hands every event to its listeners, in the order they were registered. -/
structure Channel where
  listeners : List ListenerId := []
  policy : Policy := .failFast
  deriving Inhabited

/-! ## Contexts -/

inductive ContextState where
  | created
  | active
  | closed
  deriving DecidableEq, Repr, Inhabited

def ContextState.name : ContextState → String
  | .created => "Created"
  | .active => "Active"
  | .closed => "Closed"

structure Context where
  name : String := ""
  environment : EnvironmentId := ⟨0⟩
  state : ContextState := .created
  /-- Run at every refresh, in this order. -/
  callbacks : List CallbackId := []
  /-- Run when the context is closed, in this order. -/
  hooks : List CallbackId := []
  /-- For a context that the application implements itself: whether it is active. -/
  hosted : Option Bool := none
  deriving Inhabited

def Context.isActive (c : Context) : Bool := c.hosted.getD (c.state == .active)

/-! ## Announcers -/

/-- An announcer tells the listeners of an application about the phases of its startup. -/
structure Announcer where
  application : Descriptor := default
  args : List String := []
  /-- The phase announced last. -/
  last : Option Phase := none
  deriving Inhabited

/-! ## The journal -/

inductive Severity where
  | info
  | warn
  | error
  deriving DecidableEq, Repr

def Severity.label : Severity → String
  | .info => "INFO"
  | .warn => "WARN"
  | .error => "ERROR"

/-- A step of a run; those of its observers are counted by their place. -/
inductive RunStep where
  | starting (observer : Nat)
  | prepareEnvironment
  | environmentPrepared (observer : Nat)
  | createContext
  | initializer (place : Nat)
  | contextPrepared (observer : Nat)
  | contextLoaded (observer : Nat)
  | refresh
  | started (observer : Nat)
  | runner (place : Nat)
  | running (observer : Nat)
  deriving DecidableEq, Repr

inductive Entry where
  | logged (severity : Severity) (text : String)
  /-- A record made by the application. -/
  | noted (text : String)
  /-- An event was handed to a listener. -/
  | delivered (l : ListenerId) (e : Event)
  /-- A listener's failure was handed to a channel's handler. -/
  | handled (l : ListenerId) (e : Event) (fault : Fault)
  /-- A listener was told its context, which had these listeners then. -/
  | bound (l : ListenerId) (c : ContextId) (present : List ListenerId)
  | madeAnnouncer (a : AnnouncerId)
  /-- An announcer entered a phase. -/
  | entered (a : AnnouncerId) (p : Phase)
  | madeContext (c : ContextId)
  /-- A listener was added to a context, whether or not the context had it. -/
  | added (c : ContextId) (l : ListenerId)
  /-- A callback was registered for the refreshes of a context. -/
  | registered (c : ContextId) (callback : CallbackId)
  /-- A refresh of a context began, with these callbacks; the number tells it from all others. -/
  | refreshing (turn : Nat) (c : ContextId) (callbacks : List CallbackId)
  /-- A refresh ended well, and the context became active. -/
  | refreshed (turn : Nat) (c : ContextId)
  /-- A refresh ended with the failure of a callback. -/
  | refreshFailed (turn : Nat) (c : ContextId)
  /-- A context became closed, and these hooks are run. -/
  | closing (turn : Nat) (c : ContextId) (hooks : List CallbackId)
  /-- A callback or hook of a context was called by a refresh or closing. -/
  | called (turn : Nat) (c : ContextId) (callback : CallbackId)
  /-- A step of a run began. -/
  | stepped (step : RunStep)
  /-- An observer of a run was told of its failure. -/
  | reported (observer : Nat) (c : Option ContextId) (cause : Cause)

/-! ## The store -/

structure Store where
  environments : Table EnvironmentId Environment := {}
  outputs : Table OutputId AnsiOutput := {}
  listeners : Table ListenerId Listener := {}
  channels : Table ChannelId Channel := {}
  contexts : Table ContextId Context := {}
  announcers : Table AnnouncerId Announcer := {}
  journal : Array Entry := #[]
  /-- Events that the application keeps beyond their delivery. -/
  retained : List Event := []
  /-- What was printed. -/
  printed : String := ""
  /-- Greater than the number of every object that was made. -/
  fresh : Nat := 0
  /-- The number of the next context named by number. -/
  sequence : Nat := 0

namespace Store

def environment (s : Store) (e : EnvironmentId) : Environment := s.environments.get e
def output (s : Store) (o : OutputId) : AnsiOutput := s.outputs.get o
def listener (s : Store) (l : ListenerId) : Listener := s.listeners.get l
def channel (s : Store) (ch : ChannelId) : Channel := s.channels.get ch
def context (s : Store) (c : ContextId) : Context := s.contexts.get c
def announcer (s : Store) (a : AnnouncerId) : Announcer := s.announcers.get a

/-- The listeners of a context. -/
def listenersOf (s : Store) (c : ContextId) : List ListenerId := (s.channel (.ofContext c)).listeners

/-- The environment that an event carries, or that of its context. -/
def environmentOf (s : Store) (e : Event) : Option EnvironmentId :=
  match e.payload with
  | .environment env => some env
  | _ => e.context?.map fun c => (s.context c).environment

/-- A context as it is shown. -/
def shownContext (s : Store) (c : ContextId) : String :=
  "GenericApplicationContext \x7b id: " ++ Text.quoted (s.context c).name ++
    ", state: " ++ (s.context c).state.name ++
    ", listeners: " ++ Number.decimal (s.listenersOf c).length ++ " \x7d"

def record (s : Store) (e : Entry) : Store := { s with journal := s.journal.push e }

end Store

end Startup
