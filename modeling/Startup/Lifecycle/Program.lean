/-
Code of the application as data: what a listener, a callback, a hook, a handler, a runner or an
observer does is a program over the public operations. A program may look at every object, keep
a memory of its own of type `σ`, use any operation and go on as the answer suggests.
-/
import Startup.Lifecycle.Store

namespace Startup

/-- What a panic carries. -/
inductive Panic where
  | text (s : String)
  /-- Something that is no text. -/
  | other

def Panic.message : Panic → String
  | .text s => s
  | .other => "unknown panic payload"

/-- What an announcer is asked to announce, with what goes along. -/
inductive Announcement where
  | starting
  | environmentPrepared (e : EnvironmentId)
  | contextPrepared (c : ContextId)
  | contextLoaded (c : ContextId)
  | started (c : ContextId)
  | running (c : ContextId)

namespace Announcement

def phase : Announcement → Phase
  | .starting => .starting
  | .environmentPrepared _ => .environmentPrepared
  | .contextPrepared _ => .contextPrepared
  | .contextLoaded _ => .contextLoaded
  | .started _ => .started
  | .running _ => .running

def context? : Announcement → Option ContextId
  | .contextPrepared c | .contextLoaded c | .started c | .running c => some c
  | _ => none

end Announcement

inductive Program (σ : Type) where
  /-- Ends with success or a fault. -/
  | finish (result : Except Fault Unit)
  | panic (payload : Panic)
  /-- Looks at all objects and at the memory. -/
  | observe (next : Store → σ → Program σ)
  | remember (memory : σ) (next : Program σ)
  | note (text : String) (next : Program σ)
  /-- Keeps an event beyond its delivery. -/
  | retain (e : Event) (next : Program σ)
  -- environments
  | newEnvironment (env : Environment) (next : EnvironmentId → Program σ)
  | addSource (e : EnvironmentId) (s : Source) (next : Program σ)
  | setProfiles (e : EnvironmentId) (profiles : List String) (next : Program σ)
  -- listeners
  | newOutput (next : OutputId → Program σ)
  | newListener (l : Listener) (onEvent : Event → Program σ) (onBind : ContextId → Program σ)
      (next : ListenerId → Program σ)
  | loadListeners (next : List ListenerId → Program σ)
  /-- Hands an event to a listener without a channel. -/
  | invoke (l : ListenerId) (e : Event) (next : Except Fault Unit → Program σ)
  -- channels
  | newChannel (next : ChannelId → Program σ)
  | register (ch : ChannelId) (l : ListenerId) (next : Program σ)
  | removeListeners (ch : ChannelId) (next : Program σ)
  | setHandler (ch : ChannelId) (handler : ListenerId → Event → Fault → Program σ)
      (next : Program σ)
  | logFailures (ch : ChannelId) (next : Program σ)
  | removeHandler (ch : ChannelId) (next : Program σ)
  | multicast (ch : ChannelId) (e : Event) (next : Except StartupError Unit → Program σ)
  -- contexts
  | newContext (name : String) (e : EnvironmentId) (next : ContextId → Program σ)
  /-- A context named by number. -/
  | newNumberedContext (e : EnvironmentId) (next : ContextId → Program σ)
  /-- A context that the application implements itself. -/
  | newHostedContext (name : String) (e : EnvironmentId) (active : Bool)
      (publish isolated : Event → Program σ) (next : ContextId → Program σ)
  | addListener (c : ContextId) (l : ListenerId) (next : Program σ)
  | onRefresh (c : ContextId) (callback : Program σ) (next : Program σ)
  | onClose (c : ContextId) (hook : Program σ) (next : Program σ)
  | refresh (c : ContextId) (next : Except StartupError Unit → Program σ)
  | close (c : ContextId) (next : Program σ)
  | publish (c : ContextId) (e : Event) (next : Except StartupError Unit → Program σ)
  | publishIsolated (c : ContextId) (e : Event) (next : Except StartupError Unit → Program σ)
  -- announcers
  | newAnnouncer (app : Descriptor) (args : List String) (next : AnnouncerId → Program σ)
  | announce (a : AnnouncerId) (what : Announcement) (next : Except StartupError Unit → Program σ)
  /-- Announces that the startup has failed. -/
  | announceFailure (a : AnnouncerId) (c : Option ContextId) (error : StartupError)
      (next : Program σ)
  /-- Hands a failure event to those who can still be reached. -/
  | reportFailure (ch : ChannelId) (c : Option ContextId) (e : Event) (next : Program σ)

/-- The program that does nothing. -/
def Program.done {σ : Type} : Program σ := .finish (.ok ())

instance {σ : Type} : Inhabited (Program σ) := ⟨.done⟩

end Startup
