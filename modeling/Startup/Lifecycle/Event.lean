/-
Startup events, and the names of the objects that take part in a startup. An object is told from
others by its identity alone, never by its name or content.
-/
import Startup.Lifecycle.Error
import Startup.Text.Quoted

namespace Startup

/-! ## Identities -/

structure EnvironmentId where
  number : Nat
  deriving DecidableEq, Repr

structure OutputId where
  number : Nat
  deriving DecidableEq, Repr

structure ListenerId where
  number : Nat
  deriving DecidableEq, Repr

structure ContextId where
  number : Nat
  deriving DecidableEq, Repr

structure AnnouncerId where
  number : Nat
  deriving DecidableEq, Repr

/-- A piece of code registered with a context, to be run when it is refreshed or closed. -/
structure CallbackId where
  number : Nat
  deriving DecidableEq, Repr

/-- A channel belongs to a context, is the early one of an announcer, or stands alone. -/
inductive ChannelId where
  | ofContext (c : ContextId)
  | early (a : AnnouncerId)
  | free (number : Nat)
  deriving DecidableEq, Repr

/-! ## Events -/

/-- What a startup tells about its application. -/
structure Descriptor where
  name : String
  listeners : List ListenerId := []
  deriving Inhabited

/-- The cause of a failed startup. Two causes with the same error are still two. -/
structure Cause where
  number : Nat
  error : StartupError

inductive Payload where
  | none
  | environment (e : EnvironmentId)
  | context (c : ContextId)
  | failure (c : Option ContextId) (cause : Cause)

structure Event where
  phase : Phase
  application : Descriptor
  args : List String
  payload : Payload

namespace Event

def context? (e : Event) : Option ContextId :=
  match e.payload with
  | .context c => some c
  | .failure c _ => c
  | _ => none

def cause? (e : Event) : Option Cause :=
  match e.payload with
  | .failure _ cause => some cause
  | _ => none

/-! Each phase has its own kind of event. -/

def starting (app : Descriptor) (args : List String) : Event := ⟨.starting, app, args, .none⟩

def environmentPrepared (app : Descriptor) (args : List String) (e : EnvironmentId) : Event :=
  ⟨.environmentPrepared, app, args, .environment e⟩

/-- An event of one of the phases that have a context. -/
def withContext (phase : Phase) (app : Descriptor) (args : List String) (c : ContextId) : Event :=
  ⟨phase, app, args, .context c⟩

def failed (app : Descriptor) (args : List String) (c : Option ContextId) (cause : Cause) : Event :=
  ⟨.failed, app, args, .failure c cause⟩

/-- The event as it is shown, given how contexts are named. -/
def shown (nameOf : ContextId → String) (e : Event) : String :=
  "StartupEvent \x7b phase: " ++ e.phase.title ++
    ", application: " ++ Text.quoted e.application.name ++
    ", args: " ++ Text.bracketed (e.args.map Text.quoted) ++
    ", context: " ++ Text.wrappedOption (e.context?.map fun c => Text.quoted (nameOf c)) ++
    ", cause: " ++ Text.wrappedOption (e.cause?.map fun c => Text.quoted c.error.message) ++
    " \x7d"

end Event

end Startup
