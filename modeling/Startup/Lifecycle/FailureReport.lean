/-
Whom a failure event reaches. An active context publishes it to its own listeners. Otherwise the
listeners registered so far hear of it through the early channel, together with those the context
has and the channel does not know. Either way a listener that fails keeps no other from hearing.
-/
import Startup.Lifecycle.Hosting

namespace Startup

variable {σ : Type} (call : Caller σ)

/-- The listeners of a context, if there is one, that are not among those a channel had before. -/
def adoptListeners (ch : ChannelId) : Option ContextId → Action σ Unit
  | none => pure ()
  | some c => do
    let s ← getStore
    let known := (s.channel ch).listeners
    ((s.listenersOf c).filter fun l => !known.contains l).forM (register ch)

/-- The context, if it is there and active. -/
def Store.active? (s : Store) (c : Option ContextId) : Option ContextId :=
  c.filter fun c => (s.context c).isActive

def deliverFailure (ch : ChannelId) (c : Option ContextId) (e : Event) :
    Action σ (Except StartupError Unit) := do
  match (← getStore).active? c with
  | some active => publishIsolated call active e
  | none => do
    adoptListeners ch c
    setPolicy ch .logging
    multicast call ch e

def reportFailure (ch : ChannelId) (c : Option ContextId) (e : Event) : Action σ Unit := do
  match ← deliverFailure call ch c e with
  | .ok () => pure ()
  | .error error => log .warn ("Error publishing failure event: " ++ error.message)

end Startup
