/-
The two ways of a failure. An active context hands the failure to its own listeners, and the channel
stays as it is. Without one the channel takes the listeners of the context behind its own, as far as
it does not have them, logs failures from then on, and hands the failure to all of them. On either way
every listener hears of it, each failure among them is logged, and no panic stops it.
-/
import Startup.Proofs.Delivering
import Startup.Proofs.FailureDelivery

namespace Startup

variable {σ : Type}

/-! ## Handing it out -/

section Handing

variable {call : Caller σ} {ch : ChannelId} {c : Option ContextId} {e : Event} {w w' : World σ}

end Handing

/-! ## What stays -/

/-- A listener leaves a channel and a context's listeners and activity as they are. -/
structure Spares (ch : ChannelId) (c : Option ContextId)
    (leg : Leg σ ListenerId (Except Fault Unit)) : Prop where
  channel : leg.finish.store.channel ch = leg.start.store.channel ch
  listeners : ∀ d ∈ c, leg.finish.store.listenersOf d = leg.start.store.listenersOf d
  active : ∀ d ∈ c, (leg.finish.store.context d).isActive = (leg.start.store.context d).isActive

section Sparing

variable {does : ListenerId → World σ → Except Fault Unit → World σ → Prop} {ch : ChannelId}
  {c : Option ContextId} {w w' : World σ} {legs : List (Leg σ ListenerId (Except Fault Unit))}

end Sparing

/-! ## Reporting -/

end Startup
