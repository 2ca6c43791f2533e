/-
Running programs. Each operation of a program is carried out on the world, and the program goes on
with its answer. Code that an operation calls is run by a caller; the caller that allows `n` levels
of calls is built from the one that allows `n - 1`.
-/
import Startup.Lifecycle.Announcing

namespace Startup

variable {σ : Type}

/-- A cause told apart from all others. -/
def newCause (error : StartupError) : Action σ Cause := return ⟨← freshNumber, error⟩

namespace Program

/-- A program run by a caller for the code that it calls. -/
def run (call : Caller σ) : Program σ → Action σ (Except Fault Unit)
  | .finish result => pure result
  | .panic payload => throw (.panic payload)
  | .observe next => do (next (← getStore) (← get).memory).run call
  | .remember memory next => do modify fun w => { w with memory }; next.run call
  | .note text next => do record (.noted text); next.run call
  | .retain e next => do
    modifyStore fun s => { s with retained := e :: s.retained }
    next.run call
  | .newEnvironment env next => do (next (← Startup.newEnvironment env)).run call
  | .addSource e s next => do modifyEnvironment e (·.add s); next.run call
  | .setProfiles e profiles next => do
    modifyEnvironment e fun env => { env with profiles }
    next.run call
  | .newOutput next => do (next (← Startup.newOutput)).run call
  | .newListener l onEvent onBind next => do
    (next (← Startup.newListener l { onEvent, onBind })).run call
  | .loadListeners next => do (next (← Startup.loadListeners)).run call
  | .invoke l e next => do (next (← handleEvent call l e)).run call
  | .newChannel next => do (next (.free (← freshNumber))).run call
  | .register ch l next => do Startup.register ch l; next.run call
  | .removeListeners ch next => do
    modifyChannel ch fun channel => { channel with listeners := [] }
    next.run call
  | .setHandler ch handler next => do Startup.setHandler ch handler; next.run call
  | .logFailures ch next => do setPolicy ch .logging; next.run call
  | .removeHandler ch next => do setPolicy ch .failFast; next.run call
  | .multicast ch e next => do (next (← Startup.multicast call ch e)).run call
  | .newContext name environment next => do
    (next (← Startup.newContext { name, environment })).run call
  | .newNumberedContext e next => do (next (← Startup.newNumberedContext e)).run call
  | .newHostedContext name environment active onPublish onIsolated next => do
    let c ← Startup.newContext { name, environment, hosted := some active }
    modify fun w => { w with hostCode := w.hostCode.set c ⟨onPublish, onIsolated⟩ }
    (next c).run call
  | .addListener c l next => do Startup.addListener c l; next.run call
  | .onRefresh c callback next => do Startup.onRefresh c callback; next.run call
  | .onClose c hook next => do Startup.onClose c hook; next.run call
  | .refresh c next => do (next (← Startup.refresh call c)).run call
  | .close c next => do Startup.close call c; next.run call
  | .publish c e next => do (next (← Startup.publish call c e)).run call
  | .publishIsolated c e next => do (next (← Startup.publishIsolated call c e)).run call
  | .newAnnouncer app args next => do (next (← Startup.newAnnouncer app args)).run call
  | .announce a what next => do (next (← Startup.announce call a what)).run call
  | .announceFailure a c error next => do
    Startup.announceFailure call a c (← newCause error)
    next.run call
  | .reportFailure ch c e next => do Startup.reportFailure call ch c e; next.run call

/-- The caller that allows calls to be nested `depth` deep. -/
def execute : (depth : Nat) → Caller σ
  | 0 => fun _ => throw .tooDeep
  | depth + 1 => fun p => p.run (execute depth)

end Program

end Startup
