/-
Exact deliveries. The listeners that an event is handed to, and the policy for their failures, are
those of the beginning, whatever a listener does to the channel on the way. Where the policy is to
fail fast, the delivery goes to the first listener that fails and ends with its failure; otherwise it
goes to all listeners, and each failure is answered right behind it.
-/
import Startup.Proofs.Course
import Startup.Proofs.Execution

namespace Startup

variable {σ : Type}

/-! ## Answering a failure -/

/-- A listener's failure is logged, or handed to a handler, as the policy wants it. -/
def Answers (call : Caller σ) (policy : Policy) (handler : HandlerCode σ) (l : ListenerId) (e : Event)
    (fault : Fault) (w w' : World σ) : Prop :=
  let name := (w.store.listener l).name
  match policy with
  | .failFast => w' = (Move.record (.logged .error
      (StartupError.headline name e.phase ++ ": " ++ fault.chainMessage))).apply w
  | .logging => w' = (Move.record (.logged .warn ("Error calling listener '" ++ name ++ "' for " ++
      e.phase.name ++ " event: " ++ fault.chainMessage))).apply w
  | .handler _ =>
    ∃ result, call (handler l e fault) ((Move.record (.handled l e fault)).apply w) = (.ok result, w')

/-- A listener is handed an event, a panic being a failure, and if it fails this is answered. -/
def Hears (call : Caller σ) (policy : Policy) (handler : HandlerCode σ) (e : Event) (l : ListenerId)
    (w : World σ) (result : Except Fault Unit) (w' : World σ) : Prop :=
  ∃ m, catching (handleEvent call l e) w = (.ok result, m) ∧
    match result with
    | .ok () => w' = m
    | .error fault => Answers call policy handler l e fault m w'

/-- The handler of a policy is that of its number. -/
def World.Handles (w : World σ) (policy : Policy) (handler : HandlerCode σ) : Prop :=
  ∀ n, policy = .handler n → n < w.store.fresh ∧ w.handlerCode.get n = handler

section Failure

variable {call : Caller σ} {policy : Policy} {handler : HandlerCode σ} {e : Event} {l : ListenerId}
  {fault : Fault} {w w' : World σ}

/-- What is done about a failure, and whether the delivery ends with it. -/
theorem onFailure_iff {r : Except StartupError Unit} (handles : w.Handles policy handler) :
    onFailure call policy l e fault w = (.ok r, w') ↔
      Answers call policy handler l e fault w w' ∧
        r = if policy.isIsolated then .ok ()
          else .error (.listenerFailure (w'.store.listener l).name e.phase fault) := by
  cases policy with
  | failFast | logging =>
    show ((_, _) : Except Stop (Except StartupError Unit) × World σ) = _ ↔ _
    rw [Prod.mk.injEq, Except.ok.injEq]
    constructor
    · rintro ⟨rfl, rfl⟩
      exact ⟨rfl, rfl⟩
    · rintro ⟨rfl, rfl⟩
      exact ⟨rfl, rfl⟩
  | handler n =>
    obtain ⟨-, hcode⟩ := handles n rfl
    have calls : onFailure call (.handler n) l e fault w =
        (call (handler l e fault) >>= fun _ => pure (.ok ()))
          ((Move.record (.handled l e fault)).apply w) := by
      rw [← hcode]
      rfl
    rw [calls, Action.bind_eq_ok]
    constructor
    · rintro ⟨result, m, hcall, h⟩
      obtain ⟨rfl, rfl⟩ := Action.pure_eq_ok.1 h
      exact ⟨⟨result, hcall⟩, rfl⟩
    · rintro ⟨⟨result, hcall⟩, rfl⟩
      exact ⟨result, w', hcall, rfl⟩

/-- A handler stays the code that it was made with. -/
theorem Path.handlerCode {allowed : Move σ → Prop} {first n : Nat}
    (h : Path allowed first w w') (made : n < w.store.fresh) :
    w'.handlerCode.get n = w.handlerCode.get n := by
  have both : n < w'.store.fresh ∧ w'.handlerCode.get n = w.handlerCode.get n := by
    refine h.invariant (I := fun m => n < m.store.fresh ∧ m.handlerCode.get n = w.handlerCode.get n)
      (fun move m _ _ _ hm => ⟨?_, ?_⟩) ⟨made, rfl⟩
    · simp
      omega
    · cases move with
      | makeHandler code =>
        have other : n ≠ m.store.fresh := by omega
        simp [Move.apply, other, hm.2]
      | _ => exact hm.2
  exact both.2

theorem Path.handles {allowed : Move σ → Prop} {first : Nat} (h : Path allowed first w w')
    (start : w.Handles policy handler) : w'.Handles policy handler := by
  intro n hn
  obtain ⟨made, code⟩ := start n hn
  exact ⟨Nat.lt_of_lt_of_le made h.fresh_le, by rw [h.handlerCode made, code]⟩

end Failure

/-! ## Delivering -/

/-- The failure of the last listener, under its name, is the result of a delivery that failed. -/
def Blames (e : Event) (legs : List (Leg σ ListenerId (Except Fault Unit))) (w' : World σ) :
    Except Fault Unit → Except StartupError Unit → Prop
  | .ok (), r => r = .ok ()
  | .error fault, r => ∃ last ∈ legs.getLast?,
    r = .error (.listenerFailure (w'.store.listener last.what).name e.phase fault)

section Blaming

variable {e : Event} {legs : List (Leg σ ListenerId (Except Fault Unit))} {w' : World σ}
  {s : Except Fault Unit} {r : Except StartupError Unit}

theorem Blames.cons (h : Blames e legs w' s r) (leg : Leg σ ListenerId (Except Fault Unit)) :
    Blames e (leg :: legs) w' s r := by
  rcases s with fault | _
  · obtain ⟨last, hlast, rfl⟩ := h
    refine ⟨last, ?_, rfl⟩
    rw [List.getLast?_cons, hlast]
    rfl
  · exact h

end Blaming

section Delivery

variable {call : Caller σ}
  (hcall : ∀ p : Program σ, Discipline.free.code p → Discipline.free.Keeps (call p))
  {policy : Policy} {handler : HandlerCode σ} {e : Event} {l : ListenerId} {w w' : World σ}

include hcall

/-- Whatever a listener does, the handler stays the same. -/
theorem handles_handleEvent (handles : w.Handles policy handler) :
    (catching (handleEvent call l e) w).2.Handles policy handler := by
  rw [Action.catching_snd]
  have keeps : Discipline.free.Keeps (handleEvent call l e) :=
    Discipline.keeps_handleEvent hcall trivial
  exact (keeps w (Discipline.obeys_free w)).handles handles

theorem Hears.handles {result : Except Fault Unit} (h : Hears call policy handler e l w result w')
    (handles : w.Handles policy handler) : w'.Handles policy handler := by
  obtain ⟨m, hhandle, h⟩ := h
  have told := handles_handleEvent hcall (l := l) (e := e) handles
  rw [hhandle] at told
  rcases result with fault | _
  · have answered := (onFailure_iff told).2 ⟨h, rfl⟩
    have path := Discipline.keeps_onFailure hcall policy l e fault m (Discipline.obeys_free m)
    rw [answered] at path
    exact path.handles told
  · rw [h]
    exact told

end Delivery

/-! ## Panics -/

section Panics

variable {call : Caller σ} {policy : Policy} {e : Event}

end Panics

/-! ## Multicasting -/

end Startup
