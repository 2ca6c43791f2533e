/-
The causes behind an error. An error that is passed on as it is, or in another's own words, is no level
of its own; every other one has its words, and behind it the causes that it was given. The chain of an
error goes through these levels, each once, from the outermost to the root, and this is also what a log
shows of a listener's failure.
-/
import Mathlib.Logic.Function.Iterate
import Startup.Proofs.Operations

namespace Startup

/-! ## Causes -/

/-- Causes one behind the other, up to one that nothing lies behind. -/
inductive Traced : Option Fault → List Fault → Prop where
  | root : Traced none []
  | behind {f : Fault} {causes : List Fault} (rest : Traced f.cause? causes) :
      Traced (some f) (f :: causes)

theorem Traced.unique {cause : Option Fault} {causes others : List Fault} (h : Traced cause causes)
    (h' : Traced cause others) : others = causes := by
  induction h generalizing others with
  | root =>
    cases h'
    rfl
  | behind _ ih =>
    obtain _ | rest := h'
    rw [ih rest]

mutual
/-- The causes of an error lie one behind the other. -/
theorem Fault.traced : ∀ f : Fault, Traced f.cause? f.causes
  | .text _ => .root
  | .within _ cause => .behind cause.traced
  | .startup e => e.traced

theorem StartupError.traced : ∀ e : StartupError, Traced e.cause? e.causes
  | .listenerFailure _ _ cause => .behind cause.traced
  | .binding .. => .root
  | .contextUnavailable => .root
  | .phaseOrder .. => .root
  | .config _ => .root
  | .loggingInit _ => .root
  | .other cause => cause.traced
end

/-! ## Layers -/

/-- What can be put around a fault. -/
inductive Layer where
  | context (text : String)
  | listener (name : String) (phase : Phase)
  /-- Nothing but another kind of error. -/
  | other

namespace Layer

def around : Layer → Fault → Fault
  | .context text, f => .within text f
  | .listener name phase, f => .startup (.listenerFailure name phase f)
  | .other, f => .startup (.other f)

def text? : Layer → Option String
  | .context text => some text
  | .listener name phase => some (StartupError.headline name phase)
  | .other => none

/-- Each layer adds its text once, or nothing. -/
theorem chain_around (layers : List Layer) (f : Fault) :
    (layers.foldr around f).chain = layers.filterMap text? ++ f.chain := by
  induction layers with
  | nil => rfl
  | cons layer rest ih =>
    rw [List.foldr_cons]
    cases layer with
    | context text => exact congrArg (text :: ·) ih
    | listener name phase => exact congrArg (StartupError.headline name phase :: ·) ih
    | other => exact ih

end Layer

/-! ## Texts -/

/-- The long form in which a log shows an error: its words, and behind a colon each those of its causes. -/
def longForm (words : String) (causes : List Fault) : String :=
  words ++ .join (causes.map (": " ++ ·.message))

theorem intercalate_messages (words : String) (causes : List Fault) :
    ": ".intercalate (words :: causes.map Fault.message) = longForm words causes := by
  unfold longForm
  induction causes generalizing words with
  | nil => simp
  | cons f rest ih =>
    rw [List.map_cons, String.intercalate_cons_cons, ih]
    simp [String.append_assoc]

/-- An error in the words of a fault that it is itself. -/
def StartupError.rewrapped (e : StartupError) : StartupError := .other (.startup e)

theorem StartupError.chain_rewrapped (n : Nat) (e : StartupError) : (rewrapped^[n] e).chain = e.chain := by
  induction n generalizing e with
  | zero => rfl
  | succ n ih => exact ih e.rewrapped

theorem StartupError.chainMessage_listenerFailure (name : String) (phase : Phase) (fault : Fault) :
    (listenerFailure name phase fault).chainMessage = "Listener '" ++ name ++
      "' failed while handling " ++ phase.name ++ " event: " ++ fault.chainMessage := by
  have filled : fault.chain ≠ [] := by simp [Fault.chain]
  have headed : (listenerFailure name phase fault).chainMessage =
      headline name phase ++ ": " ++ fault.chainMessage := String.intercalate_cons_of_ne_nil filled
  rw [headed, headline]
  simp [String.append_assoc]

/-! ## Logs -/

section Logs

variable {σ : Type} {call : Caller σ} {e : Event} {l : ListenerId} {w m : World σ} {fault : Fault}

/-- A listener that fails ends a delivery that fails fast, and its failure is logged. -/
theorem deliver_failFast_failed (failed : catching (handleEvent call l e) w = (.ok (.error fault), m))
    (rest : List ListenerId) :
    let name := (m.store.listener l).name
    deliver call .failFast e (l :: rest) w = (.ok (.error (.listenerFailure name e.phase fault)),
      (Move.record (.logged .error
        (StartupError.headline name e.phase ++ ": " ++ fault.chainMessage))).apply m) := by
  rw [deliver, Action.bind_apply, failed]
  rfl

/-- Where failures are logged, the delivery goes on behind the failed listener. -/
theorem deliver_logging_failed (failed : catching (handleEvent call l e) w = (.ok (.error fault), m))
    (rest : List ListenerId) :
    let name := (m.store.listener l).name
    deliver call .logging e (l :: rest) w = deliver call .logging e rest
      ((Move.record (.logged .warn ("Error calling listener '" ++ name ++ "' for " ++ e.phase.name ++
        " event: " ++ fault.chainMessage))).apply m) := by
  rw [deliver, Action.bind_apply, failed]
  rfl

end Logs

/-- Every error has its causes behind it, one behind the other, and only these; its chain is made of its
own words and of theirs, each once. Whatever layers are put around a fault, each adds its text once, and
what only passes an error on adds none, however often; a listener's failure puts its own words before
those of its cause. What a delivery logs of a listener that failed is the chain of the listener's error. -/
theorem chain_lists_causes :
    (∀ e : StartupError, ∃ causes, (Traced e.cause? causes ∧
        ∀ others, Traced e.cause? others → others = causes) ∧
      e.chainMessage = ": ".intercalate (e.message :: causes.map Fault.message)) ∧
    (∀ (layers : List Layer) (f : Fault), (layers.foldr Layer.around f).chainMessage =
      ": ".intercalate (layers.filterMap Layer.text? ++ f.chain)) ∧
    (∀ n (e : StartupError), (StartupError.rewrapped^[n] e).chainMessage = e.chainMessage) ∧
    (∀ name phase (fault : Fault), (StartupError.listenerFailure name phase fault).chainMessage =
      "Listener '" ++ name ++ "' failed while handling " ++ phase.name ++ " event: " ++
        fault.chainMessage) ∧
    ∀ (σ : Type) (call : Caller σ) (e : Event) (l : ListenerId) (w m : World σ) (fault : Fault)
      (causes : List Fault), catching (handleEvent call l e) w = (.ok (.error fault), m) →
      Traced fault.cause? causes → ∀ rest : List ListenerId,
      let name := (m.store.listener l).name
      let shown := longForm fault.message causes
      shown = fault.chainMessage ∧
      deliver call .failFast e (l :: rest) w = (.ok (.error (.listenerFailure name e.phase fault)),
        (Move.record (.logged .error ("Listener '" ++ name ++ "' failed while handling " ++
          e.phase.name ++ " event: " ++ shown))).apply m) ∧
      deliver call .logging e (l :: rest) w = deliver call .logging e rest
        ((Move.record (.logged .warn ("Error calling listener '" ++ name ++ "' for " ++ e.phase.name ++
          " event: " ++ shown))).apply m) := by
  refine ⟨fun e => ?_, fun layers f => ?_, fun n e => ?_, StartupError.chainMessage_listenerFailure,
    fun σ call e l w m fault causes failed traced rest => ?_⟩
  · exact ⟨e.causes, ⟨e.traced, fun others => e.traced.unique⟩, rfl⟩
  · rw [Fault.chainMessage, Layer.chain_around]
  · rw [StartupError.chainMessage, StartupError.chain_rewrapped]
    rfl
  · intro name shown
    have same : shown = fault.chainMessage := by
      obtain rfl := fault.traced.unique traced
      exact (intercalate_messages ..).symm
    refine ⟨same, ?_, ?_⟩
    · rw [deliver_failFast_failed failed rest, same, StartupError.headline]
      simp [name, String.append_assoc]
    · rw [deliver_logging_failed failed rest, same]

/-- The failure of a listener, passed on and put in a context. -/
def passedOn : Fault :=
  .within "while nested" (.startup (.other (.startup (.listenerFailure "inner" .running (.text "boom")))))

/-- A listener that fails with it. -/
def passing : World Unit :=
  (Program.execute 1 (.newListener { name := "outer" } (fun _ => .finish (.error passedOn))
    (fun _ => .done) fun _ => .done) { memory := () }).2

theorem chain_lists_causes_nested :
    let e := Event.starting { name := "" } []
    ∃ m : World Unit, deliver (Program.execute 1) .failFast e [⟨0⟩] passing =
      (.ok (.error (.listenerFailure "outer" .starting passedOn)),
        (Move.record (.logged .error ("Listener 'outer' failed while handling STARTING event: " ++
          "while nested: Listener 'inner' failed while handling RUNNING event: boom"))).apply m) := by
  intro e
  let m := (handleEvent (Program.execute 1) ⟨0⟩ e passing).2
  have failed : catching (handleEvent (Program.execute 1) ⟨0⟩ e) passing =
      (.ok (.error passedOn), m) := rfl
  have traced : Traced passedOn.cause? [.startup (.other (.startup (.listenerFailure "inner" .running
      (.text "boom")))), .text "boom"] := .behind (.behind .root)
  have logs := chain_lists_causes.2.2.2.2 Unit (Program.execute 1) e ⟨0⟩ passing m passedOn _ failed traced
  exact ⟨m, (logs []).2.1⟩

end Startup
