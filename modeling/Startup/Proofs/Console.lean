/-
The settings of an output. An event puts the mode of its environment into effect before it reads whether
there is a console, so one thing can be left of an event that fails: the mode it asks for, if only the
console cannot be read. Nothing else is left of it, and over any sequence of acts an output is what the
setters, the events that end well and these modes have made of it.
-/
import Startup.Proofs.Path
import Startup.Proofs.Switching

namespace Startup

variable {σ : Type}

namespace AnsiOutput

variable {env : Environment} {o : AnsiOutput} {error : StartupError}

/-! ## One environment -/

/-- An environment asks for a mode by its name. -/
def Asks (env : Environment) (mode : AnsiMode) : Prop :=
  ∃ text, env.getText? modeKey = some text ∧ AnsiMode.ofText? text = some mode

/-- A mode that was asked for, or not set. -/
theorem modeOf_eq_ok {mode : Option AnsiMode} : modeOf env = .ok mode ↔
    (env.getText? modeKey).map AnsiMode.ofText? = mode.map some := by
  unfold modeOf
  rcases env.getText? modeKey with _ | text
  · cases mode <;> simp
  · rcases hm : AnsiMode.ofText? text with _ | m <;> cases mode <;> simp [hm]

/-- The error of a mode shows its text, which names none. -/
theorem modeOf_eq_error : modeOf env = .error error ↔ ∃ text, env.getText? modeKey = some text ∧
    AnsiMode.ofText? text = none ∧ error = .binding modeKey text "one of detect, always, never" := by
  unfold modeOf
  rcases env.getText? modeKey with _ | text
  · simp
  · rcases hm : AnsiMode.ofText? text with _ | m <;> simp [hm, eq_comm]

/-- A mode that is set and can be read, or is not set. -/
theorem exists_modeOf : (∃ mode, modeOf env = .ok mode) ↔
    ∀ text, env.getText? modeKey = some text → ∃ mode, AnsiMode.ofText? text = some mode := by
  unfold modeOf
  rcases env.getText? modeKey with _ | text
  · simp
  · rcases hm : AnsiMode.ofText? text with _ | m <;> simp [hm]

theorem asks_iff {mode : AnsiMode} : Asks env mode ↔ modeOf env = .ok (some mode) := by
  rw [modeOf_eq_ok, Option.map_some, Option.map_eq_some_iff]
  rfl

theorem configure_ok {mode : Option AnsiMode} {console : Option Bool} (hmode : modeOf env = .ok mode)
    (hconsole : env.getTriState consoleKey = .ok console) :
    o.configure env = (.ok (), ⟨mode.getD o.mode, console⟩) := by
  simp [configure, hmode, hconsole]

theorem configure_of_mode_error (hmode : modeOf env = .error error) :
    o.configure env = (.error error, o) := by
  simp [configure, hmode]

/-- The mode is in effect when the console is found to be misread. -/
theorem configure_of_console_error {mode : Option AnsiMode} (hmode : modeOf env = .ok mode)
    (hconsole : env.getTriState consoleKey = .error error) :
    o.configure env = (.error error, { o with mode := mode.getD o.mode }) := by
  simp [configure, hmode, hconsole]

/-- How an event ends does not depend on the output, nor does the console after it if it is the same before
it. -/
theorem configure_alike (o o' : AnsiOutput) (env : Environment) :
    (o.configure env).1 = (o'.configure env).1 ∧
      (o.console = o'.console → (o.configure env).2.console = (o'.configure env).2.console) := by
  unfold configure
  rcases modeOf env with _ | mode
  · exact ⟨rfl, id⟩
  · rcases env.getTriState consoleKey with _ | console
    · exact ⟨rfl, id⟩
    · exact ⟨rfl, fun _ => rfl⟩

/-- How an output comes out of an event with an environment, and how the event ends. -/
structure Settled (env : Environment) (before after : AnsiOutput) (result : Except StartupError Unit) :
    Prop where
  /-- The event fails exactly at a setting that cannot be read, the mode before the console. -/
  fails : ∀ error, result = .error error ↔
    (∃ text, env.getText? modeKey = some text ∧ AnsiMode.ofText? text = none ∧
      error = .binding modeKey text "one of detect, always, never") ∨
    (∀ text, env.getText? modeKey = some text → ∃ mode, AnsiMode.ofText? text = some mode) ∧
      ∃ v, env.get? consoleKey = some v ∧ v.asBool? = none ∧
        error = .binding consoleKey v.display "a boolean"
  console : result = .ok () → env.getTriState consoleKey = .ok after.console
  cleared : result = .ok () → env.get? consoleKey = none → after.console = none
  mode : result = .ok () → ∀ text, env.getText? modeKey = some text →
    AnsiMode.ofText? text = some after.mode
  unset : result = .ok () → env.getText? modeKey = none → after.mode = before.mode
  consoleKept : result ≠ .ok () → after.console = before.console
  /-- An event that fails leaves the mode that it asks for. -/
  modeLeft : result ≠ .ok () → ∀ mode, Asks env mode → after.mode = mode
  /-- An event that fails leaves all as it is exactly if it asks for no other mode. -/
  kept : result ≠ .ok () → (after = before ↔ ∀ mode, Asks env mode → mode = before.mode)

theorem settled_of_ok {mode : Option AnsiMode} {console : Option Bool} (hmode : modeOf env = .ok mode)
    (hconsole : env.getTriState consoleKey = .ok console) :
    Settled env o ⟨mode.getD o.mode, console⟩ (.ok ()) where
  fails error := by
    rw [← modeOf_eq_error, ← exists_modeOf, ← Environment.getTriState_eq_error]
    simp [hmode, hconsole]
  console _ := hconsole
  cleared _ unset := by
    have read := Environment.getTriState_eq_ok.1 hconsole
    rw [unset] at read
    exact Option.map_eq_none_iff.1 read.symm
  mode _ text htext := by
    have read := modeOf_eq_ok.1 hmode
    rw [htext] at read
    cases mode with
    | none => cases read
    | some m => exact Option.some.inj read
  unset _ none := by
    have read := modeOf_eq_ok.1 hmode
    rw [none] at read
    rw [Option.map_eq_none_iff.1 read.symm, Option.getD_none]
  consoleKept h := absurd rfl h
  modeLeft h := absurd rfl h
  kept h := absurd rfl h

/-- What an event leaves that fails, whether it asks for a mode or not. -/
theorem settled_of_error {mode : Option AnsiMode} (asked : ∀ m, Asks env m ↔ mode = some m)
    (fails : ∀ other, error = other ↔ modeOf env = .error other ∨
      (∃ mode, modeOf env = .ok mode) ∧ env.getTriState consoleKey = .error other) :
    Settled env o { o with mode := mode.getD o.mode } (.error error) where
  fails other := by
    rw [← modeOf_eq_error, ← exists_modeOf, ← Environment.getTriState_eq_error, Except.error.injEq, fails]
  console := nofun
  cleared := nofun
  mode := nofun
  unset := nofun
  consoleKept _ := rfl
  modeLeft _ m hm := by rw [(asked m).1 hm, Option.getD_some]
  kept _ := by
    obtain ⟨before, console⟩ := o
    cases mode <;> simp [asked]

theorem settled_configure (o : AnsiOutput) (env : Environment) :
    Settled env o (o.configure env).2 (o.configure env).1 := by
  rcases hmode : modeOf env with error | mode
  · rw [configure_of_mode_error hmode]
    exact @settled_of_error _ _ _ none (by simp [asks_iff, hmode]) (by simp [hmode])
  · rcases hconsole : env.getTriState consoleKey with error | console
    · rw [configure_of_console_error hmode hconsole]
      exact settled_of_error (by simp [asks_iff, hmode]) (by simp [hmode, hconsole])
    · rw [configure_ok hmode hconsole]
      exact settled_of_ok hmode hconsole

end AnsiOutput

/-! ## Steps of one output -/

/-- What can happen to an output. -/
inductive ConsoleStep where
  | setMode (mode : AnsiMode)
  | setConsole (console : Option Bool)
  /-- An event, with the environment it has, if any. -/
  | event (env : Option Environment)

namespace ConsoleStep

variable {step : ConsoleStep} {steps : List ConsoleStep}

def apply (o : AnsiOutput) : ConsoleStep → Except StartupError Unit × AnsiOutput
  | .setMode mode => (.ok (), { o with mode })
  | .setConsole console => (.ok (), { o with console })
  | .event none => (.ok (), o)
  | .event (some env) => o.configure env

def run (o : AnsiOutput) (steps : List ConsoleStep) : AnsiOutput :=
  steps.foldl (fun o step => (step.apply o).2) o

/-- Whether a step ends well, which does not depend on the output. -/
def succeeds (step : ConsoleStep) : Bool := (step.apply {}).1.isOk

/-- The mode that an event asks for. -/
def mode? : ConsoleStep → Option AnsiMode
  | .event (some env) => (AnsiOutput.modeOf env).toOption.join
  | _ => none

/-- What is left of a step: all of one that ends well, and of another the mode it asks for. -/
def remains (step : ConsoleStep) : Option ConsoleStep :=
  if step.succeeds then some step else step.mode?.map .setMode

theorem isOk_apply (step : ConsoleStep) (o : AnsiOutput) : (step.apply o).1.isOk = step.succeeds := by
  unfold succeeds
  rcases step with mode | console | _ | env
  · rfl
  · rfl
  · rfl
  · exact congrArg Except.isOk (AnsiOutput.configure_alike o {} env).1

theorem mode?_eq_some {env : Environment} {mode : AnsiMode} :
    mode? (.event (some env)) = some mode ↔ AnsiOutput.Asks env mode := by
  rw [AnsiOutput.asks_iff]
  show (AnsiOutput.modeOf env).toOption.join = some mode ↔ _
  rcases AnsiOutput.modeOf env with _ | m <;> simp [Except.toOption]

/-- A step that fails sets the mode it asks for. -/
theorem apply_of_fails (h : step.succeeds = false) (o : AnsiOutput) :
    (step.apply o).2 = { o with mode := step.mode?.getD o.mode } := by
  rcases step with mode | console | _ | env
  · cases h
  · cases h
  · cases h
  · show (o.configure env).2 = { o with mode := ((AnsiOutput.modeOf env).toOption.join).getD o.mode }
    rw [← isOk_apply _ o] at h
    rcases hmode : AnsiOutput.modeOf env with error | mode
    · rw [AnsiOutput.configure_of_mode_error hmode]
      rfl
    · rcases hconsole : env.getTriState AnsiOutput.consoleKey with error | console
      · rw [AnsiOutput.configure_of_console_error hmode hconsole]
        rfl
      · rw [apply, AnsiOutput.configure_ok hmode hconsole] at h
        cases h

/-- Each step does what is left of it. -/
theorem apply_remains (step : ConsoleStep) (o : AnsiOutput) :
    (step.apply o).2 = run o step.remains.toList := by
  unfold remains
  cases h : step.succeeds with
  | true => rfl
  | false =>
    rw [apply_of_fails h]
    cases step.mode? <;> rfl

theorem run_append (o : AnsiOutput) (before after : List ConsoleStep) :
    run o (before ++ after) = run (run o before) after :=
  List.foldl_append

/-- A run does what is left of its steps. -/
theorem run_remains (o : AnsiOutput) (steps : List ConsoleStep) :
    run o steps = run o (steps.filterMap remains) := by
  induction steps generalizing o with
  | nil => rfl
  | cons step rest ih =>
    have split : (step :: rest).filterMap remains = step.remains.toList ++ rest.filterMap remains := by
      rw [List.filterMap_cons]
      cases step.remains <;> rfl
    rw [split, run_append, ← apply_remains, ← ih]
    rfl

/-- What is left of steps ends well. -/
theorem succeeds_of_remains {left : ConsoleStep} (h : step.remains = some left) : left.succeeds = true := by
  unfold remains at h
  split at h
  · rwa [← Option.some.inj h]
  · obtain ⟨mode, -, rfl⟩ := Option.map_eq_some_iff.1 h
    rfl

/-- The console after a step depends on the console before it alone. -/
theorem apply_console {o o' : AnsiOutput} (h : o.console = o'.console) (step : ConsoleStep) :
    (step.apply o).2.console = (step.apply o').2.console := by
  rcases step with mode | console | _ | env
  · exact h
  · rfl
  · exact h
  · exact (AnsiOutput.configure_alike o o' env).2 h

/-- For the console only the steps that end well count. -/
theorem run_console {o o' : AnsiOutput} (h : o.console = o'.console) (steps : List ConsoleStep) :
    (run o steps).console = (run o' (steps.filter succeeds)).console := by
  induction steps generalizing o o' with
  | nil => exact h
  | cons step rest ih =>
    cases ends : step.succeeds with
    | true =>
      rw [List.filter_cons_of_pos ends]
      exact ih (apply_console h step)
    | false =>
      rw [List.filter_cons_of_neg (by simp [ends])]
      have kept : (step.apply o).2.console = o.console := by rw [apply_of_fails ends]
      exact ih (kept.trans h)

/-- Where no step that fails asks for a mode, only the steps that end well count. -/
theorem run_filter (o : AnsiOutput) (h : ∀ step ∈ steps, step.succeeds = false → step.mode? = none) :
    run o steps = run o (steps.filter succeeds) := by
  induction steps generalizing o with
  | nil => rfl
  | cons step rest ih =>
    obtain ⟨first, later⟩ := List.forall_mem_cons.1 h
    cases ends : step.succeeds with
    | true =>
      rw [List.filter_cons_of_pos ends]
      exact ih _ later
    | false =>
      rw [List.filter_cons_of_neg (by simp [ends]), ← ih o later]
      have kept : (step.apply o).2 = o := by rw [apply_of_fails ends, first ends, Option.getD_none]
      exact congrArg (run · rest) kept

end ConsoleStep

/-! ## Acts in a world -/

/-- What is done to the outputs of a world. -/
inductive ConsoleAct where
  | setMode (o : OutputId) (mode : AnsiMode)
  | setConsole (o : OutputId) (console : Option Bool)
  | deliver (l : ListenerId) (e : Event)

namespace ConsoleAct

variable (call : Caller σ) {w w' : World σ} {act : ConsoleAct} {acts : List ConsoleAct}

def perform : ConsoleAct → Action σ (Except Fault Unit)
  | .setMode o mode => do
    modifyStore fun s => { s with outputs := s.outputs.modify o ({ · with mode }) }
    pure (.ok ())
  | .setConsole o console => do
    modifyStore fun s => { s with outputs := s.outputs.modify o ({ · with console }) }
    pure (.ok ())
  | .deliver l e => handleEvent call l e

def performAll (w : World σ) (acts : List ConsoleAct) : World σ :=
  acts.foldl (fun w act => (act.perform call w).2) w

/-- Events go to listeners that set up an output. -/
def Addressed (w : World σ) : ConsoleAct → Prop
  | .deliver l _ => ∃ o, (w.store.listener l).kind = .console o
  | _ => True

/-- The environment of an event. -/
def environment? (w : World σ) (e : Event) : Option Environment :=
  (w.store.environmentOf e).map w.store.environment

/-- What an act is for an output, if it concerns it. -/
def step? (w : World σ) (o : OutputId) : ConsoleAct → Option ConsoleStep
  | .setMode o' mode => if o' = o then some (.setMode mode) else none
  | .setConsole o' console => if o' = o then some (.setConsole console) else none
  | .deliver l e =>
    match (w.store.listener l).kind with
    | .console o' => if o' = o then some (.event (environment? w e)) else none
    | _ => none

/-- What acts spare. -/
structure Spares (w w' : World σ) : Prop where
  environments : w'.store.environments = w.store.environments
  listeners : w'.store.listeners = w.store.listeners
  contexts : w'.store.contexts = w.store.contexts

theorem Spares.environment? (h : Spares w w') (e : Event) : environment? w' e = environment? w e := by
  unfold ConsoleAct.environment? Store.environmentOf Store.environment Store.context
  rw [h.environments, h.contexts]

theorem Spares.step? (h : Spares w w') (o : OutputId) (act : ConsoleAct) :
    act.step? w' o = act.step? w o := by
  unfold ConsoleAct.step? Store.listener
  simp only [h.listeners, h.environment?]

theorem Spares.addressed (h : Spares w w') (addressed : act.Addressed w) : act.Addressed w' := by
  unfold Addressed Store.listener at addressed ⊢
  rwa [h.listeners]

/-- One output takes a step, and the others stay as they are. -/
structure Takes (o : OutputId) (step : ConsoleStep) (w w' : World σ) : Prop extends Spares w w' where
  output : ∀ other, w'.store.output other =
    if other = o then (step.apply (w.store.output o)).2 else w.store.output other

theorem Takes.run {o : OutputId} {step : ConsoleStep} (h : Takes o step w w') (other : OutputId) :
    w'.store.output other =
      ConsoleStep.run (w.store.output other) (if o = other then some step else none).toList := by
  rw [h.output]
  by_cases concerned : o = other
  · subst other
    rw [if_pos rfl, if_pos rfl]
    rfl
  · rw [if_neg concerned, if_neg (Ne.symm concerned)]
    rfl

theorem takes_configureConsole (o : OutputId) (e : Event) (w : World σ) : ∃ w', configureConsole o e w =
    (.ok (((ConsoleStep.event (environment? w e)).apply (w.store.output o)).1.mapError .startup), w') ∧
      Takes o (.event (environment? w e)) w w' := by
  unfold configureConsole environment?
  rw [Action.getStore_bind_apply]
  rcases w.store.environmentOf e with _ | env
  · refine ⟨w, rfl, ⟨rfl, rfl, rfl⟩, fun other => ?_⟩
    split
    · subst other
      rfl
    · rfl
  · exact ⟨_, rfl, ⟨rfl, rfl, rfl⟩, fun other => Table.get_set ..⟩

/-- A listener that sets up an output does so when it is handed an event. -/
theorem takes_handleEvent {l : ListenerId} {o : OutputId} (h : (w.store.listener l).kind = .console o)
    (e : Event) : ∃ w', handleEvent call l e w =
    (.ok (((ConsoleStep.event (environment? w e)).apply (w.store.output o)).1.mapError .startup), w') ∧
      Takes o (.event (environment? w e)) w w' := by
  obtain ⟨w', configured, takes⟩ :=
    takes_configureConsole o e { w with store := w.store.record (.delivered l e) }
  -- the entry in the journal is all that is between the two worlds
  refine ⟨w', .trans ?_ configured, ⟨takes.environments, takes.listeners, takes.contexts⟩, takes.output⟩
  show react call l e { w with store := w.store.record (.delivered l e) } = _
  unfold react
  rw [Action.getStore_bind_apply]
  have kind : ((w.store.record (.delivered l e)).listener l).kind = .console o := h
  simp only [kind]

/-- Each act is the step that it is for an output, and nothing for an output that it does not concern. -/
theorem perform_apply (addressed : act.Addressed w) : Spares w (act.perform call w).2 ∧
    ∀ o, (act.perform call w).2.store.output o =
      ConsoleStep.run (w.store.output o) (act.step? w o).toList := by
  cases act with
  | setMode o mode =>
    have takes : Takes o (.setMode mode) w (perform call (.setMode o mode) w).2 :=
      ⟨⟨rfl, rfl, rfl⟩, fun _ => Table.get_set ..⟩
    exact ⟨takes.toSpares, takes.run⟩
  | setConsole o console =>
    have takes : Takes o (.setConsole console) w (perform call (.setConsole o console) w).2 :=
      ⟨⟨rfl, rfl, rfl⟩, fun _ => Table.get_set ..⟩
    exact ⟨takes.toSpares, takes.run⟩
  | deliver l e =>
    obtain ⟨o, kind⟩ := addressed
    obtain ⟨w', handled, takes⟩ := takes_handleEvent call kind e
    rw [perform, handled]
    refine ⟨takes.toSpares, fun other => ?_⟩
    simp only [step?, kind]
    exact takes.run other

/-- An output goes through the steps that the acts are for it. -/
theorem output_performAll (addressed : ∀ act ∈ acts, act.Addressed w) (o : OutputId) :
    (performAll call w acts).store.output o =
      ConsoleStep.run (w.store.output o) (acts.filterMap (·.step? w o)) := by
  induction acts generalizing w with
  | nil => rfl
  | cons act rest ih =>
    obtain ⟨first, later⟩ := List.forall_mem_cons.1 addressed
    obtain ⟨spared, outputs⟩ := perform_apply call first
    -- the later acts are the same steps after the first one, which spares all that they are read from
    have alike : step? (act.perform call w).2 o = step? w o := funext (spared.step? o)
    calc (performAll call (act.perform call w).2 rest).store.output o
      _ = ConsoleStep.run ((act.perform call w).2.store.output o) (rest.filterMap (·.step? w o)) := by
          rw [ih fun act hact => spared.addressed (later act hact), alike]
      _ = ConsoleStep.run (w.store.output o) ((act.step? w o).toList ++ rest.filterMap (·.step? w o)) := by
          rw [outputs, ConsoleStep.run_append]
      _ = ConsoleStep.run (w.store.output o) ((act :: rest).filterMap (·.step? w o)) := by
          rw [List.filterMap_cons]
          cases act.step? w o <;> rfl

end ConsoleAct

/-- An event that is delivered to a listener of an output puts both of its settings into effect, or it
fails, and then all that is left of it is the mode that it asks for, if it asks for one. Over any acts an
output goes through the steps that they are for it, and how a step ends does not depend on what was before.
An output is made by what is left of its steps: by those that end well, and for the others by setting the
modes that they ask for. So the steps that end well alone decide the console, and they decide all where no
step that fails asks for a mode. -/
theorem console_settled (call : Caller σ) (w : World σ) :
    (∀ (l : ListenerId) (o : OutputId) (e : Event), (w.store.listener l).kind = .console o →
      ∃ (result : Except StartupError Unit) (w' : World σ),
        handleEvent call l e w = (.ok (result.mapError .startup), w') ∧
        (∀ other, other ≠ o → w'.store.output other = w.store.output other) ∧
        match ConsoleAct.environment? w e with
        | none => result = .ok () ∧ w'.store.output o = w.store.output o
        | some env => AnsiOutput.Settled env (w.store.output o) (w'.store.output o) result) ∧
    (∀ acts : List ConsoleAct, (∀ act ∈ acts, act.Addressed w) → ∀ o,
      (ConsoleAct.performAll call w acts).store.output o =
        ConsoleStep.run (w.store.output o) (acts.filterMap (·.step? w o))) ∧
    (∀ (step : ConsoleStep) (o : AnsiOutput), (step.apply o).1.isOk = step.succeeds) ∧
    (∀ env mode, ConsoleStep.mode? (.event (some env)) = some mode ↔ AnsiOutput.Asks env mode) ∧
    ∀ (o : AnsiOutput) (steps : List ConsoleStep),
      ConsoleStep.run o steps = ConsoleStep.run o (steps.filterMap ConsoleStep.remains) ∧
      (∀ left ∈ steps.filterMap ConsoleStep.remains, left.succeeds = true) ∧
      (ConsoleStep.run o steps).console = (ConsoleStep.run o (steps.filter ConsoleStep.succeeds)).console ∧
      ((∀ step ∈ steps, step.succeeds = false → step.mode? = none) →
        ConsoleStep.run o steps = ConsoleStep.run o (steps.filter ConsoleStep.succeeds)) := by
  refine ⟨fun l o e kind => ?_, fun acts addressed => ConsoleAct.output_performAll call addressed,
    ConsoleStep.isOk_apply, fun _ _ => ConsoleStep.mode?_eq_some,
    fun o steps => ⟨ConsoleStep.run_remains o steps, fun left hleft => ?_,
      ConsoleStep.run_console rfl steps, ConsoleStep.run_filter o⟩⟩
  · obtain ⟨w', handled, takes⟩ := ConsoleAct.takes_handleEvent call kind e
    refine ⟨_, w', handled, fun other h => (takes.output other).trans (if_neg h), ?_⟩
    rw [(takes.output o).trans (if_pos rfl)]
    cases ConsoleAct.environment? w e with
    | none => exact ⟨rfl, rfl⟩
    | some env => exact AnsiOutput.settled_configure _ _
  · obtain ⟨step, -, hremains⟩ := List.mem_filterMap.1 hleft
    exact ConsoleStep.succeeds_of_remains hremains

namespace ConsoleAct

/-- An environment with a mode that can be read and a console that cannot. -/
def halfReadable : Environment :=
  .ofSources [.ofPairs "" 0 [(AnsiOutput.modeKey, .text "always"), (AnsiOutput.consoleKey, .text "maybe")]]

/-- A world with a listener of one output. -/
def watched : World Unit where
  store := { environments := ⟨[(⟨0⟩, halfReadable)]⟩, listeners := ⟨[(⟨1⟩, .console ⟨2⟩)]⟩ }
  memory := ()

def halfPrepared : Event := .environmentPrepared { name := "" } [] ⟨0⟩

theorem console_settled_halfway :
    (∃ error w', handleEvent (fun _ => pure (.ok ())) ⟨1⟩ halfPrepared watched =
      (.ok (.error (.startup error)), w') ∧ w'.store.output ⟨2⟩ = ⟨.always, none⟩) ∧
    (performAll (fun _ => pure (.ok ())) watched
      [.setConsole ⟨2⟩ (some true), .deliver ⟨1⟩ halfPrepared, .setMode ⟨3⟩ .never]).store.output ⟨2⟩ =
        ⟨.always, some true⟩ := by
  obtain ⟨events, acts, -⟩ := console_settled (fun _ => pure (.ok ())) watched
  obtain ⟨result, w', handled, -, settled⟩ := events ⟨1⟩ ⟨2⟩ halfPrepared rfl
  have readable : ∀ text, halfReadable.getText? AnsiOutput.modeKey = some text →
      ∃ mode, AnsiMode.ofText? text = some mode := by
    rintro _ ⟨⟩
    exact ⟨.always, rfl⟩
  have fails := (AnsiOutput.Settled.fails settled _).2 (.inr ⟨readable, .text "maybe", rfl, rfl, rfl⟩)
  have failed : result ≠ .ok () := by
    rw [fails]
    nofun
  have mode := AnsiOutput.Settled.modeLeft settled failed .always ⟨"always", rfl, rfl⟩
  have console := AnsiOutput.Settled.consoleKept settled failed
  refine ⟨⟨_, w', by rw [handled, fails]; rfl, ?_⟩, (acts _ ?_ ⟨2⟩).trans rfl⟩
  · rw [← mode]
    exact congrArg (AnsiOutput.mk _) console
  · simp only [List.forall_mem_cons, List.not_mem_nil, false_imp_iff, implies_true, and_true]
    exact ⟨trivial, ⟨⟨2⟩, rfl⟩, trivial⟩

/-- An event fails for the console, and the mode is changed. -/
theorem mode_changed_by_failure : ∃ fault w',
    handleEvent (fun _ => pure (.ok ())) ⟨1⟩ halfPrepared watched = (.ok (.error fault), w') ∧
      watched.store.output ⟨2⟩ = ⟨.detect, none⟩ ∧ w'.store.output ⟨2⟩ = ⟨.always, none⟩ :=
  ⟨_, _, rfl, rfl, rfl⟩

end ConsoleAct

end Startup
