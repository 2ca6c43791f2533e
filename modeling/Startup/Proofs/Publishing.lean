/-
What a web listener publishes. It computes its settings at an event from the environment that the context
it was told last has then, and it publishes them only if all of that ends well. Between the events it is
told contexts and environments change, neither of which touches what it has published, so over any course
of deeds its settings are those of the last event that ended well.
-/
import Startup.Proofs.Binding
import Startup.Proofs.Course

namespace Startup

variable {σ : Type}

/-- The environment that a context has. -/
def Store.environmentIn (s : Store) (c : ContextId) : Environment :=
  s.environment (s.context c).environment

namespace Web

/-! ## Deeds -/

/-- What is done to a web listener, or where it reads. -/
inductive Deed where
  | bind (c : ContextId)
  | change (e : EnvironmentId) (f : Environment → Environment)
  | event (e : Event)
  /-- Anything that leaves the listener and its code alone. -/
  | aside

namespace Deed

/-- How a deed ends, and the world that it leaves. A listener is told its context whether or not code that
goes with it may be called. -/
def Done (depth : Nat) (l : ListenerId) : Deed → World σ → Except Fault Unit → World σ → Prop
  | .bind c, w, r, w' => r = .ok () ∧ w' = (bindContext (Program.execute depth) l c w).2
  | .change e f, w, r, w' => r = .ok () ∧ modifyEnvironment e f w = (.ok (), w')
  | .event e, w, r, w' => handleEvent (Program.execute depth) l e w = (.ok r, w')
  | .aside, w, r, w' => r = .ok () ∧ w'.store.listener l = w.store.listener l ∧
      w'.listenerCode.get l = w.listenerCode.get l

def context? : Deed → Option ContextId
  | .bind c => some c
  | _ => none

/-- What a deed makes of an environment. -/
def alter (e : EnvironmentId) (env : Environment) : Deed → Environment
  | .change e' f => if e' = e then f env else env
  | _ => env

/-- The context that is told last. -/
def told (deeds : List Deed) : Option ContextId := (deeds.filterMap context?).getLast?

/-- An environment after the changes that are made to it. -/
def altered (deeds : List Deed) (e : EnvironmentId) (env : Environment) : Environment :=
  deeds.foldl (alter e) env

end Deed

abbrev DeedLeg (σ : Type) := Leg σ Deed (Except Fault Unit)

/-- The deeds of a course. -/
def deeds (legs : List (DeedLeg σ)) : List Deed := legs.map (·.what)

/-- An event that ended well. -/
def Succeeded (leg : DeedLeg σ) : Prop := (∃ e, leg.what = .event e) ∧ leg.result = .ok ()

/-! ## The listener -/

/-- A web listener with the context that it was told last and the settings that it computed last. -/
structure Publishes (configuration : Configuration) (l : ListenerId) (bound : Option ContextId)
    (settings : Option Settings) (w : World σ) : Prop where
  listener : w.store.listener l = { Listener.web configuration with bound, settings }
  plain : w.listenerCode.get l = default

/-- Worlds of the same environments and contexts. -/
structure Alike (w w' : World σ) : Prop where
  environments : w'.store.environments = w.store.environments
  contexts : w'.store.contexts = w.store.contexts

/-- The settings that are computed at an event, or why there are none. -/
def Configuration.computed (configuration : Configuration) (bound : Option ContextId) (s : Store) :
    Except StartupError Settings :=
  match bound with
  | none => .error .contextUnavailable
  | some c => configuration.configure (s.environmentIn c)

/-- How an event ends at which settings are computed. -/
def ending (computed : Except StartupError Settings) : Except Fault Unit :=
  (computed.map fun _ => ()).mapError .startup

/-- The settings that a deed publishes. -/
def Deed.published? (configuration : Configuration) (bound : Option ContextId) (s : Store) :
    Deed → Option Settings
  | .event _ => (configuration.computed bound s).toOption
  | _ => none

section Steps

variable {configuration : Configuration} {l : ListenerId} {bound : Option ContextId}
  {settings : Option Settings} {depth : Nat} {deed : Deed} {w w' : World σ} {r : Except Fault Unit}

theorem ending_eq_ok {computed : Except StartupError Settings} :
    ending computed = .ok () ↔ ∃ s, computed = .ok s := by
  rcases computed with error | s
  · constructor
    · nofun
    · rintro ⟨s, ⟨⟩⟩
  · exact ⟨fun _ => ⟨s, rfl⟩, fun _ => rfl⟩

/-- An event publishes the settings of the environment of the context that was told last. -/
theorem Deed.published?_event {e : Event} {store : Store} {s : Settings} :
    (Deed.event e).published? configuration bound store = some s ↔
      ∃ c, bound = some c ∧ configuration.configure (store.environmentIn c) = .ok s := by
  show (configuration.computed bound store).toOption = some s ↔ _
  rcases bound with _ | c
  · simp [Configuration.computed, Except.toOption]
  · simp only [Configuration.computed, Option.some.injEq, exists_eq_left']
    rcases configuration.configure (store.environmentIn c) with error | s' <;> simp [Except.toOption]

/-- A listener is told a context and keeps its settings. -/
theorem publishes_bindContext (h : Publishes configuration l bound settings w) (depth : Nat)
    (c : ContextId) :
    Publishes configuration l (some c) settings (bindContext (Program.execute depth) l c w).2 ∧
      Alike w (bindContext (Program.execute depth) l c w).2 := by
  let noted : Store := w.store.record (.bound l c (w.store.listenersOf c))
  let told : World σ := { w with
    store := { noted with listeners := noted.listeners.modify l ({ · with bound := some c }) } }
  have start : bindContext (Program.execute depth) l c w =
      (Program.execute depth ((w.listenerCode.get l).onBind c) >>= fun _ => pure ()) told := rfl
  have same : (bindContext (Program.execute depth) l c w).2 = told := by
    rw [start, h.plain, Action.bind_apply]
    -- code that does nothing changes nothing, and neither does code that may not be called
    cases depth <;> rfl
  rw [same]
  refine ⟨⟨?_, h.plain⟩, rfl, rfl⟩
  show (noted.listeners.modify l _).get l = _
  rw [Table.get_modify, if_pos rfl]
  show { w.store.listener l with bound := some c } = _
  rw [h.listener]

/-- A listener that computes settings publishes them, and keeps those it has if it cannot. -/
theorem publishes_configureWeb (h : Publishes configuration l bound settings w) : ∃ w',
    configureWeb l configuration w = (.ok (ending (configuration.computed bound w.store)), w') ∧
      Publishes configuration l bound ((configuration.computed bound w.store).toOption.or settings) w' ∧
      Alike w w' := by
  unfold configureWeb
  rw [Action.getStore_bind_apply, h.listener]
  show ∃ w', (match bound with | none => _ | some c => _ : Action σ (Except Fault Unit)) w = _ ∧ _
  unfold Configuration.computed Store.environmentIn
  rcases bound with _ | c
  · exact ⟨w, rfl, h, rfl, rfl⟩
  · dsimp only
    rcases configuration.configure (w.store.environment (w.store.context c).environment) with error | s
    · exact ⟨w, rfl, h, rfl, rfl⟩
    · refine ⟨_, rfl, ⟨?_, h.plain⟩, rfl, rfl⟩
      show (w.store.listeners.modify l _).get l = _
      rw [Table.get_modify, if_pos rfl]
      show { w.store.listener l with settings := some s } = _
      rw [h.listener]
      rfl

/-- An event at which a web listener computes its settings. -/
theorem publishes_handleEvent (h : Publishes configuration l bound settings w) (call : Caller σ)
    (e : Event) : ∃ w',
    handleEvent call l e w = (.ok (ending (configuration.computed bound w.store)), w') ∧
      Publishes configuration l bound ((configuration.computed bound w.store).toOption.or settings) w' ∧
      Alike w w' := by
  let noted : World σ := { w with store := w.store.record (.delivered l e) }
  have kept : Publishes configuration l bound settings noted := ⟨h.listener, h.plain⟩
  obtain ⟨w', configured, published, alike⟩ := publishes_configureWeb kept
  -- the entry in the journal is all that is between the two worlds
  refine ⟨w', .trans ?_ configured, published, alike.environments, alike.contexts⟩
  show react call l e noted = _
  unfold react
  rw [Action.getStore_bind_apply, kept.listener]
  rfl

/-- What a deed makes of what is published. -/
theorem Publishes.done (h : Publishes configuration l bound settings w)
    (done : deed.Done depth l w r w') :
    Publishes configuration l (deed.context?.or bound)
      ((deed.published? configuration bound w.store).or settings) w' := by
  cases deed with
  | bind c =>
    obtain ⟨-, rfl⟩ := done
    exact (publishes_bindContext h depth c).1
  | change e f =>
    obtain ⟨-, ⟨⟩⟩ := done
    exact ⟨h.listener, h.plain⟩
  | event e =>
    obtain ⟨m, handled, published, -⟩ := publishes_handleEvent h (Program.execute depth) e
    obtain ⟨-, rfl⟩ := Prod.mk.inj (done.symm.trans handled)
    exact published
  | aside =>
    obtain ⟨-, listener, code⟩ := done
    exact ⟨listener.trans h.listener, code.trans h.plain⟩

/-- An event ends as the settings were computed at it. -/
theorem Publishes.result_of_event (h : Publishes configuration l bound settings w) {e : Event}
    (done : Deed.Done depth l (.event e) w r w') : r = ending (configuration.computed bound w.store) := by
  obtain ⟨m, handled, -, -⟩ := publishes_handleEvent h (Program.execute depth) e
  obtain ⟨result, -⟩ := Prod.mk.inj (done.symm.trans handled)
  exact Except.ok.inj result

/-- Contexts stay as they are, and so do environments but for the changes that are made to them. -/
theorem Publishes.environment_of_done (h : Publishes configuration l bound settings w)
    (done : deed.Done depth l w r w') (known : deed ≠ .aside) :
    w'.store.contexts = w.store.contexts ∧
      ∀ e, w'.store.environment e = deed.alter e (w.store.environment e) := by
  have untouched {m : World σ} (alike : Alike w m) : m.store.contexts = w.store.contexts ∧
      ∀ e, m.store.environment e = w.store.environment e :=
    ⟨alike.contexts, fun e => congrArg (Table.get · e) alike.environments⟩
  cases deed with
  | bind c =>
    obtain ⟨-, rfl⟩ := done
    exact untouched (publishes_bindContext h depth c).2
  | change e' f =>
    obtain ⟨-, ⟨⟩⟩ := done
    refine ⟨rfl, fun e => ?_⟩
    show (w.store.environments.modify e' f).get e = _
    rw [Table.get_modify]
    by_cases concerned : e = e'
    · subst e
      rw [if_pos rfl, Deed.alter, if_pos rfl]
      rfl
    · rw [if_neg concerned, Deed.alter, if_neg (Ne.symm concerned)]
      rfl
  | event e =>
    obtain ⟨m, handled, -, alike⟩ := publishes_handleEvent h (Program.execute depth) e
    obtain ⟨-, rfl⟩ := Prod.mk.inj (done.symm.trans handled)
    exact untouched alike
  | aside => exact absurd rfl known

/-- Every deed can be done. -/
theorem Publishes.exists_done (h : Publishes configuration l bound settings w) (depth : Nat) (deed : Deed) :
    ∃ r w', deed.Done depth l w r w' := by
  cases deed with
  | bind c => exact ⟨_, _, rfl, rfl⟩
  | change e f => exact ⟨_, _, rfl, rfl⟩
  | event e =>
    obtain ⟨w', handled, -, -⟩ := publishes_handleEvent h (Program.execute depth) e
    exact ⟨_, w', handled⟩
  | aside => exact ⟨_, w, rfl, rfl, rfl⟩

end Steps

/-! ## Courses -/

/-- The settings that a leg publishes. -/
def published? (configuration : Configuration) (l : ListenerId) (leg : DeedLeg σ) : Option Settings :=
  leg.what.published? configuration (leg.start.store.listener l).bound leg.start.store

section Courses

variable {configuration : Configuration} {l : ListenerId} {bound : Option ContextId}
  {settings : Option Settings} {depth : Nat} {w w' : World σ} {legs : List (DeedLeg σ)}
  {leg : DeedLeg σ}

/-- The last of the values that a list gives, be it given by its first item or later. -/
theorem getLast?_filterMap_cons {α β : Type} (f : α → Option β) (a : α) (as : List α) (b : Option β) :
    (((a :: as).filterMap f).getLast?).or b = ((as.filterMap f).getLast?).or ((f a).or b) := by
  cases h : f a with
  | none => rw [List.filterMap_cons_none h, Option.none_or]
  | some c =>
    rw [List.filterMap_cons_some h, List.getLast?_cons]
    cases (as.filterMap f).getLast? <;> rfl

/-- A listener has the context that it was told last and the settings that were published last. -/
theorem Publishes.course (h : Publishes configuration l bound settings w)
    (run : Course (Deed.Done depth l) w legs w') :
    Publishes configuration l ((Deed.told (deeds legs)).or bound)
      ((legs.filterMap (published? configuration l)).getLast?.or settings) w' := by
  -- the first leg makes the context and the settings that the others begin with
  induction legs generalizing w bound settings with
  | nil =>
    obtain rfl := run
    exact h
  | cons leg rest ih =>
    obtain ⟨rfl, done, later⟩ := run
    rw [deeds, List.map_cons, Deed.told, getLast?_filterMap_cons, getLast?_filterMap_cons]
    have first : published? configuration l leg =
        leg.what.published? configuration bound leg.start.store := by
      rw [published?, h.listener]
    rw [first]
    exact ih (h.done done) later

/-- Deeds one after the other, whichever they are, can all be done. -/
theorem Publishes.exists_course (h : Publishes configuration l bound settings w) (depth : Nat)
    (ds : List Deed) :
    ∃ legs w', Course (Deed.Done depth l) w legs w' ∧ deeds legs = ds := by
  induction ds generalizing w bound settings with
  | nil => exact ⟨[], w, rfl, rfl⟩
  | cons deed rest ih =>
    obtain ⟨r, m, done⟩ := h.exists_done depth deed
    obtain ⟨legs, w', later, what⟩ := ih (h.done done)
    exact ⟨⟨deed, w, r, m⟩ :: legs, w', ⟨rfl, done, later⟩, congrArg (deed :: ·) what⟩

/-- Environments are what the changes have made of them. -/
theorem Publishes.environment_course (h : Publishes configuration l bound settings w)
    (run : Course (Deed.Done depth l) w legs w') (known : .aside ∉ deeds legs) :
    w'.store.contexts = w.store.contexts ∧
      ∀ e, w'.store.environment e = Deed.altered (deeds legs) e (w.store.environment e) := by
  induction legs generalizing w bound settings with
  | nil =>
    obtain rfl := run
    exact ⟨rfl, fun _ => rfl⟩
  | cons leg rest ih =>
    obtain ⟨rfl, done, later⟩ := run
    obtain ⟨first, others⟩ := not_or.1 (mt List.mem_cons.2 known)
    obtain ⟨contexts, environments⟩ := h.environment_of_done done (Ne.symm first)
    obtain ⟨contexts', environments'⟩ := ih (h.done done) later others
    refine ⟨contexts'.trans contexts, fun e => ?_⟩
    rw [environments', environments]
    rfl

/-- The events that end well are the legs that publish settings. -/
theorem Publishes.succeeded_iff (h : Publishes configuration l bound settings leg.start)
    (done : leg.what.Done depth l leg.start leg.result leg.finish) :
    Succeeded leg ↔ ∃ s, published? configuration l leg = some s := by
  unfold Succeeded published?
  rw [h.listener]
  cases what : leg.what with
  | event e =>
    rw [what] at done
    rw [h.result_of_event done, ending_eq_ok]
    show _ ↔ ∃ s, (configuration.computed bound leg.start.store).toOption = some s
    rcases configuration.computed bound leg.start.store with error | s <;> simp [Except.toOption]
  | bind c => simp [Deed.published?]
  | change e f => simp [Deed.published?]
  | aside => simp [Deed.published?]

/-- Where nothing is published any more, what was published stays. -/
theorem getLast?_filterMap_of_last {α β : Type} {f : α → Option β} {a : α} {b : β} (before : List α)
    {after : List α} (h : f a = some b) (later : ∀ a' ∈ after, f a' = none) :
    ((before ++ a :: after).filterMap f).getLast? = some b := by
  rw [List.filterMap_append, List.filterMap_cons_some h, List.filterMap_eq_nil_iff.2 later,
    List.getLast?_append]
  rfl

end Courses

/-! ## Settings that are published -/

/-- How an event ends, and what is left of it, where `told` is the context that was told last. -/
structure Answered (configuration : Configuration) (l : ListenerId) (told : Option ContextId)
    (leg : DeedLeg σ) : Prop where
  /-- It ends well exactly if the environment of that context meets all demands. -/
  succeeds : leg.result = .ok () ↔
    ∃ c, told = some c ∧ ∀ d ∈ demands, d.Met (leg.start.store.environmentIn c)
  unbound : told = none → leg.result = .error (.startup .contextUnavailable)
  misread : ∀ c, told = some c → ∀ error,
    configuration.configure (leg.start.store.environmentIn c) = .error error →
      leg.result = .error (.startup error)
  /-- An event that fails leaves the listener as it was. -/
  kept : leg.result ≠ .ok () → leg.finish.store.listener l = leg.start.store.listener l

/-- What a course of deeds leaves of a listener that had computed no settings before it. -/
structure Published (configuration : Configuration) (l : ListenerId) (w : World σ)
    (legs : List (DeedLeg σ)) (w' : World σ) : Prop where
  /-- After the last event that ended well, the settings are those of the environment that the context
  told last before it had at it. -/
  latest : ∀ before leg after, legs = before ++ leg :: after → Succeeded leg →
    (∀ later ∈ after, ¬ Succeeded later) →
    ∃ c s, Deed.told (deeds before) = some c ∧
      configuration.configure (leg.start.store.environmentIn c) = .ok s ∧
      (w'.store.listener l).settings = some s
  never : (w'.store.listener l).settings = none ↔ ∀ leg ∈ legs, ¬ Succeeded leg
  answers : ∀ before leg after, legs = before ++ leg :: after → (∃ e, leg.what = .event e) →
    Answered configuration l (Deed.told (deeds before)) leg
  /-- The environments that are read are those that the changes have made. -/
  reads : ∀ before leg after, legs = before ++ leg :: after → .aside ∉ deeds before → ∀ c,
    leg.start.store.environmentIn c =
      Deed.altered (deeds before) (w.store.context c).environment (w.store.environmentIn c)

section Published

variable {configuration : Configuration} {l : ListenerId} {bound : Option ContextId}
  {settings : Option Settings} {depth : Nat} {w w' : World σ} {legs : List (DeedLeg σ)}
  {leg : DeedLeg σ}

theorem Publishes.answered (h : Publishes configuration l bound settings leg.start)
    (done : leg.what.Done depth l leg.start leg.result leg.finish) (event : ∃ e, leg.what = .event e) :
    Answered configuration l bound leg := by
  obtain ⟨e, what⟩ := event
  rw [what] at done
  have result := h.result_of_event done
  constructor
  · rw [result, ending_eq_ok]
    rcases bound with _ | c
    · simp [Configuration.computed]
    · rw [Configuration.computed, (demands_configure configuration _).ok_iff]
      simp
  · rintro rfl
    exact result
  · rintro c rfl error misread
    rw [result, Configuration.computed, misread]
    rfl
  · intro fails
    rw [result] at fails
    rcases computed : configuration.computed bound leg.start.store with error | s
    · have unpublished : (Deed.event e).published? configuration bound leg.start.store = none := by
        rw [Deed.published?, computed]
        rfl
      rw [(h.done done).listener, h.listener, unpublished]
      rfl
    · exact absurd (ending_eq_ok.2 ⟨s, computed⟩) fails

/-- Over any course of deeds, whichever they are, that starts where nothing was published. -/
theorem Publishes.published (h : Publishes configuration l none none w)
    (run : Course (Deed.Done depth l) w legs w') : Published configuration l w legs w' := by
  have final := h.course run
  rw [Option.or_none, Option.or_none] at final
  -- a leg begins with what the legs before it have left
  have leg_at {before : List (DeedLeg σ)} {leg : DeedLeg σ} {after : List (DeedLeg σ)}
      (split : legs = before ++ leg :: after) :
      Publishes configuration l (Deed.told (deeds before))
          (before.filterMap (published? configuration l)).getLast? leg.start ∧
        leg.what.Done depth l leg.start leg.result leg.finish := by
    obtain ⟨_, past, rfl, done, -⟩ := course_append.1 (split ▸ run)
    have reached := h.course past
    rw [Option.or_none, Option.or_none] at reached
    exact ⟨reached, done⟩
  have succeeded {leg : DeedLeg σ} (mem : leg ∈ legs) :
      Succeeded leg ↔ ∃ s, published? configuration l leg = some s := by
    obtain ⟨before, after, split⟩ := List.append_of_mem mem
    exact (leg_at split).1.succeeded_iff (leg_at split).2
  have failed {leg : DeedLeg σ} (mem : leg ∈ legs) :
      ¬ Succeeded leg ↔ published? configuration l leg = none := by
    rw [succeeded mem, ← Option.isSome_iff_exists, Bool.not_eq_true, Option.isSome_eq_false_iff,
      Option.isNone_iff_eq_none]
  constructor
  · rintro before leg after rfl hleg later
    obtain ⟨s, hs⟩ := (succeeded (by simp)).1 hleg
    have last : ∀ later ∈ after, published? configuration l later = none :=
      fun other mem => (failed (by simp [mem])).1 (later other mem)
    obtain ⟨⟨e, what⟩, -⟩ := hleg
    have computed := hs
    rw [published?, (leg_at rfl).1.listener, what] at computed
    obtain ⟨c, bound, configured⟩ := Deed.published?_event.1 computed
    refine ⟨c, s, bound, configured, ?_⟩
    rw [final.listener]
    exact getLast?_filterMap_of_last before hs last
  · rw [final.listener]
    show (legs.filterMap (published? configuration l)).getLast? = none ↔ _
    rw [List.getLast?_eq_none_iff, List.filterMap_eq_nil_iff]
    exact forall₂_congr fun leg mem => (failed mem).symm
  · rintro before leg after split event
    exact (leg_at split).1.answered (leg_at split).2 event
  · rintro before leg after rfl known c
    obtain ⟨_, past, rfl, -, -⟩ := course_append.1 run
    obtain ⟨contexts, environments⟩ := h.environment_course past known
    unfold Store.environmentIn Store.context
    rw [contexts, environments]

end Published

/-- Any deeds can be done to a web listener that has just been made without code of the application, one
after the other: it can be told contexts, their environments can be changed, and it can be handed events. At
every moment its settings are those that were computed at the last event that ended well, from the
environment which the context that it had been told last had then, and it has none if no event ended well.
An event fails exactly if no context was told before it, or if the environment of that context does not meet
a demand, and then it leaves the listener as it was. -/
theorem settings_of_last_success {configuration : Configuration} {l : ListenerId} {w : World σ}
    (new : w.store.listener l = .web configuration) (plain : w.listenerCode.get l = default) (depth : Nat) :
    (∀ ds : List Deed, ∃ legs w', Course (Deed.Done depth l) w legs w' ∧ deeds legs = ds) ∧
    ∀ legs w', Course (Deed.Done depth l) w legs w' → Published configuration l w legs w' := by
  have start : Publishes configuration l none none w := ⟨new, plain⟩
  constructor
  · intro ds
    exact start.exists_course depth ds
  · intro legs w' run
    exact start.published run

/-- A world with a web listener that was told nothing yet. -/
def staged : World Unit where
  store := {
    listeners := ⟨[(⟨1⟩, .web ⟨fun _ => false, []⟩)]⟩
    contexts := ⟨[(⟨2⟩, { environment := ⟨3⟩ })]⟩ }
  memory := ()

def ready : Event := .starting { name := "" } []

def spoilt : Environment := .ofSources [.ofPairs "" 0 [(chainEnabledKey, .text "maybe")]]

/-- An event before a context is told, one that ends well, and one after the environment was spoilt. -/
def spoiling : List Deed :=
  [.event ready, .bind ⟨2⟩, .event ready, .change ⟨3⟩ (fun _ => spoilt), .event ready]

/-- The last event fails, and the settings of the one before it stay. -/
theorem settings_of_last_success_spoilt : ∃ legs w' s, Course (Deed.Done 1 ⟨1⟩) staged legs w' ∧
    deeds legs = spoiling ∧
    legs.head?.map (·.result) = some (.error (.startup .contextUnavailable)) ∧
    legs.getLast?.map (·.result) =
      some (.error (.startup (.binding "resources.chain.enabled" "maybe" "a boolean"))) ∧
    (⟨fun _ => false, []⟩ : Configuration).configure {} = .ok s ∧
    (w'.store.listener ⟨1⟩).settings = some s := by
  obtain ⟨exist, published⟩ := settings_of_last_success (l := ⟨1⟩) (w := staged) rfl rfl 1
  obtain ⟨legs, w', run, what⟩ := exist spoiling
  have final := published legs w' run
  obtain ⟨early, _, rfl, hearly, rest⟩ := List.map_eq_cons_iff.1 what
  obtain ⟨bind, _, rfl, hbind, rest⟩ := List.map_eq_cons_iff.1 rest
  obtain ⟨well, _, rfl, hwell, rest⟩ := List.map_eq_cons_iff.1 rest
  obtain ⟨change, _, rfl, hchange, rest⟩ := List.map_eq_cons_iff.1 rest
  obtain ⟨late, _, rfl, hlate, rest⟩ := List.map_eq_cons_iff.1 rest
  obtain rfl := List.map_eq_nil_iff.1 rest
  have first : deeds [early, bind] = [.event ready, .bind ⟨2⟩] := by
    simp only [deeds, List.map_cons, List.map_nil, hearly, hbind]
  have most : deeds [early, bind, well, change] =
      [.event ready, .bind ⟨2⟩, .event ready, .change ⟨3⟩ fun _ => spoilt] := by
    simp only [deeds, List.map_cons, List.map_nil, hearly, hbind, hwell, hchange]
  have final := published _ _ run
  -- the second event reads an empty environment, and the last one that which was spoilt
  have unspoilt : well.start.store.environmentIn ⟨2⟩ = {} := by
    rw [final.reads [early, bind] well _ rfl (by rw [first]; simp), first]
    rfl
  have changed : late.start.store.environmentIn ⟨2⟩ = spoilt := by
    rw [final.reads [early, bind, well, change] late _ rfl (by rw [most]; simp), most]
    rfl
  have unbound := (final.answers [] early _ rfl ⟨_, hearly⟩).unbound rfl
  have misread := (final.answers [early, bind, well, change] late _ rfl ⟨_, hlate⟩).misread ⟨2⟩
    (by rw [most]; rfl) (.binding "resources.chain.enabled" "maybe" "a boolean") (by rw [changed]; rfl)
  have succeeds : well.result = .ok () := by
    refine (final.answers [early, bind] well _ rfl ⟨_, hwell⟩).succeeds.2 ⟨⟨2⟩, by rw [first]; rfl, ?_⟩
    rw [unspoilt]
    rintro d - v ⟨⟩
  have last : ∀ later ∈ [change, late], ¬ Succeeded later := by
    rintro later mem ⟨⟨e, event⟩, ends⟩
    rcases List.mem_cons.1 mem with rfl | mem
    · cases hchange.symm.trans event
    · obtain rfl := List.mem_singleton.1 mem
      cases misread.symm.trans ends
  obtain ⟨c, s, hc, configured, settings⟩ :=
    final.latest [early, bind] well _ rfl ⟨⟨_, hwell⟩, succeeds⟩ last
  rw [first] at hc
  obtain rfl : (⟨2⟩ : ContextId) = c := Option.some.inj hc
  rw [unspoilt] at configured
  exact ⟨_, w', s, run, what, congrArg some unbound, congrArg some misread, configured, settings⟩

end Web

end Startup
