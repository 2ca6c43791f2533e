/-
The sequence of a run. The steps of an application are planned: each phase for every observer, the
environment, the context, the initializers, the refresh and the runners, in one order. A run takes the
steps of the plan up to the first that fails, and ends well if none does; after a failed step it tells
every observer, in their order, of one cause and with the context if that was made by then. The
observers are the announcer and those that the application adds, stably sorted.
-/
import Mathlib.Data.List.Forall2
import Startup.Proofs.Course
import Startup.Proofs.RunFailure

namespace Startup

variable {σ : Type}

/-- Items gone through one by one give one result each. -/
theorem Action.mapM_forall₂ {α β : Type} {act : α → Action σ β} {R : α → β → Prop}
    (one : ∀ a b m m', act a m = (.ok b, m') → R a b) :
    ∀ {xs : List α} {ys : List β} {w w' : World σ}, xs.mapM act w = (.ok ys, w') →
      List.Forall₂ R xs ys
  | [], ys, w, w', h => by
    rw [List.mapM_nil] at h
    obtain ⟨rfl, -⟩ := Action.pure_eq_ok.1 h
    exact .nil
  | x :: xs, ys, w, w', h => by
    rw [List.mapM_cons] at h
    obtain ⟨y, m, hfirst, h⟩ := Action.bind_eq_ok.1 h
    obtain ⟨rest, m', hrest, h⟩ := Action.bind_eq_ok.1 h
    obtain ⟨rfl, -⟩ := Action.pure_eq_ok.1 h
    exact .cons (one x y w m hfirst) (mapM_forall₂ one hrest)

namespace Application

variable {app : Application σ} {call : Caller σ} {args : List String}

/-! ## The plan -/

/-- The steps before there is a context, for so many observers. -/
def earlyPlan (observers : Nat) : List RunStep :=
  (List.range observers).map .starting ++
  .prepareEnvironment :: (List.range observers).map .environmentPrepared

/-- The steps once there is a context. -/
def latePlan (app : Application σ) (observers : Nat) : List RunStep :=
  (List.range app.initializers.length).map .initializer ++
  (List.range observers).map .contextPrepared ++
  (List.range observers).map .contextLoaded ++
  [.refresh] ++
  (List.range observers).map .started ++
  (List.range app.runners.length).map .runner ++
  (List.range observers).map .running

/-- The steps of a run in their order. -/
def plan (app : Application σ) (observers : Nat) : List RunStep :=
  earlyPlan observers ++ .createContext :: app.latePlan observers

/-- A step of a run as it is done, once it is known which environment and context are made. -/
def Does (app : Application σ) (call : Caller σ) (observers : List (Observer σ)) (args : List String)
    (env : EnvironmentId) (c : ContextId) (step : RunStep) (w : World σ)
    (r : Except StartupError Unit) (w' : World σ) : Prop :=
  let told (i : Nat) (what : Announcement) : Prop :=
    ∃ o ∈ observers[i]?, perform step (o.announce call what) w = (.ok r, w')
  let called (p : Program σ) : Prop :=
    ∃ result, perform step (call p) w = (.ok result, w') ∧ r = result.mapError .other
  match step with
  | .starting i => told i .starting
  | .prepareEnvironment => ∃ made, perform step app.layers.prepare w = (.ok made, w') ∧
      (made = .ok env ∧ r = .ok () ∨ ∃ e, made = .error e ∧ r = .error e)
  | .environmentPrepared i => told i (.environmentPrepared env)
  | .createContext => app.createContext env w = (.ok c, w') ∧ r = .ok ()
  | .initializer i => ∃ p ∈ app.initializers[i]?, called (p c)
  | .contextPrepared i => told i (.contextPrepared c)
  | .contextLoaded i => told i (.contextLoaded c)
  | .refresh => perform step (Startup.refresh call c) w = (.ok r, w')
  | .started i => told i (.started c)
  | .runner i => ∃ p ∈ app.runners[i]?, called (p c args)
  | .running i => told i (.running c)

/-- Tasks in turn are their steps up to the first that fails. -/
theorem performAll_iff
    {does : RunStep → World σ → Except StartupError Unit → World σ → Prop} {w' : World σ}
    {r : Except StartupError Unit} :
    ∀ {tasks : List (Task σ)} {w : World σ}, (∀ t ∈ tasks, ∀ m s m',
        does t.1 m s m' ↔ perform t.1 t.2 m = (.ok s, m')) →
      (performAll tasks w = (.ok r, w') ↔ ∃ legs, Gone does (tasks.map (·.1)) w legs r w')
  | [], w, _ => by
    unfold performAll
    rw [Action.pure_eq_ok]
    simp [gone_nil]
  | (step, act) :: rest, w, agree => by
    have hfirst := agree _ (List.mem_cons_self ..)
    have hrest (m : World σ) : performAll rest m = (.ok r, w') ↔ _ :=
      performAll_iff fun t ht => agree t (List.mem_cons_of_mem _ ht)
    unfold performAll
    simp only [List.map_cons, gone_cons]
    rw [Action.bind_eq_ok]
    constructor
    · rintro ⟨result, m, hperform, h⟩
      have hdoes := (hfirst w result m).2 hperform
      rcases result with e | _
      · obtain ⟨rfl, rfl⟩ := Action.pure_eq_ok.1 h
        exact ⟨_, _, _, [], rfl, hdoes, .inr ⟨e, rfl, rfl, rfl, rfl⟩⟩
      · obtain ⟨legs, hgone⟩ := (hrest m).1 h
        exact ⟨_, _, _, legs, rfl, hdoes, .inl ⟨rfl, hgone⟩⟩
    · rintro ⟨_, result, m, legs, rfl, hdoes, h⟩
      refine ⟨result, m, (hfirst w result m).1 hdoes, ?_⟩
      rcases h with ⟨rfl, hgone⟩ | ⟨e, rfl, rfl, rfl, rfl⟩
      · exact (hrest m).2 ⟨legs, hgone⟩
      · rfl

section Tasks

variable {observers : List (Observer σ)} {env : EnvironmentId} {c : ContextId}

theorem map_announcing (step : Nat → RunStep) (what : Announcement) :
    (announcing call step what observers).map (·.1) = (List.range observers.length).map step := by
  have hplaces : observers.zipIdx.map (·.2) = List.range observers.length := by
    rw [List.zipIdx_map_snd, List.range_eq_range']
  rw [← hplaces, announcing, List.map_map, List.map_map]
  rfl

theorem map_calling (step : Nat → RunStep) (programs : List (Program σ)) :
    (calling call step programs).map (·.1) = (List.range programs.length).map step := by
  have hplaces : programs.zipIdx.map (·.2) = List.range programs.length := by
    rw [List.zipIdx_map_snd, List.range_eq_range']
  rw [← hplaces, calling, List.map_map, List.map_map]
  rfl

theorem does_announcing {step : Nat → RunStep} {what : Announcement}
    (told : ∀ i m s m', app.Does call observers args env c (step i) m s m' ↔
      ∃ o ∈ observers[i]?, perform (step i) (o.announce call what) m = (.ok s, m')) :
    ∀ t ∈ announcing call step what observers, ∀ m s m',
      app.Does call observers args env c t.1 m s m' ↔ perform t.1 t.2 m = (.ok s, m') := by
  intro t ht m s m'
  obtain ⟨⟨o, i⟩, ho, rfl⟩ := List.mem_map.1 ht
  have hplace : observers[i]? = some o := List.mem_zipIdx_iff_getElem?.1 ho
  simp [told, hplace]

theorem does_calling {step : Nat → RunStep} {programs : List (Program σ)}
    (called : ∀ i m s m', app.Does call observers args env c (step i) m s m' ↔
      ∃ p ∈ programs[i]?, ∃ result, perform (step i) (call p) m = (.ok result, m') ∧
        s = result.mapError .other) :
    ∀ t ∈ calling call step programs, ∀ m s m',
      app.Does call observers args env c t.1 m s m' ↔ perform t.1 t.2 m = (.ok s, m') := by
  intro t ht m s m'
  obtain ⟨⟨p, i⟩, hp, rfl⟩ := List.mem_map.1 ht
  have hplace : programs[i]? = some p := List.mem_zipIdx_iff_getElem?.1 hp
  have hperform : perform (step i) (do return (← call p).mapError StartupError.other) =
      perform (step i) (call p) >>= fun result => pure (result.mapError StartupError.other) := by
    simp [perform]
  simp only [called, hplace, hperform, Action.bind_eq_ok, Action.pure_eq_ok]
  grind

/-- What stands at a place of a mapped list is what is made of the item at this place. -/
theorem exists_getElem?_map {α β : Type} {f : α → β} {xs : List α} {i : Nat} {P : β → Prop} :
    (∃ y ∈ (xs.map f)[i]?, P y) ↔ ∃ x ∈ xs[i]?, P (f x) := by
  rw [List.getElem?_map]
  cases xs[i]? <;> simp

/-- With the environment and the context the late steps are the tasks of the run. -/
theorem does_tasks : ∀ t ∈ app.tasks call observers args c, ∀ m s m',
    app.Does call observers args env c t.1 m s m' ↔ perform t.1 t.2 m = (.ok s, m') := by
  intro t ht
  simp only [tasks, List.mem_append, List.mem_singleton] at ht
  rcases ht with (((((ht | ht) | ht) | rfl) | ht) | ht) | ht
  · exact does_calling (by simp only [Does, exists_getElem?_map, implies_true]) t ht
  · exact does_announcing (fun _ _ _ _ => Iff.rfl) t ht
  · exact does_announcing (fun _ _ _ _ => Iff.rfl) t ht
  · exact fun _ _ _ => Iff.rfl
  · exact does_announcing (fun _ _ _ _ => Iff.rfl) t ht
  · exact does_calling (by simp only [Does, exists_getElem?_map, implies_true]) t ht
  · exact does_announcing (fun _ _ _ _ => Iff.rfl) t ht

theorem map_tasks :
    (app.tasks call observers args c).map (·.1) = app.latePlan observers.length := by
  simp [tasks, latePlan, map_announcing, map_calling]

/-! ## The attempt -/

theorem performAll_announcing_iff {step : Nat → RunStep} {what : Announcement} {w w' : World σ}
    {s : Except StartupError Unit}
    (told : ∀ i m s m', app.Does call observers args env c (step i) m s m' ↔
      ∃ o ∈ observers[i]?, perform (step i) (o.announce call what) m = (.ok s, m')) :
    performAll (announcing call step what observers) w = (.ok s, w') ↔
      ∃ legs, Gone (app.Does call observers args env c) ((List.range observers.length).map step) w
        legs s w' := by
  have steps : (announcing call step what observers).map (·.1) = _ := map_announcing step what
  rw [← steps]
  exact performAll_iff (does_announcing told)

/-- The steps before there is a context, up to the first that fails, give the environment. -/
theorem environment_iff {w w' : World σ} {r : Except StartupError EnvironmentId} :
    app.environment call observers w = (.ok r, w') ↔
      ∃ env legs s,
        Gone (app.Does call observers args env c) (earlyPlan observers.length) w legs s w' ∧
          r = s.map fun _ => env := by
  have starting {env : EnvironmentId} {s : Except StartupError Unit} {m : World σ} :
      performAll (announcing call .starting .starting observers) w = (.ok s, m) ↔
        ∃ legs, Gone (app.Does call observers args env c)
          ((List.range observers.length).map .starting) w legs s m :=
    performAll_announcing_iff fun _ _ _ _ => Iff.rfl
  have prepared {env : EnvironmentId} {s : Except StartupError Unit} {m m' : World σ} :
      performAll (announcing call .environmentPrepared (.environmentPrepared env) observers) m =
          (.ok s, m') ↔
        ∃ legs, Gone (app.Does call observers args env c)
          ((List.range observers.length).map .environmentPrepared) m legs s m' :=
    performAll_announcing_iff fun _ _ _ _ => Iff.rfl
  unfold environment earlyPlan
  constructor
  · intro h
    obtain ⟨s, m, hstarting, h⟩ := Action.bind_eq_ok.1 h
    rcases s with e | _
    · obtain ⟨rfl, rfl⟩ := Action.pure_eq_ok.1 h
      obtain ⟨legs, hgone⟩ := starting.1 hstarting
      exact ⟨⟨0⟩, legs, .error e, gone_append.2 (.inl ⟨e, rfl, hgone⟩), rfl⟩
    obtain ⟨made, m', hprepare, h⟩ := Action.bind_eq_ok.1 h
    rcases made with e | env
    · obtain ⟨rfl, rfl⟩ := Action.pure_eq_ok.1 h
      obtain ⟨legs, hgone⟩ := starting.1 hstarting
      refine ⟨⟨0⟩, legs ++ [⟨.prepareEnvironment, m, .error e, w'⟩], .error e, ?_, rfl⟩
      refine gone_append.2 (.inr ⟨legs, m, _, rfl, hgone, gone_cons.2 ⟨_, w', [], rfl, ?_, ?_⟩⟩)
      · exact ⟨_, hprepare, .inr ⟨e, rfl, rfl⟩⟩
      · exact .inr ⟨e, rfl, rfl, rfl, rfl⟩
    obtain ⟨legs, hgone⟩ := starting.1 hstarting
    obtain ⟨s, n, hprepared, h⟩ := Action.bind_eq_ok.1 h
    obtain ⟨more, hmore⟩ := prepared.1 hprepared
    obtain ⟨rfl, rfl⟩ : r = s.map (fun _ => env) ∧ w' = n := by
      rcases s with e | _ <;> exact Action.pure_eq_ok.1 h
    refine ⟨env, legs ++ ⟨.prepareEnvironment, m, .ok (), m'⟩ :: more, s, ?_, rfl⟩
    refine gone_append.2 (.inr ⟨legs, m, _, rfl, hgone, gone_cons.2 ⟨_, m', more, rfl, ?_, ?_⟩⟩)
    · exact ⟨_, hprepare, .inl ⟨rfl, rfl⟩⟩
    · exact .inl ⟨rfl, hmore⟩
  · rintro ⟨env, legs, s, hgone, rfl⟩
    rcases gone_append.1 hgone with ⟨e, rfl, hfirst⟩ | ⟨first, m, second, rfl, hfirst, hsecond⟩
    · exact Action.bind_eq_ok.2 ⟨_, _, starting.2 ⟨_, hfirst⟩, rfl⟩
    refine Action.bind_eq_ok.2 ⟨_, _, starting.2 ⟨_, hfirst⟩, ?_⟩
    obtain ⟨result, m', more, rfl, ⟨made, hprepare, h⟩, hmore⟩ := gone_cons.1 hsecond
    refine Action.bind_eq_ok.2 ⟨_, _, hprepare, ?_⟩
    rcases h with ⟨rfl, rfl⟩ | ⟨e, rfl, rfl⟩
    · rcases hmore with ⟨-, hmore⟩ | ⟨_, he, -⟩
      · refine Action.bind_eq_ok.2 ⟨_, _, prepared.2 ⟨_, hmore⟩, ?_⟩
        rcases s with e | _ <;> rfl
      · cases he
    · rcases hmore with ⟨he, -⟩ | ⟨_, he, -, rfl, rfl⟩
      · cases he
      · obtain rfl := Except.error.inj he
        rfl

/-- The context, if the steps that were taken made it. -/
def madeBy (c : ContextId) (legs : List (Leg σ RunStep (Except StartupError Unit))) :
    Option ContextId :=
  if .createContext ∈ legs.map (·.what) then some c else none

/-- The steps before there is a context do not make one. -/
theorem madeBy_early {does : RunStep → World σ → Except StartupError Unit → World σ → Prop}
    {n : Nat} {w w' : World σ} {legs : List (Leg σ RunStep (Except StartupError Unit))}
    {s : Except StartupError Unit} (h : Gone does (earlyPlan n) w legs s w') :
    madeBy c legs = none := by
  obtain ⟨rest, hrest⟩ := h.upTo.what_prefix
  have absent : RunStep.createContext ∉ earlyPlan n := by simp [earlyPlan]
  exact if_neg fun made => absent (hrest ▸ List.mem_append_left _ made)

theorem madeBy_late {first more : List (Leg σ RunStep (Except StartupError Unit))} {m m' : World σ}
    {s : Except StartupError Unit} :
    madeBy c (first ++ ⟨.createContext, m, s, m'⟩ :: more) = some c := by
  simp [madeBy]

/-- An attempt goes through the plan of the run, and its result is that of the last step. -/
theorem attempt_iff {w w' : World σ} {r : Except (Option ContextId × StartupError) ContextId} :
    app.attempt call observers args w = (.ok r, w') ↔
      ∃ env c legs s,
        Gone (app.Does call observers args env c) (app.plan observers.length) w legs s w' ∧
          r = match s with
            | .ok () => .ok c
            | .error e => .error (madeBy c legs, e) := by
  have late (env : EnvironmentId) {c : ContextId} {s : Except StartupError Unit} {m m' : World σ} :
      performAll (app.tasks call observers args c) m = (.ok s, m') ↔
        ∃ legs, Gone (app.Does call observers args env c) (app.latePlan observers.length) m legs s
          m' := by
    have steps : (app.tasks call observers args c).map (·.1) = _ := map_tasks
    rw [← steps]
    exact performAll_iff does_tasks
  unfold attempt plan
  constructor
  · intro h
    obtain ⟨r', m, henvironment, h⟩ := Action.bind_eq_ok.1 h
    have early (c : ContextId) : ∃ env legs s, Gone (app.Does call observers args env c)
        (earlyPlan observers.length) w legs s m ∧ r' = s.map fun _ => env :=
      environment_iff.1 henvironment
    rcases r' with e | env
    · obtain ⟨rfl, rfl⟩ := Action.pure_eq_ok.1 h
      obtain ⟨env, legs, s, hgone, hs⟩ := early ⟨0⟩
      rcases s with e' | _
      · obtain rfl := Except.error.inj hs
        refine ⟨env, ⟨0⟩, legs, .error e, gone_append.2 (.inl ⟨e, rfl, hgone⟩), ?_⟩
        rw [madeBy_early hgone]
      · cases hs
    obtain ⟨c, m', hcreate, h⟩ := Action.bind_eq_ok.1 h
    obtain ⟨s, n, htasks, h⟩ := Action.bind_eq_ok.1 h
    obtain ⟨env', first, s', hfirst, hs'⟩ := early c
    obtain ⟨rfl, rfl⟩ : env = env' ∧ s' = .ok () := by
      rcases s' with e | _
      · cases hs'
      · exact ⟨Except.ok.inj hs', rfl⟩
    obtain ⟨more, hmore⟩ := (late env).1 htasks
    refine ⟨env, c, first ++ ⟨.createContext, m, .ok (), m'⟩ :: more, s, ?_, ?_⟩
    · obtain rfl : w' = n := by
        rcases s with e | _ <;> exact (Action.pure_eq_ok.1 h).2
      exact gone_append.2 (.inr ⟨first, m, _, rfl, hfirst, gone_cons.2
        ⟨.ok (), m', more, rfl, ⟨hcreate, rfl⟩, .inl ⟨rfl, hmore⟩⟩⟩)
    · rw [madeBy_late]
      rcases s with e | _ <;> exact (Action.pure_eq_ok.1 h).1
  · rintro ⟨env, c, legs, s, hgone, rfl⟩
    rcases gone_append.1 hgone with ⟨e, rfl, hfirst⟩ | ⟨first, m, _, rfl, hfirst, hsecond⟩
    · refine Action.bind_eq_ok.2 ⟨_, _, environment_iff.2 ⟨env, legs, _, hfirst, rfl⟩, ?_⟩
      rw [madeBy_early hfirst]
      rfl
    obtain ⟨_, m', more, rfl, ⟨hcreate, rfl⟩, ⟨-, hmore⟩ | ⟨_, he, -⟩⟩ := gone_cons.1 hsecond
    · refine Action.bind_eq_ok.2 ⟨_, _, environment_iff.2 ⟨env, first, _, hfirst, rfl⟩, ?_⟩
      refine Action.bind_eq_ok.2 ⟨_, _, hcreate, ?_⟩
      refine Action.bind_eq_ok.2 ⟨_, _, (late env).2 ⟨_, hmore⟩, ?_⟩
      rw [madeBy_late]
      rcases s with e | _ <;> rfl
    · cases he

end Tasks

/-! ## The end of a failed run -/

/-- An observer, with its place, is told of a failure. -/
def Tells (call : Caller σ) (c : Option ContextId) (cause : Cause) (place : Observer σ × Nat)
    (w : World σ) (_ : Unit) (w' : World σ) : Prop :=
  (do record (.reported place.2 c cause); place.1.announceFailure call c cause : Action σ Unit) w =
    (.ok (), w')

/-- The context, if there is one, is closed. -/
def Closes (call : Caller σ) (c : Option ContextId) (w w' : World σ) : Prop :=
  match c with
  | none => w' = w
  | some c => close call c w = (.ok (), w')

/-- Every observer in its place is told of one cause, and then the context is closed. -/
def Fails (call : Caller σ) (observers : List (Observer σ)) (c : Option ContextId) (cause : Cause)
    (w w' : World σ) : Prop :=
  ∃ legs m, Course (Tells call c cause) w legs m ∧ legs.map (·.what) = observers.zipIdx ∧
    Closes call c m w'

theorem reportAll_iff {c : Option ContextId} {cause : Cause} {w' : World σ} :
    ∀ {places : List (Observer σ × Nat)} {w : World σ},
      reportAll call c cause places w = (.ok (), w') ↔
        ∃ legs, Course (Tells call c cause) w legs w' ∧ legs.map (·.what) = places
  | [], w => by
    constructor
    · intro h
      obtain ⟨-, rfl⟩ := Action.pure_eq_ok.1 h
      exact ⟨[], rfl, rfl⟩
    · rintro ⟨legs, hcourse, hlegs⟩
      obtain rfl := List.map_eq_nil_iff.1 hlegs
      exact Action.pure_eq_ok.2 ⟨rfl, hcourse⟩
  | place :: rest, w => by
    have split : reportAll call c cause (place :: rest) =
        (do record (.reported place.2 c cause); place.1.announceFailure call c cause) >>= fun _ =>
          reportAll call c cause rest := by
      rw [bind_assoc]
      rfl
    rw [split]
    constructor
    · intro h
      obtain ⟨_, m, hplace, hrest⟩ := Action.bind_eq_ok.1 h
      obtain ⟨legs, hcourse, hlegs⟩ := reportAll_iff.1 hrest
      exact ⟨⟨place, w, (), m⟩ :: legs, ⟨rfl, hplace, hcourse⟩, congrArg (place :: ·) hlegs⟩
    · rintro ⟨legs, hcourse, hlegs⟩
      obtain ⟨leg, legs, rfl, rfl, hrest⟩ := List.map_eq_cons_iff.1 hlegs
      obtain ⟨rfl, hplace, hcourse⟩ := hcourse
      exact Action.bind_eq_ok.2 ⟨(), _, hplace, reportAll_iff.2 ⟨legs, hcourse, hrest⟩⟩

/-- The failure is logged and gets its number; then every observer is told. -/
theorem fail_iff {observers : List (Observer σ)} {c : Option ContextId}
    {error result : StartupError} {w w' : World σ} :
    fail call observers c error w = (.ok result, w') ↔
      Fails call observers c ⟨w.store.fresh, error⟩ (Move.takeNumber.apply ((Move.record
        (.logged .error ("Application run failed: " ++ error.chainMessage))).apply w)) w' ∧
      result = outcome w'.store ⟨w.store.fresh, error⟩ := by
  generalize hcause : (⟨w.store.fresh, error⟩ : Cause) = cause
  have start : fail call observers c error w =
      (reportAll call c cause observers.zipIdx >>= fun _ => afterReports call c cause)
      (Move.takeNumber.apply ((Move.record
        (.logged .error ("Application run failed: " ++ error.chainMessage))).apply w)) := by
    subst hcause
    rfl
  generalize Move.takeNumber.apply _ = n at start
  have finish {m : World σ} : afterReports call c cause m = (.ok result, w') ↔
      Closes call c m w' ∧ result = outcome w'.store cause := by
    unfold afterReports
    cases c with
    | none =>
      constructor
      · intro h
        obtain ⟨hresult, rfl⟩ := Action.pure_eq_ok.1 h
        exact ⟨rfl, hresult⟩
      · rintro ⟨rfl, rfl⟩
        rfl
    | some c =>
      constructor
      · intro h
        obtain ⟨_, m', hclose, h⟩ := Action.bind_eq_ok.1 h
        obtain ⟨hresult, rfl⟩ := Action.pure_eq_ok.1 h
        exact ⟨hclose, hresult⟩
      · rintro ⟨hclose, rfl⟩
        exact Action.bind_eq_ok.2 ⟨(), w', hclose, rfl⟩
  rw [start]
  constructor
  · intro h
    obtain ⟨_, m, hreport, h⟩ := Action.bind_eq_ok.1 h
    obtain ⟨legs, hcourse, hlegs⟩ := reportAll_iff.1 hreport
    obtain ⟨hcloses, hresult⟩ := finish.1 h
    exact ⟨⟨legs, m, hcourse, hlegs, hcloses⟩, hresult⟩
  · rintro ⟨⟨legs, m, hcourse, hlegs, hcloses⟩, hresult⟩
    exact Action.bind_eq_ok.2
      ⟨(), m, reportAll_iff.2 ⟨legs, hcourse, hlegs⟩, finish.2 ⟨hcloses, hresult⟩⟩

/-! ## The observers -/

/-- An observer as an application adds it: its own code, or a further announcer. -/
def IsAdded (d : Descriptor) (args : List String) (factory : ObserverFactory σ) (o : Observer σ) :
    Prop :=
  match factory.code d args with
  | some code => o = .own code
  | none => ∃ a, o = .announcer a

/-- The same observers in ascending order, those of one order as they were listed. -/
structure StablySorted (observers listed : List (Observer σ)) : Prop where
  perm : observers.Perm listed
  sorted : observers.Pairwise fun o o' => o.order ≤ o'.order
  stable : ∀ k, observers.filter (·.order = k) = listed.filter (·.order = k)

theorem stablySorted_mergeSort (listed : List (Observer σ)) :
    StablySorted (listed.mergeSort fun o o' => o.order ≤ o'.order) listed := by
  have transitive (x y z : Observer σ) : decide (x.order ≤ y.order) = true →
      decide (y.order ≤ z.order) = true → decide (x.order ≤ z.order) = true := by
    simp only [decide_eq_true_eq]
    exact Int.le_trans
  have total (x y : Observer σ) :
      (decide (x.order ≤ y.order) || decide (y.order ≤ x.order)) = true := by
    simp only [Bool.or_eq_true, decide_eq_true_eq]
    exact Int.le_total ..
  have perm := List.mergeSort_perm listed fun o o' => o.order ≤ o'.order
  refine ⟨perm, ?_, fun k => ?_⟩
  · exact (List.pairwise_mergeSort transitive total listed).imp fun h => of_decide_eq_true h
  · -- those of one order stand in the sorted list as they were listed, and there are no others
    have equal : (listed.filter (·.order = k)).Pairwise
        fun o o' => decide (o.order ≤ o'.order) = true := by
      refine List.pairwise_of_forall_mem_list fun x hx y hy => ?_
      simp only [List.mem_filter, decide_eq_true_eq] at hx hy
      simp [hx.2, hy.2]
    have sub := List.sublist_mergeSort transitive total equal List.filter_sublist
    have kept := sub.filter (·.order = k)
    have all : (listed.filter (·.order = k)).filter (·.order = k) = listed.filter (·.order = k) :=
      List.filter_eq_self.2 fun o ho => (List.mem_filter.1 ho).2
    rw [all] at kept
    exact (kept.eq_of_length (perm.filter _).length_eq.symm).symm

theorem makeObservers_ok {d : Descriptor} {w w' : World σ} {observers : List (Observer σ)}
    (h : app.makeObservers call d args w = (.ok observers, w')) :
    ∃ others, List.Forall₂ (IsAdded d args) app.observers others ∧
      StablySorted observers (.announcer ⟨w.store.fresh⟩ :: others) := by
  obtain ⟨a, m, hfirst, h⟩ := Action.bind_eq_ok.1 h
  obtain rfl : a = ⟨w.store.fresh⟩ := (Except.ok.inj (Prod.mk.inj hfirst).1).symm
  obtain ⟨others, n, hothers, h⟩ := Action.bind_eq_ok.1 h
  obtain ⟨rfl, -⟩ := Action.pure_eq_ok.1 h
  refine ⟨others, Action.mapM_forall₂ (fun factory o m m' h => ?_) hothers, stablySorted_mergeSort _⟩
  obtain ⟨_, m₁, -, h⟩ := Action.bind_eq_ok.1 h
  unfold IsAdded
  rcases hcode : factory.code d args with _ | code <;> rw [hcode] at h
  · obtain ⟨b, m₂, -, h⟩ := Action.bind_eq_ok.1 h
    exact ⟨b, (Action.pure_eq_ok.1 h).1⟩
  · exact (Action.pure_eq_ok.1 h).1

/-! ## The sequence -/

/-- The observers of a run are the announcer and what the factories of the application add to it,
stably sorted. -/
theorem opening_sorted {d : Descriptor} {observers : List (Observer σ)} {w m : World σ}
    (h : app.opening call args w = (.ok (d, observers), m)) :
    ∃ a others, List.Forall₂ (IsAdded d args) app.observers others ∧
      StablySorted observers (.announcer a :: others) := by
  obtain ⟨d', w₁, -, h⟩ := Action.bind_eq_ok.1 h
  obtain ⟨observers', w₂, hmake, h⟩ := Action.bind_eq_ok.1 h
  obtain ⟨_, w₃, -, h⟩ := Action.bind_eq_ok.1 h
  obtain ⟨rfl, rfl⟩ := Prod.mk.inj (Action.pure_eq_ok.1 h).1
  exact ⟨_, makeObservers_ok hmake⟩

/-- A run goes through its plan up to the first step that fails. It ends with the context if none
does, and otherwise with the failure, of which every observer is told once, in their order, with the
context if that was made. The observers are the announcer and what the application adds to it, stably
sorted. -/
theorem run_goes_plan (app : Application σ) (call : Caller σ) (args : List String)
    (unlogged : app.logging = none) {w w' : World σ} {result : Except StartupError ContextId} :
    app.run call args w = (.ok result, w') ↔
      ∃ d observers m, app.opening call args w = (.ok (d, observers), m) ∧
        (∃ a others, List.Forall₂ (IsAdded d args) app.observers others ∧
          StablySorted observers (.announcer a :: others)) ∧
        ∃ env c legs s n,
          Gone (app.Does call observers args env c) (app.plan observers.length) m legs s n ∧
          match s with
          | .ok () => result = .ok c ∧ w' = n
          | .error e =>
            let cause : Cause := ⟨n.store.fresh, e⟩
            Fails call observers (madeBy c legs) cause (Move.takeNumber.apply ((Move.record
              (.logged .error ("Application run failed: " ++ e.chainMessage))).apply n)) w' ∧
            result = .error (outcome w'.store cause) := by
  rw [run_eq_opening (.inl unlogged), logged_of_none unlogged]
  constructor
  · intro h
    obtain ⟨⟨d, observers⟩, m, hopening, h⟩ := Action.bind_eq_ok.1 h
    obtain ⟨r, n, hattempt, h⟩ := Action.bind_eq_ok.1 h
    obtain ⟨env, c, legs, s, hgone, rfl⟩ := attempt_iff.1 hattempt
    refine ⟨d, observers, m, hopening, opening_sorted hopening, env, c, legs, s, n, hgone, ?_⟩
    rcases s with e | _
    · obtain ⟨outcome, n', hfail, h⟩ := Action.bind_eq_ok.1 h
      obtain ⟨rfl, rfl⟩ := Action.pure_eq_ok.1 h
      obtain ⟨hfails, rfl⟩ := fail_iff.1 hfail
      exact ⟨hfails, rfl⟩
    · exact Action.pure_eq_ok.1 h
  · rintro ⟨d, observers, m, hopening, -, env, c, legs, s, n, hgone, hend⟩
    refine Action.bind_eq_ok.2 ⟨(d, observers), m, hopening, ?_⟩
    refine Action.bind_eq_ok.2 ⟨_, n, attempt_iff.2 ⟨env, c, legs, s, hgone, rfl⟩, ?_⟩
    rcases s with e | _
    · obtain ⟨hfails, rfl⟩ := hend
      exact Action.bind_eq_ok.2 ⟨_, w', fail_iff.2 ⟨hfails, rfl⟩, rfl⟩
    · exact Action.pure_eq_ok.2 hend

/-- An observer that does nothing when it is told. -/
def watcher (order : Int) : ObserverCode Unit :=
  { order, onPhase := fun _ => .done, onFailure := fun _ _ => .done }

/-- An application with two observers of its own, one before and one behind the announcer, and an
initializer that fails. -/
def watched : Application Unit where
  layers := { files := [] }
  showBanner := false
  withDefaults := false
  initializers := [fun _ => .finish (.error (.text ""))]
  observers := [1, -1].map fun order =>
    { prepare := fun _ _ => .done, code := fun _ _ => some (watcher order) }

/-- The observers of this application in their order. -/
def watchers : List (Observer Unit) := [.own (watcher (-1)), .announcer ⟨0⟩, .own (watcher 1)]

theorem watched_opening : ∃ d m, watched.opening (Program.execute 2) [] { memory := () } =
    (.ok (d, watchers), m) ∧
    (endError? ((watched.attempt (Program.execute 2) watchers [] >>=
      conclude (Program.execute 2) watchers) m).1).isSome = true := by
  have sorted : ([.announcer ⟨0⟩, .own (watcher 1), .own (watcher (-1))] :
      List (Observer Unit)).mergeSort (fun o o' => o.order ≤ o'.order) = watchers := by
    simp [List.mergeSort, Observer.order, watcher, watchers]
  let m := (watched.opening (Program.execute 2) [] { memory := () }).2
  have opened : ∃ d, watched.opening (Program.execute 2) [] { memory := () } =
      (.ok (d, watchers), m) := by
    rw [← sorted]
    exact ⟨_, rfl⟩
  obtain ⟨d, hopening⟩ := opened
  exact ⟨d, m, hopening, by decide +kernel⟩

theorem run_goes_plan_watched : ∃ observers env c m legs e n w',
    Gone (watched.Does (Program.execute 2) observers [] env c) (watched.plan observers.length) m legs
      (.error e) n ∧
    observers.map Observer.order = [-1, 0, 1] ∧
    Fails (Program.execute 2) observers (madeBy c legs) ⟨n.store.fresh, e⟩ (Move.takeNumber.apply
      ((Move.record (.logged .error ("Application run failed: " ++ e.chainMessage))).apply n)) w' := by
  obtain ⟨_, m, opened, fails⟩ := watched_opening
  have run : watched.run (Program.execute 2) [] { memory := () } =
      (watched.attempt (Program.execute 2) watchers [] >>= conclude (Program.execute 2) watchers) m := by
    rw [run_eq_opening (.inl rfl)]
    show (watched.opening (Program.execute 2) [] >>= _ : Action Unit _) { memory := () } = _
    rw [Action.bind_apply, opened]
  rw [← run] at fails
  obtain ⟨error, w', failed⟩ := exists_of_endError fails
  obtain ⟨d, observers, m, hopening, -, env, c, legs, s, n, hgone, hend⟩ :=
    (run_goes_plan watched (Program.execute 2) [] rfl).1 failed
  rw [opened] at hopening
  obtain ⟨⟨-, rfl⟩, rfl⟩ := hopening
  rcases s with e | _
  · exact ⟨watchers, env, c, m, legs, e, n, w', hgone, rfl, hend.1⟩
  · cases hend.1

end Application

end Startup
