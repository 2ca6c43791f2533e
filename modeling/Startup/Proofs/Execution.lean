/-
Every run of a program, and of an application, keeps every discipline that its code belongs to; so
every world that can be reached is at the end of a path.
-/
import Startup.Proofs.Operations

namespace Startup

variable {σ : Type}

namespace Discipline

variable {D : Discipline σ}

/-! ## Programs -/

section Programs

variable {call : Caller σ} (hcall : ∀ p, D.code p → D.Keeps (call p))

include hcall

/-- The first operation keeps the discipline, and then the rest of the program does. -/
theorem keeps_run (p : Program σ) (hp : D.code p) : D.Keeps (p.run call) := by
  induction p with
  | finish result => exact keeps_pure result
  | panic payload => exact keeps_throw _
  | observe next ih => exact fun w hw => ih _ _ (D.admitted _ hp _ _) w hw
  | remember memory next ih =>
    refine keeps_bind ?_ fun _ => ih (D.admitted _ hp)
    exact keeps_common fun _ => ⟨.remember memory, _, rfl, trivial, trivial, trivial, rfl⟩
  | note text next ih => exact keeps_bind (keeps_record trivial) fun _ => ih (D.admitted _ hp)
  | retain e next ih =>
    refine keeps_bind ?_ fun _ => ih (D.admitted _ hp)
    exact keeps_common fun _ => ⟨.retain e, _, rfl, trivial, trivial, trivial, rfl⟩
  | newEnvironment env next ih =>
    exact keeps_bind (keeps_newEnvironment env) fun e => ih e (D.admitted _ hp e)
  | addSource e s next ih =>
    exact keeps_bind (keeps_modifyEnvironment e _) fun _ => ih (D.admitted _ hp)
  | setProfiles e profiles next ih =>
    exact keeps_bind (keeps_modifyEnvironment e _) fun _ => ih (D.admitted _ hp)
  | newOutput next ih => exact keeps_bind keeps_newOutput fun o => ih o (D.admitted _ hp o)
  | newListener l onEvent onBind next =>
    rename_i ih
    obtain ⟨hevent, hbind, hnext⟩ := D.admitted _ hp
    exact keeps_bind (keeps_newListener l ⟨hevent, hbind⟩) fun l => ih l (hnext l)
  | loadListeners next ih => exact keeps_bind keeps_loadListeners fun ls => ih ls (D.admitted _ hp ls)
  | invoke l e next ih =>
    obtain ⟨hdeliver, hnext⟩ := D.admitted _ hp
    exact keeps_bind (keeps_handleEvent hcall hdeliver) fun r => ih r (hnext r)
  | newChannel next ih => exact keeps_bind keeps_freshNumber fun n => ih _ (D.admitted _ hp _)
  | register ch l next ih =>
    obtain ⟨hregister, hnext⟩ := D.admitted _ hp
    exact keeps_bind (keeps_register hregister) fun _ => ih hnext
  | removeListeners ch next ih =>
    obtain ⟨hclear, hnext⟩ := D.admitted _ hp
    refine keeps_bind ?_ fun _ => ih hnext
    exact keeps_move fun _ => ⟨.clear ch, _, rfl, trivial, hclear, rfl⟩
  | setHandler ch handler next =>
    rename_i ih
    obtain ⟨hcode, hpolicy, hnext⟩ := D.admitted _ hp
    exact keeps_bind (keeps_setHandler hcode hpolicy) fun _ => ih hnext
  | logFailures ch next ih =>
    obtain ⟨hpolicy, hnext⟩ := D.admitted _ hp
    exact keeps_bind (keeps_setPolicy hpolicy) fun _ => ih hnext
  | removeHandler ch next ih =>
    obtain ⟨hpolicy, hnext⟩ := D.admitted _ hp
    exact keeps_bind (keeps_setPolicy hpolicy) fun _ => ih hnext
  | multicast ch e next ih =>
    obtain ⟨hdeliver, hnext⟩ := D.admitted _ hp
    exact keeps_bind (keeps_multicast hcall hdeliver) fun r => ih r (hnext r)
  | newContext name e next ih =>
    exact keeps_bind (keeps_newContext ⟨rfl, rfl, rfl⟩) fun c => ih c (D.admitted _ hp c)
  | newNumberedContext e next ih =>
    exact keeps_bind (keeps_newNumberedContext e) fun c => ih c (D.admitted _ hp c)
  | newHostedContext name e active onPublish onIsolated next =>
    rename_i ih
    obtain ⟨hpublish, hisolated, hnext⟩ := D.admitted _ hp
    refine keeps_bind (keeps_newContext ⟨rfl, rfl, rfl⟩) fun c => keeps_bind ?_ fun _ => ih c (hnext c)
    exact keeps_common fun _ =>
      ⟨.host c ⟨onPublish, onIsolated⟩, _, rfl, trivial, trivial, ⟨hpublish, hisolated⟩, rfl⟩
  | addListener c l next ih => exact keeps_bind (keeps_addListener c l) fun _ => ih (D.admitted _ hp)
  | onRefresh c callback next =>
    rename_i ih
    obtain ⟨hcode, hnext⟩ := D.admitted _ hp
    exact keeps_bind (keeps_onRefresh c hcode) fun _ => ih hnext
  | onClose c hook next =>
    rename_i ih
    obtain ⟨hcode, hnext⟩ := D.admitted _ hp
    exact keeps_bind (keeps_onClose c hcode) fun _ => ih hnext
  | refresh c next ih => exact keeps_bind (keeps_refresh hcall c) fun r => ih r (D.admitted _ hp r)
  | close c next ih => exact keeps_bind (keeps_close hcall c) fun _ => ih (D.admitted _ hp)
  | publish c e next ih =>
    obtain ⟨hdeliver, hnext⟩ := D.admitted _ hp
    exact keeps_bind (keeps_publish hcall hdeliver) fun r => ih r (hnext r)
  | publishIsolated c e next ih =>
    obtain ⟨hdeliver, hnext⟩ := D.admitted _ hp
    exact keeps_bind (keeps_publishIsolated hcall hdeliver) fun r => ih r (hnext r)
  | newAnnouncer app args next ih =>
    exact keeps_bind (keeps_newAnnouncer app args) fun a => ih a (D.admitted _ hp a)
  | announce a what next ih =>
    obtain ⟨hannounce, hnext⟩ := D.admitted _ hp
    exact keeps_bind (keeps_announce hcall hannounce) fun r => ih r (hnext r)
  | announceFailure a c error next ih =>
    obtain ⟨henter, hreport, hnext⟩ := D.admitted _ hp
    refine keeps_bind (keeps_newCause error) fun cause => ?_
    exact keeps_bind (keeps_announceFailure hcall (henter a) hreport) fun _ => ih hnext
  | reportFailure ch c e next ih =>
    obtain ⟨hdeliver, hregister, hpolicy, hnext⟩ := D.admitted _ hp
    exact keeps_bind (keeps_reportFailure hcall c hdeliver hregister hpolicy) fun _ => ih hnext

end Programs

/-- However deep calls may be nested. -/
theorem keeps_execute (depth : Nat) :
    ∀ p : Program σ, D.code p → D.Keeps (Program.execute depth p) := by
  induction depth with
  | zero => exact fun p _ => keeps_throw _
  | succ depth ih => exact fun p hp => keeps_run ih p hp

/-- Whatever the program is, it goes by moves. -/
theorem execute_free (depth : Nat) (p : Program σ) (_ : Discipline.free.code p) :
    Discipline.free.Keeps (Program.execute depth p) :=
  keeps_execute depth p trivial

end Discipline

/-! ## Applications -/

/-- All code of an observer is of the given kind. -/
structure ObserverCode.Obeys (code : Program σ → Prop) (o : ObserverCode σ) : Prop where
  onPhase : ∀ what, code (o.onPhase what)
  onFailure : ∀ c cause, code (o.onFailure c cause)

def Observer.Obeys (code : Program σ → Prop) : Observer σ → Prop
  | .announcer _ => True
  | .own o => o.Obeys code

theorem Observer.obeys_announcer {code : Program σ → Prop} (a : AnnouncerId) :
    ∀ o ∈ [Observer.announcer a], o.Obeys code := by
  intro o ho
  rw [List.mem_singleton.1 ho]
  trivial

structure Application.Obeys (code : Program σ → Prop) (app : Application σ) : Prop where
  initializer : ∀ p ∈ app.initializers, ∀ c, code (p c)
  runner : ∀ p ∈ app.runners, ∀ c args, code (p c args)
  prepare : ∀ f ∈ app.observers, ∀ d args, code (f.prepare d args)
  observer : ∀ f ∈ app.observers, ∀ d args, ∀ o ∈ f.code d args, o.Obeys code

/-- An observer as its factory makes it. -/
def ObserverFactory.make (call : Caller σ) (d : Descriptor) (args : List String)
    (factory : ObserverFactory σ) : Action σ (Observer σ) := do
  let _ ← call (factory.prepare d args)
  match factory.code d args with
  | some code => pure (.own code)
  | none => return .announcer (← newAnnouncer d args)

/-- The code of an observer is of the kind that its factory gives. -/
theorem Application.Obeys.of_make {code : Program σ → Prop} {app : Application σ}
    (happ : app.Obeys code) {factory : ObserverFactory σ} (added : factory ∈ app.observers)
    {call : Caller σ} {d : Descriptor} {args : List String} {o : Observer σ} {w w' : World σ}
    (h : factory.make call d args w = (.ok o, w')) : o.Obeys code := by
  obtain ⟨_, m, -, h⟩ := Action.bind_eq_ok.1 h
  rcases hcode : factory.code d args with _ | own <;> rw [hcode] at h
  · obtain ⟨a, m', -, h⟩ := Action.bind_eq_ok.1 h
    obtain ⟨rfl, -⟩ := Action.pure_eq_ok.1 h
    trivial
  · obtain ⟨rfl, -⟩ := Action.pure_eq_ok.1 h
    exact happ.observer factory added d args own hcode

theorem Application.makeObservers_eq (app : Application σ) (call : Caller σ) (d : Descriptor)
    (args : List String) :
    app.makeObservers call d args = newAnnouncer d args >>= fun a =>
      app.observers.mapM (·.make call d args) >>= fun others =>
        pure ((Observer.announcer a :: others).mergeSort fun o o' => o.order ≤ o'.order) :=
  rfl

/-- The world in which an application has seen to the log. -/
def Application.logged (app : Application σ) (w : World σ) : World σ :=
  if app.logging.isSome then Move.setUpLog.apply w else w

theorem Application.readyLog_apply (app : Application σ) (w : World σ) :
    app.readyLog w = (.ok ((app.logging.map (·.init w.logRefusal)).getD (.ok ())), app.logged w) := by
  unfold readyLog logged
  cases app.logging <;> rfl

theorem Application.logged_of_none {app : Application σ} (unlogged : app.logging = none) (w : World σ) :
    app.logged w = w := by
  rw [logged, unlogged]
  rfl

@[simp] theorem Application.store_logged (app : Application σ) (w : World σ) :
    (app.logged w).store = w.store := by
  unfold logged
  split <;> rfl

theorem World.Obeys.logged {code : Program σ → Prop} {w : World σ} (h : w.Obeys code)
    (app : Application σ) : (app.logged w).Obeys code := by
  unfold Application.logged
  split
  · exact h.apply trivial
  · exact h

namespace Discipline

variable {D : Discipline σ} {call : Caller σ} {app : Application σ} {observers : List (Observer σ)}

section Steps

variable (hcall : ∀ p, D.code p → D.Keeps (call p)) (hobservers : ∀ o ∈ observers, o.Obeys D.code)

theorem keeps_perform {α : Type} (step : RunStep) {act : Action σ α} (h : D.Keeps act) :
    D.Keeps (Application.perform step act) :=
  keeps_bind (keeps_record trivial) fun _ => h

theorem keeps_performAll :
    ∀ tasks : List (Application.Task σ), (∀ t ∈ tasks, D.Keeps t.2) →
      D.Keeps (Application.performAll tasks)
  | [], _ => keeps_pure _
  | (step, act) :: rest, h => by
    have hrest := keeps_performAll rest fun t ht => h t (List.mem_cons_of_mem _ ht)
    unfold Application.performAll
    refine keeps_bind (keeps_perform step (h _ (List.mem_cons_self ..))) ?_
    rintro (error | _)
    · exact keeps_pure _
    · exact hrest

include hcall hobservers in
theorem keeps_announcing (step : Nat → RunStep) {what : Announcement}
    (h : AllowsAnnouncing D.allowed what.phase) :
    ∀ t ∈ Application.announcing call step what observers, D.Keeps t.2 := by
  intro t ht
  obtain ⟨⟨o, i⟩, ho, rfl⟩ := List.mem_map.1 ht
  have hobeys := hobservers o (List.fst_mem_of_mem_zipIdx ho)
  cases o with
  | announcer a => exact keeps_announce hcall h
  | own code => exact keeps_bind (hcall _ (hobeys.onPhase what)) fun _ => keeps_pure _

include hcall in
theorem keeps_calling (step : Nat → RunStep) {programs : List (Program σ)}
    (h : ∀ p ∈ programs, D.code p) : ∀ t ∈ Application.calling call step programs, D.Keeps t.2 := by
  intro t ht
  obtain ⟨⟨p, i⟩, hp, rfl⟩ := List.mem_map.1 ht
  exact keeps_bind (hcall _ (h p (List.fst_mem_of_mem_zipIdx hp))) fun _ => keeps_pure _

theorem keeps_load (disk : Disk) :
    ∀ (files : List (String × Int)) (env : Environment),
      D.Keeps (Layers.load disk files env : Action σ _)
  | [], _ => keeps_pure _
  | (file, priority) :: rest, env => by
    unfold Layers.load
    split
    · split
      · exact keeps_pure _
      · exact keeps_bind (keeps_log _ _) fun _ => keeps_load disk rest _
    · exact keeps_load disk rest env

theorem keeps_prepare (layers : Layers) : D.Keeps (layers.prepare : Action σ _) := by
  unfold Layers.prepare
  refine keeps_get_bind fun w _ => keeps_bind (keeps_load _ _ _) ?_
  rintro (error | env)
  · exact keeps_pure _
  · exact keeps_bind (keeps_log _ _) fun _ => keeps_bind (keeps_newEnvironment _) fun _ => keeps_pure _

theorem keeps_createContext (env : EnvironmentId) : D.Keeps (app.createContext env) := by
  unfold Application.createContext
  have hcontext := keeps_perform (D := D) .createContext (keeps_newNumberedContext env)
  dsimp only
  split
  · exact keeps_bind (keeps_print _) fun _ => hcontext
  · exact hcontext

theorem keeps_readyLog : D.Keeps app.readyLog := by
  unfold Application.readyLog
  split
  · exact keeps_pure _
  · exact keeps_setUpLog _

theorem keeps_describe : D.Keeps app.describe := by
  unfold Application.describe
  dsimp only
  split
  · exact keeps_bind keeps_loadListeners fun _ => keeps_pure _
  · exact keeps_bind (keeps_pure _) fun _ => keeps_pure _

include hcall hobservers in
theorem keeps_environment (hstarting : AllowsAnnouncing D.allowed .starting)
    (hprepared : AllowsAnnouncing D.allowed .environmentPrepared) :
    D.Keeps (app.environment call observers) := by
  unfold Application.environment
  have hannounced : ∀ t ∈ Application.announcing call .starting .starting observers, D.Keeps t.2 :=
    keeps_announcing hcall hobservers _ hstarting
  refine keeps_bind (keeps_performAll _ hannounced) ?_
  rintro (error | _)
  · exact keeps_pure _
  refine keeps_bind (keeps_perform _ (keeps_prepare _)) ?_
  rintro (error | env)
  · exact keeps_pure _
  have htold : ∀ t ∈ Application.announcing call .environmentPrepared (.environmentPrepared env)
      observers, D.Keeps t.2 :=
    keeps_announcing hcall hobservers _ hprepared
  refine keeps_bind (keeps_performAll _ htold) ?_
  rintro (error | _) <;> exact keeps_pure _

section Attempts

variable (happ : app.Obeys D.code)
  (hannounce : ∀ what : Announcement, AllowsAnnouncing D.allowed what.phase)

include hcall hobservers happ hannounce

theorem keeps_tasks (args : List String) (c : ContextId) :
    ∀ t ∈ app.tasks call observers args c, D.Keeps t.2 := by
  intro t ht
  simp only [Application.tasks, List.mem_append, List.mem_singleton] at ht
  have hinitializers : ∀ p ∈ app.initializers.map (· c), D.code p := by
    simpa using fun p hp => happ.initializer p hp c
  have hrunners : ∀ p ∈ app.runners.map (· c args), D.code p := by
    simpa using fun p hp => happ.runner p hp c args
  rcases ht with (((((ht | ht) | ht) | rfl) | ht) | ht) | ht
  · exact keeps_calling hcall _ hinitializers t ht
  · exact keeps_announcing hcall hobservers _ (hannounce _) t ht
  · exact keeps_announcing hcall hobservers _ (hannounce _) t ht
  · exact keeps_refresh hcall c
  · exact keeps_announcing hcall hobservers _ (hannounce _) t ht
  · exact keeps_calling hcall _ hrunners t ht
  · exact keeps_announcing hcall hobservers _ (hannounce _) t ht

theorem keeps_attempt (args : List String) : D.Keeps (app.attempt call observers args) := by
  unfold Application.attempt
  refine keeps_bind (keeps_environment hcall hobservers (hannounce .starting)
    (hannounce (.environmentPrepared ⟨0⟩))) ?_
  rintro (error | env)
  · exact keeps_pure _
  refine keeps_bind (keeps_createContext env) fun c => ?_
  refine keeps_bind (keeps_performAll _ (keeps_tasks hcall hobservers happ hannounce args c)) ?_
  rintro (error | _) <;> exact keeps_pure _

end Attempts

section Failures

variable (henter : ∀ a, D.allowed (.enter a .failed))
  (hreport : ∀ e, e.phase = .failed → AllowsReporting D.allowed e)

include hcall henter hreport

theorem keeps_reportAll (c : Option ContextId) (cause : Cause) :
    ∀ observers : List (Observer σ × Nat), (∀ o ∈ observers, o.1.Obeys D.code) →
      D.Keeps (Application.reportAll call c cause observers)
  | [], _ => keeps_pure _
  | (o, i) :: rest, h => by
    have hrest := keeps_reportAll c cause rest fun o ho => h o (List.mem_cons_of_mem _ ho)
    have hobeys : o.Obeys D.code := h _ (List.mem_cons_self ..)
    unfold Application.reportAll
    refine keeps_bind (keeps_record trivial) fun _ => keeps_bind ?_ fun _ => hrest
    cases o with
    | announcer a => exact keeps_announceFailure hcall (henter a) hreport
    | own code => exact keeps_bind (hcall _ (hobeys.onFailure c cause)) fun _ => keeps_pure _

include hobservers in
theorem keeps_fail (c : Option ContextId) (error : StartupError) :
    D.Keeps (Application.fail call observers c error) := by
  unfold Application.fail
  refine keeps_bind (keeps_log _ _) fun _ => keeps_bind (keeps_newCause error) fun cause => ?_
  have hall := keeps_reportAll hcall henter hreport c cause observers.zipIdx fun o ho =>
    hobservers _ (List.fst_mem_of_mem_zipIdx ho)
  refine keeps_bind hall fun _ => ?_
  have hend : D.Keeps (return Application.outcome (← getStore) cause : Action σ StartupError) :=
    keeps_getStore_bind fun _ => keeps_pure _
  cases c with
  | none => exact hend
  | some c => exact keeps_bind (keeps_close hcall c) fun _ => hend

end Failures

end Steps

theorem obeys_free_observer (o : Observer σ) : o.Obeys Discipline.free.code := by
  cases o with
  | announcer a => trivial
  | own code => exact ⟨fun _ => trivial, fun _ _ => trivial⟩

theorem obeys_free_application (app : Application σ) : app.Obeys Discipline.free.code :=
  ⟨fun _ _ _ => trivial, fun _ _ _ _ => trivial, fun _ _ _ _ => trivial,
    fun _ _ _ _ _ _ => ⟨fun _ => trivial, fun _ _ => trivial⟩⟩

/-- A run of an application needs these moves, whatever its code is. -/
structure AllowsRuns (D : Discipline σ) : Prop where
  announcing : ∀ p, AllowsAnnouncing D.allowed p
  failing : ∀ a, D.allowed (.enter a .failed)
  reporting : ∀ e, e.phase = .failed → AllowsReporting D.allowed e

theorem allowsRuns_free : AllowsRuns (Discipline.free (σ := σ)) where
  announcing := allowsAnnouncing_free
  failing _ := trivial
  reporting e _ := allowsReporting_free e

section Whole

variable {call : Caller σ} (hcall : ∀ p, D.code p → D.Keeps (call p))

include hcall

theorem keeps_make (d : Descriptor) (args : List String) (factory : ObserverFactory σ)
    (hprepare : D.code (factory.prepare d args)) : D.Keeps (factory.make call d args) := by
  refine keeps_bind (hcall _ hprepare) fun _ => ?_
  split
  · exact keeps_pure _
  · exact keeps_bind (keeps_newAnnouncer _ _) fun _ => keeps_pure _

/-- What goes on with the observers of a run is given code of the right kind. -/
theorem keeps_makeObservers_bind {α : Type} {next : List (Observer σ) → Action σ α}
    (happ : app.Obeys D.code) (d : Descriptor) (args : List String)
    (hnext : ∀ observers : List (Observer σ), (∀ o ∈ observers, o.Obeys D.code) → D.Keeps (next observers)) :
    D.Keeps (app.makeObservers call d args >>= next) := by
  have hmake : D.Keeps (app.observers.mapM (·.make call d args)) :=
    keeps_mapM _ fun factory added => keeps_make hcall d args factory (happ.prepare factory added d args)
  refine keeps_bind_of (P := fun observers => ∀ o ∈ observers, o.Obeys D.code) ?_ ?_ hnext
  · rw [Application.makeObservers_eq]
    exact keeps_bind (keeps_newAnnouncer _ _) fun _ => keeps_bind hmake fun _ => keeps_pure _
  · intro w observers m h
    obtain ⟨a, m₁, -, h⟩ := Action.bind_eq_ok.1 h
    obtain ⟨others, m₂, hothers, h⟩ := Action.bind_eq_ok.1 h
    obtain ⟨rfl, -⟩ := Action.pure_eq_ok.1 h
    have made : ∀ o ∈ others, o.Obeys D.code :=
      Action.of_mem_mapM (fun factory added _ o _ h => happ.of_make added h) hothers
    intro o ho
    rcases List.mem_cons.1 ((List.mergeSort_perm _ _).mem_iff.1 ho) with rfl | ho
    · trivial
    · exact made o ho

/-- A whole run of an application whose code is of the right kind. -/
theorem keeps_runApplication (allows : D.AllowsRuns) (happ : app.Obeys D.code) (args : List String) :
    D.Keeps (app.run call args) := by
  unfold Application.run
  refine keeps_bind keeps_readyLog ?_
  rintro (error | _)
  · exact keeps_pure _
  unfold Application.opening
  simp only [bind_assoc, pure_bind]
  refine keeps_bind keeps_describe fun descriptor => ?_
  refine keeps_makeObservers_bind hcall happ descriptor args fun observers hobservers => ?_
  refine keeps_bind (keeps_log _ _) fun _ => keeps_bind ?_ ?_
  · exact keeps_attempt hcall hobservers happ (fun what => allows.announcing what.phase) args
  · rintro (⟨c, error⟩ | c)
    · exact keeps_bind (keeps_fail hcall hobservers allows.failing allows.reporting c error) fun _ =>
        keeps_pure _
    · exact keeps_pure _

end Whole

end Discipline

/-! ## Reachable worlds -/

/-- The worlds that programs and applications run one after the other lead to, each to the end or to
where a panic or too deep a call stopped it. -/
inductive Reaches (w₀ : World σ) : World σ → Prop where
  | start : Reaches w₀ w₀
  | program {w : World σ} (reached : Reaches w₀ w) (depth : Nat) (p : Program σ) :
      Reaches w₀ (Program.execute depth p w).2
  | application {w : World σ} (reached : Reaches w₀ w) (depth : Nat) (app : Application σ)
      (args : List String) : Reaches w₀ (app.run (Program.execute depth) args w).2

/-- Whatever is reached, is reached by moves. -/
theorem Reaches.path {w₀ w : World σ} (h : Reaches w₀ w) :
    Path Discipline.free.allowed w₀.store.fresh w₀ w := by
  have go {w w' : World σ} (path : Path Discipline.free.allowed w₀.store.fresh w₀ w)
      (next : Path Discipline.free.allowed w.store.fresh w w') :
      Path Discipline.free.allowed w₀.store.fresh w₀ w' :=
    path.trans (next.weaken (fun _ h => h) path.fresh_le)
  induction h with
  | start => exact .refl w₀
  | @program w _ depth p ih =>
    exact go ih (Discipline.execute_free depth p trivial w (Discipline.obeys_free w))
  | @application w _ depth app args ih =>
    have ran := Discipline.keeps_runApplication (Discipline.execute_free depth)
      Discipline.allowsRuns_free (Discipline.obeys_free_application app) args
    exact go ih (ran w (Discipline.obeys_free w))

/-- A world that comes about while code runs, from one in which nothing had been made. -/
def World.Arises (w : World σ) : Prop :=
  ∃ w₀ : World σ, w₀.store = {} ∧ Path Discipline.free.allowed 0 w₀ w

theorem World.Arises.onward {first : Nat} {w w' : World σ} (h : w.Arises)
    (path : Path Discipline.free.allowed first w w') : w'.Arises := by
  obtain ⟨w₀, new, arising⟩ := h
  exact ⟨w₀, new, arising.trans (path.weaken (fun _ h => h) (Nat.zero_le _))⟩

/-- What programs and applications lead to comes about while they run. -/
theorem Reaches.arises {w₀ w : World σ} (h : Reaches w₀ w) (new : w₀.store = {}) : w.Arises :=
  ⟨w₀, new, h.path.weaken (fun _ h => h) (Nat.zero_le _)⟩

end Startup
