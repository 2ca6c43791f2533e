/-
The conduct of a run. What an application's run does, it does by moves of its own and by calling code
that the world or the application holds. Until its observers have been told of a failure it closes no
context and keeps no event of its own accord, and it announces the failure of none but its announcers.
-/
import Startup.Proofs.Interplay
import Startup.Proofs.Sequence

namespace Startup

variable {σ : Type}

/-! ## Moves and code of a run -/

/-- A program among the code of the world and of an application. -/
def World.Holds (w : World σ) (app : Application σ) (p : Program σ) : Prop :=
  ∀ code : Program σ → Prop, w.Obeys code → app.Obeys code → code p

theorem World.CalledOn.holds {w : World σ} {e : Event} {p : Program σ} (h : w.CalledOn e p)
    (app : Application σ) : w.Holds app p := by
  intro code obeys _
  cases h with
  | listener l => exact (obeys.listener l).onEvent e
  | handler n l fault => exact obeys.handler n l e fault
  | publish c => exact (obeys.host c).publish e
  | isolated c => exact (obeys.host c).isolated e

/-- An observer whose code is the application's. -/
def Observer.OfApplication (app : Application σ) (o : Observer σ) : Prop :=
  ∀ code : Program σ → Prop, app.Obeys code → o.Obeys code

/-- The moves that a run makes itself, where it may announce the failure of some announcers. -/
def Move.Abides (may : AnnouncerId → Prop) : Move σ → Prop
  | .enter a p => p = .failed → may a
  | .record e => e.IsPlain
  | .retain _ | .beginClosing _ => False
  | _ => True

namespace Application

/-- The terms on which an application is run until it closes its context. -/
def conduct (app : Application σ) (may : AnnouncerId → Prop) : Terms σ where
  own := Move.Abides may
  can w p := w.Holds app p
  unseen _ := False
  context _ h := h

variable {app : Application σ} {may : AnnouncerId → Prop} {call : Caller σ} {args : List String}
  {observers : List (Observer σ)}

theorem conduct_delivers (e : Event) : (app.conduct may).Delivers e where
  deliver _ := trivial
  record _ plain := plain
  setOutput _ _ := trivial
  setUpLog := trivial
  storeSettings _ _ := trivial
  called _ _ h := h.holds app

theorem conduct_announces (a : AnnouncerId) (what : Announcement) :
    (app.conduct may).Announces a what where
  enter h := absurd h what.phase_ne_failed
  delivers e _ := conduct_delivers e
  binds c _ :=
    ⟨fun _ => trivial, fun _ => trivial, fun _ => trivial,
      fun _ l _ obeys _ => (obeys.listener l).onBind c⟩
  seen _ h := h

theorem goes_record {e : Entry} (plain : e.IsPlain) : (app.conduct may).Goes call (record e) :=
  Terms.goes_one (.record e) _ plain fun _ => rfl

/-- Code of the application. -/
theorem goes_held {p : Program σ} (held : ∀ code, app.Obeys code → code p) :
    (app.conduct may).Goes call (call p) :=
  Terms.goes_call fun _ => ⟨p, fun code _ => held code, fun _ _ => rfl⟩

/-! ## Observers -/

theorem goes_newAnnouncer (d : Descriptor) (args : List String) :
    (app.conduct may).Goes call (newAnnouncer d args) := by
  refine Terms.goes_move fun w => ⟨.makeAnnouncer d args, .ok ⟨w.store.fresh⟩, trivial, ?_⟩
  rintro _ ⟨channels, rfl, -⟩
  rfl

theorem goes_make {factory : ObserverFactory σ} (added : factory ∈ app.observers) (d : Descriptor)
    (args : List String) : (app.conduct may).Goes call (factory.make call d args) := by
  refine Terms.goes_bind (goes_held fun _ obeys => obeys.prepare factory added d args) fun _ => ?_
  split
  · exact Terms.goes_pure _
  · exact Terms.goes_bind (goes_newAnnouncer d args) fun _ => Terms.goes_pure _

/-! ## Steps -/

theorem goes_perform {α : Type} (step : RunStep) {act : Action σ α}
    (h : (app.conduct may).Goes call act) : (app.conduct may).Goes call (perform step act) :=
  Terms.goes_bind (goes_record trivial) fun _ => h

theorem goes_performAll : ∀ tasks : List (Task σ), (∀ t ∈ tasks, (app.conduct may).Goes call t.2) →
    (app.conduct may).Goes call (performAll tasks)
  | [], _ => Terms.goes_pure _
  | (step, act) :: rest, h => by
    have hrest := goes_performAll rest fun t ht => h t (List.mem_cons_of_mem _ ht)
    unfold performAll
    refine Terms.goes_bind (goes_perform step (h _ (List.mem_cons_self ..))) ?_
    rintro (error | _)
    · exact Terms.goes_pure _
    · exact hrest

theorem goes_announcing (own : ∀ o ∈ observers, o.OfApplication app) (step : Nat → RunStep)
    (what : Announcement) :
    ∀ t ∈ announcing call step what observers, (app.conduct may).Goes call t.2 := by
  intro t ht
  obtain ⟨⟨o, i⟩, ho, rfl⟩ := List.mem_map.1 ht
  have held := own o (List.fst_mem_of_mem_zipIdx ho)
  cases o with
  | announcer a => exact Terms.goes_announce (conduct_announces a what)
  | own code =>
    refine Terms.goes_bind ?_ fun _ => Terms.goes_pure _
    exact goes_held fun code obeys => (held code obeys).onPhase what

theorem goes_calling (step : Nat → RunStep) {programs : List (Program σ)}
    (held : ∀ p ∈ programs, ∀ code, app.Obeys code → code p) :
    ∀ t ∈ calling call step programs, (app.conduct may).Goes call t.2 := by
  intro t ht
  obtain ⟨⟨p, i⟩, hp, rfl⟩ := List.mem_map.1 ht
  exact Terms.goes_bind (goes_held (held p (List.fst_mem_of_mem_zipIdx hp))) fun _ => Terms.goes_pure _

/-! ## Environment and context -/

theorem goes_load (disk : Disk) : ∀ (files : List (String × Int)) (env : Environment),
    (app.conduct may).Goes call (Layers.load disk files env : Action σ _)
  | [], _ => Terms.goes_pure _
  | (file, priority) :: rest, env => by
    unfold Layers.load
    split
    · split
      · exact Terms.goes_pure _
      · exact Terms.goes_bind (goes_record trivial) fun _ => goes_load disk rest _
    · exact goes_load disk rest env

theorem goes_prepare (layers : Layers) :
    (app.conduct may).Goes call (layers.prepare : Action σ _) := by
  have made (env : Environment) : (app.conduct may).Goes call (newEnvironment env) := by
    refine Terms.goes_move fun w => ⟨.makeEnvironment env, .ok ⟨w.store.fresh⟩, trivial, ?_⟩
    rintro _ ⟨channels, rfl, -⟩
    rfl
  unfold Layers.prepare
  refine Terms.goes_get_bind (fun w => Terms.goes_bind (goes_load _ _ _) ?_) fun _ _ => rfl
  rintro (error | env)
  · exact Terms.goes_pure _
  · refine Terms.goes_bind (goes_record trivial) fun _ => ?_
    exact Terms.goes_bind (made _) fun _ => Terms.goes_pure _

theorem goes_createContext (env : EnvironmentId) :
    (app.conduct may).Goes call (app.createContext env) := by
  have numbered : (app.conduct may).Goes call (newNumberedContext env) := by
    have taken : (app.conduct may).Goes call (do
        let n := (← getStore).sequence
        modifyStore fun s => { s with sequence := n + 1 }
        pure n : Action σ Nat) := by
      refine Terms.goes_move fun w => ⟨.takeSequence, .ok w.store.sequence, trivial, ?_⟩
      rintro _ ⟨channels, rfl, -⟩
      rfl
    have made (n : Nat) : (app.conduct may).Goes call
        (newContext { name := "application-" ++ Number.decimal n, environment := env }) := by
      refine Terms.goes_move fun w => ⟨.makeContext
        { name := "application-" ++ Number.decimal n, environment := env }, .ok ⟨w.store.fresh⟩,
        trivial, ?_⟩
      rintro _ ⟨channels, rfl, -⟩
      rfl
    have both := Terms.goes_bind taken made
    rw [bind_assoc] at both
    exact both
  unfold createContext
  dsimp only
  split
  · refine Terms.goes_bind (Terms.goes_one (.print banner) _ trivial fun _ => rfl) fun _ => ?_
    exact goes_perform _ numbered
  · exact goes_perform _ numbered

/-! ## The refresh -/

theorem goes_runCallbacks (turn : Nat) (c : ContextId) :
    ∀ callbacks : List CallbackId, (app.conduct may).Goes call (runCallbacks call turn c callbacks)
  | [] => Terms.goes_pure _
  | callback :: rest => by
    have called : (app.conduct may).Goes call (callBack call turn c callback) := by
      refine Terms.goes_bind (Terms.goes_one (.call turn c callback) _ trivial fun _ => rfl) fun _ => ?_
      refine Terms.goes_call fun w => ⟨_, fun _ obeys _ => obeys.callback callback, ?_⟩
      rintro _ ⟨channels, rfl, -⟩
      rfl
    refine Terms.goes_bind called ?_
    rintro (fault | _)
    · exact Terms.goes_pure _
    · exact goes_runCallbacks turn c rest

theorem goes_refresh (c : ContextId) : (app.conduct may).Goes call (Startup.refresh call c) := by
  have begun : (app.conduct may).Goes call (beginRefresh c) := by
    refine Terms.goes_move fun w => ⟨.beginRefresh c, .ok w.store.fresh, trivial, ?_⟩
    rintro _ ⟨channels, rfl, -⟩
    rfl
  have ended (turn : Nat) (callbacks : List CallbackId) (result : Except Fault Unit) :
      (app.conduct may).Goes call (endRefresh turn c callbacks result) := by
    rcases result with fault | _
    · exact Terms.goes_one (.restore turn c callbacks) _ trivial (endRefresh_apply turn c callbacks _)
    · exact Terms.goes_one (.activate turn c callbacks) _ trivial (endRefresh_apply turn c callbacks _)
  refine Terms.goes_getStore_bind (fun s => ?_) fun _ _ _ => rfl
  dsimp only
  split
  · exact Terms.goes_pure _
  split
  · exact Terms.goes_pure _
  refine Terms.goes_bind (goes_record trivial) fun _ => Terms.goes_bind begun fun turn => ?_
  exact Terms.goes_bind (goes_runCallbacks turn c _) fun result => ended turn _ result

/-! ## The attempt -/

theorem goes_tasks (own : ∀ o ∈ observers, o.OfApplication app) (c : ContextId) :
    ∀ t ∈ app.tasks call observers args c, (app.conduct may).Goes call t.2 := by
  intro t ht
  simp only [tasks, List.mem_append, List.mem_singleton] at ht
  rcases ht with (((((ht | ht) | ht) | rfl) | ht) | ht) | ht
  · exact goes_calling _ (by simpa using fun p hp code obeys => obeys.initializer p hp c) t ht
  · exact goes_announcing own _ _ t ht
  · exact goes_announcing own _ _ t ht
  · exact goes_refresh c
  · exact goes_announcing own _ _ t ht
  · exact goes_calling _ (by simpa using fun p hp code obeys => obeys.runner p hp c args) t ht
  · exact goes_announcing own _ _ t ht

theorem goes_attempt (own : ∀ o ∈ observers, o.OfApplication app) :
    (app.conduct may).Goes call (app.attempt call observers args) := by
  have early : (app.conduct may).Goes call (app.environment call observers) := by
    unfold environment
    refine Terms.goes_bind (goes_performAll _ (goes_announcing own _ _)) ?_
    rintro (error | _)
    · exact Terms.goes_pure _
    refine Terms.goes_bind (goes_perform _ (goes_prepare _)) ?_
    rintro (error | env)
    · exact Terms.goes_pure _
    refine Terms.goes_bind (goes_performAll _ (goes_announcing own _ _)) ?_
    rintro (error | _) <;> exact Terms.goes_pure _
  unfold attempt
  refine Terms.goes_bind early ?_
  rintro (error | env)
  · exact Terms.goes_pure _
  refine Terms.goes_bind (goes_createContext env) fun c => ?_
  refine Terms.goes_bind (goes_performAll _ (goes_tasks own c)) ?_
  rintro (error | _) <;> exact Terms.goes_pure _

/-! ## Telling of a failure -/

theorem goes_announceFailure {a : AnnouncerId} (ha : may a) (c : Option ContextId) (cause : Cause) :
    (app.conduct may).Goes call (announceFailure call a c cause) := by
  have adopted (ch : ChannelId) : (app.conduct may).Goes call (adoptListeners ch c) := by
    rcases c with _ | c
    · exact Terms.goes_pure _
    refine Terms.goes_getStore_bind (fun s => ?_) fun s channels same => ?_
    · -- who joins is settled before the first of them does
      dsimp only
      generalize List.filter _ _ = ls
      induction ls with
      | nil => exact Terms.goes_pure _
      | cons l rest ih =>
        exact Terms.goes_bind (Terms.goes_one (.register ch l) _ trivial fun _ => rfl) fun _ => ih
    · have channel (d : ChannelId) : ({ s with channels } : Store).channel d = s.channel d :=
        same d fun h => h
      simp only [Store.listenersOf, channel]
  have delivered (ch : ChannelId) (e : Event) :
      (app.conduct may).Goes call (deliverFailure call ch c e) := by
    refine Terms.goes_getStore_bind (fun s => ?_) fun _ _ _ => rfl
    split
    · exact Terms.goes_publishIsolated (conduct_delivers e) _
    · refine Terms.goes_bind (adopted ch) fun _ => Terms.goes_bind ?_ fun _ => ?_
      · exact Terms.goes_one (.setPolicy ch .logging) _ trivial fun _ => rfl
      · exact Terms.goes_multicast (conduct_delivers e) fun h => h
  have reported (ch : ChannelId) (e : Event) :
      (app.conduct may).Goes call (reportFailure call ch c e) := by
    refine Terms.goes_bind (delivered ch e) ?_
    rintro (error | _)
    · exact goes_record trivial
    · exact Terms.goes_pure _
  refine Terms.goes_getStore_bind (fun s => ?_) fun _ _ _ => rfl
  dsimp only
  split
  · exact goes_record trivial
  · refine Terms.goes_bind ?_ fun _ => reported _ _
    exact Terms.goes_one (.enter a .failed) _ (fun _ => ha) fun _ => rfl

/-- Whoever is told of a failure, the run announces the failure of no announcer but those told. -/
theorem course_amid {c : Option ContextId} {cause : Cause} {w w' : World σ}
    {legs : List (Leg σ (Observer σ × Nat) Unit)} (course : Course (Tells call c cause) w legs w')
    (own : ∀ leg ∈ legs, leg.what.1.OfApplication app)
    (told : ∀ leg ∈ legs, ∀ a, leg.what.1 = .announcer a → may a) :
    ∃ calls, Amid call (Move.Abides may) (·.Holds app) w calls w' := by
  induction legs generalizing w with
  | nil =>
    obtain rfl := course
    exact ⟨[], .refl w'⟩
  | cons leg rest ih =>
    obtain ⟨rfl, htells, hrest⟩ := course
    obtain ⟨more, hmore⟩ := ih hrest (fun leg hleg => own leg (List.mem_cons_of_mem _ hleg))
      fun leg hleg => told leg (List.mem_cons_of_mem _ hleg)
    have observer : (app.conduct may).Goes call (leg.what.1.announceFailure call c cause) := by
      have held := own leg (List.mem_cons_self ..)
      have announced := told leg (List.mem_cons_self ..)
      generalize leg.what.1 = o at held announced
      cases o with
      | announcer a => exact goes_announceFailure (announced a rfl) c cause
      | own o =>
        refine Terms.goes_bind ?_ fun _ => Terms.goes_pure _
        exact goes_held fun code obeys => (held code obeys).onFailure c cause
    have place : (app.conduct may).Goes call (do
        record (.reported leg.what.2 c cause)
        leg.what.1.announceFailure call c cause) :=
      Terms.goes_bind (goes_record trivial) fun _ => observer
    obtain ⟨calls, amid, -⟩ := place leg.start
    rw [htells] at amid
    exact ⟨calls ++ more, amid.trans hmore⟩

end Application

end Startup
