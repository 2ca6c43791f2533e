/-
Failed runs. A run that made its observers and then ends with an error has told every listener of
the application of the failure exactly once, unless the context was already active when the run
failed and had not been given the listener yet.
-/
import Startup.Proofs.FailureDelivery

namespace Startup

variable {σ : Type}

/-! ## The beginning of a run -/

theorem newListener_apply (l : Listener) (code : ListenerCode σ) (w : World σ) :
    newListener l code w = (.ok ⟨w.store.fresh⟩, (Move.makeListener l code).apply w) :=
  rfl

/-- Listeners made one after the other are all new and all different. -/
theorem mapM_newListener (ds : List (DefaultListener σ)) :
    ∀ w : World σ, ∃ ls w', ds.mapM (fun d => newListener d.listener d.code) w = (.ok ls, w') ∧
      ls.Nodup ∧ w.store.fresh ≤ w'.store.fresh ∧
      ∀ l ∈ ls, w.store.fresh ≤ l.number ∧ l.number < w'.store.fresh := by
  induction ds with
  | nil => exact fun w => ⟨[], w, rfl, List.nodup_nil, Nat.le_refl _, by simp⟩
  | cons d rest ih =>
    intro w
    obtain ⟨ls, w', hrest, distinct, le, numbered⟩ := ih ((Move.makeListener d.listener d.code).apply w)
    have next : ((Move.makeListener d.listener d.code).apply w).store.fresh = w.store.fresh + 1 := by
      simp [Move.numbers]
    rw [next] at le numbered
    refine ⟨⟨w.store.fresh⟩ :: ls, w', ?_, ?_, by omega, ?_⟩
    · rw [List.mapM_cons, Action.bind_apply, newListener_apply]
      dsimp only
      rw [Action.bind_apply, hrest]
      rfl
    · refine List.nodup_cons.2 ⟨fun hmem => ?_, distinct⟩
      exact absurd (numbered _ hmem).1 (Nat.not_succ_le_self _)
    · intro l hl
      rcases List.mem_cons.1 hl with rfl | hl
      · exact ⟨Nat.le_refl _, by simp only; omega⟩
      · have := numbered l hl
        omega

namespace Application

variable {app : Application σ}

/-- The listeners of an application are its own and new ones. -/
theorem describe_apply (w : World σ) (distinct : app.listeners.Nodup)
    (made : ∀ l ∈ app.listeners, l.number < w.store.fresh) :
    ∃ d w', app.describe w = (.ok d, w') ∧ (∀ l ∈ app.listeners, l ∈ d.listeners) ∧
      d.listeners.Nodup ∧ w.store.fresh ≤ w'.store.fresh ∧
      ∀ l ∈ d.listeners, l.number < w'.store.fresh := by
  by_cases defaults : app.withDefaults = true
  · obtain ⟨ls, w', hload, new, le, numbered⟩ := mapM_newListener (w.defaults.mergeSort fun a b =>
      a.order < b.order || (a.order == b.order && a.name ≤ b.name)) w
    have happly : app.describe w =
        (.ok { name := app.name, listeners := ls ++ app.listeners }, w') := by
      unfold describe
      rw [if_pos defaults, Action.bind_apply]
      unfold loadListeners
      rw [Action.bind_apply, Action.get_apply]
      dsimp only
      rw [hload]
      rfl
    refine ⟨_, w', happly, fun l hl => List.mem_append_right _ hl, ?_, le, fun l hl => ?_⟩
    · refine List.nodup_append.2 ⟨new, distinct, fun k hk j hj hkj => ?_⟩
      have hnew := (numbered k hk).1
      have hold := made j hj
      rw [hkj] at hnew
      omega
    · rcases List.mem_append.1 hl with hl | hl
      · exact (numbered l hl).2
      · have := made l hl
        omega
  · have happly : app.describe w = (.ok { name := app.name, listeners := app.listeners }, w) := by
      unfold describe
      rw [if_neg defaults]
      rfl
    exact ⟨_, w, happly, fun l hl => hl, distinct, Nat.le_refl _, made⟩

/-- Without observers of its own an application has one announcer. -/
theorem makeObservers_apply {call : Caller σ} (own : app.observers = []) (d : Descriptor)
    (args : List String) (w : World σ) :
    app.makeObservers call d args w =
      (.ok [.announcer ⟨w.store.fresh⟩], (Move.makeAnnouncer d args).apply w) := by
  unfold makeObservers
  rw [own, Action.bind_apply]
  show ((List.mapM _ [] >>= _ : Action σ _) ((Move.makeAnnouncer d args).apply w)) = _
  rw [List.mapM_nil, Action.bind_apply, Action.pure_apply]
  dsimp only
  rw [List.mergeSort_singleton]
  rfl

theorem createContext_apply (app : Application σ) (env : EnvironmentId) (w : World σ) :
    ∃ w', app.createContext env w = (.ok ⟨w.store.fresh⟩, w') ∧
      w'.store.fresh = w.store.fresh + 1 ∧ (w'.store.context ⟨w.store.fresh⟩).hosted = none ∧
      (w'.store.context ⟨w.store.fresh⟩).state = .created ∧
      w'.store.history =
        w.store.history ++ [.stepped .createContext, .madeContext ⟨w.store.fresh⟩] := by
  unfold createContext
  cases app.showBanner with
  | true => exact ⟨_, rfl, rfl, by simp [Store.context, Store.record],
      by simp [Store.context, Store.record], by simp [Store.history, Store.record]⟩
  | false => exact ⟨_, rfl, rfl, by simp [Store.context, Store.record],
      by simp [Store.context, Store.record], by simp [Store.history, Store.record]⟩

end Application

/-! ## Attaching -/

section Attaching

variable {call : Caller σ} (hcall : ∀ p : Program σ, p.Quiet → Discipline.silent.Keeps (call p))

include hcall

/-- While phases are announced, the code of the application is still silent. -/
theorem keeps_while (P : Phase → Prop) (p : Program σ) (hp : p.Quiet) :
    (Discipline.quiet P).Keeps (call p) := fun w hw =>
  (hcall p hp w hw).of_silent

theorem keeps_announce_while (a : AnnouncerId) (what : Announcement) :
    (Discipline.quiet (· = what.phase)).Keeps (announce call a what) :=
  Discipline.keeps_announce (keeps_while hcall _) (allowsAnnouncing_quiet rfl)

/-- Listeners that were attached to a context are with it. -/
theorem attachListeners_joined {c : ContextId} :
    ∀ (ls : List ListenerId) {w w' : World σ}, w.Obeys Program.Quiet →
      attachListeners call c ls w = (.ok (), w') → ∀ l ∈ ls, l ∈ w'.store.listenersOf c
  | [], _, _, _, _ => by simp
  | l :: rest, w, w', hw, h => by
    have loaded := keeps_while hcall (· = .contextLoaded)
    have told : ∃ m, m.Obeys Program.Quiet ∧
        (addListener c l >>= fun _ => attachListeners call c rest) m = (.ok (), w') := by
      unfold attachListeners at h
      change ((if (w.store.listener l).aware then
          bindContext call l c >>= fun _ => addListener c l >>= fun _ => attachListeners call c rest
        else addListener c l >>= fun _ => attachListeners call c rest) : Action σ Unit) w = _ at h
      split at h
      · obtain ⟨_, m, hbind, h⟩ := Action.bind_ok h
        have path := Discipline.keeps_bindContext (D := .quiet (· = .contextLoaded)) loaded
          (l := l) (c := c) rfl w hw
        rw [hbind] at path
        exact ⟨m, path.obeys hw, h⟩
      · exact ⟨w, hw, h⟩
    obtain ⟨m, hm, h⟩ := told
    obtain ⟨_, n, hadd, hrest⟩ := Action.bind_ok h
    have hn : n.Obeys Program.Quiet ∧ l ∈ n.store.listenersOf c := by
      rw [addListener_apply] at hadd
      obtain ⟨-, rfl⟩ := Prod.mk.inj hadd
      refine ⟨hm.apply trivial, ?_⟩
      have spares : (Move.join c l : Move σ).Spares := trivial
      rw [Move.apply_store, Move.listenersOf_applyStore _ _ spares]
      simp [Store.mem_withListener]
    intro k hk
    rcases List.mem_cons.1 hk with rfl | hk
    · have path := Discipline.keeps_attachListeners (D := .quiet (· = .contextLoaded)) loaded (c := c)
        (fun _ => rfl) rest n hn.1
      rw [hrest] at path
      exact path.joined hn.2
    · exact attachListeners_joined rest hn.1 hrest k hk

end Attaching

/-- Since a run began, the listeners of its announcer have been attached to its context if the context
was announced as loaded. -/
structure Attached (a : AnnouncerId) (ls : List ListenerId) (c : ContextId) (start : List Entry)
    (w : World σ) : Prop where
  obeys : w.Obeys Program.Quiet
  made : a.number < w.store.fresh
  application : (w.store.announcer a).application.listeners = ls
  attached : ∃ since, w.store.history = start ++ since ∧
    (.entered a .contextLoaded ∈ since → ∀ l ∈ ls, l ∈ w.store.listenersOf c)

namespace Attached

variable {a : AnnouncerId} {ls : List ListenerId} {c : ContextId} {start : List Entry}
  {w w' : World σ}

/-- Announcing other phases keeps it so. -/
theorem path {P : Phase → Prop} {first : Nat} (h : Attached a ls c start w)
    (path : Path (Discipline.quiet P).allowed first w w') (other : ¬ P .contextLoaded) :
    Attached a ls c start w' := by
  obtain ⟨obeys, made, application, since, history, attached⟩ := h
  obtain ⟨added, grown, hothers⟩ := path.quiet_history
  refine ⟨path.obeys obeys, Nat.lt_of_lt_of_le made path.fresh_le, ?_, since ++ added, ?_, ?_⟩
  · rw [path.application made, application]
  · rw [grown, history, List.append_assoc]
  · intro entered l hl
    rcases List.mem_append.1 entered with entered | entered
    · exact path.joined (attached entered l hl)
    · exact absurd entered ((hothers _ other).2 a)

theorem keeps {α : Type} {P : Phase → Prop} {act : Action σ α} {r : Except Stop α}
    (h : Attached a ls c start w) (keeps : (Discipline.quiet P).Keeps act)
    (other : ¬ P .contextLoaded) (hact : act w = (r, w')) : Attached a ls c start w' := by
  have path := keeps w h.obeys
  rw [hact] at path
  exact h.path path other

section Steps

variable {call : Caller σ} (hcall : ∀ p : Program σ, p.Quiet → Discipline.silent.Keeps (call p))

include hcall

/-- Announcing the context as loaded attaches the listeners before anything else is done. -/
theorem announce {r : Except StartupError Unit} (h : Attached a ls c start w)
    (hact : announce call a (.contextLoaded c) w = (.ok r, w')) : Attached a ls c start w' := by
  have loaded := keeps_while hcall (· = .contextLoaded)
  have path := keeps_announce_while hcall a (.contextLoaded c) w h.obeys
  rw [hact] at path
  obtain ⟨obeys, made, application, since, history, attached⟩ := h
  by_cases next : Phase.expectedAfter (w.store.announcer a).last = some .contextLoaded
  · rw [announce_loaded next] at hact
    let entered := (Move.enter a Phase.contextLoaded).apply w
    have hentered : entered.Obeys Program.Quiet := obeys.apply trivial
    have hls : (entered.store.announcer a).application.listeners = ls := by
      simp only [entered, Move.apply_store, Move.announcer_applyStore, if_pos]
      exact application
    obtain ⟨_, m, hattach, hpublish⟩ := Action.bind_ok hact
    rw [hls] at hattach
    have joined := attachListeners_joined hcall ls hentered hattach
    have attaching := Discipline.keeps_attachListeners (D := .quiet (· = .contextLoaded)) loaded
      (c := c) (fun _ => rfl) ls entered hentered
    rw [hattach] at attaching
    have publishing := Discipline.keeps_publish (D := .quiet (· = .contextLoaded)) loaded (c := c)
      (e := (entered.store.announcer a).event (.contextLoaded c)) (fun _ => rfl) m
      (attaching.obeys hentered)
    rw [hpublish] at publishing
    obtain ⟨added, grown, -⟩ := path.quiet_history
    refine ⟨path.obeys obeys, Nat.lt_of_lt_of_le made path.fresh_le, ?_, since ++ added, ?_, ?_⟩
    · rw [path.application made, application]
    · rw [grown, history, List.append_assoc]
    · exact fun _ l hl => publishing.joined (joined l hl)
  · rw [announce_refused next] at hact
    obtain ⟨-, rfl⟩ := Prod.mk.inj hact
    exact ⟨obeys, made, application, since, history, attached⟩

omit hcall in
/-- What every step of a run keeps, the steps one after the other keep. -/
theorem performAll {r : Except StartupError Unit} :
    ∀ (tasks : List (Application.Task σ)) {w : World σ},
      (∀ t ∈ tasks, ∀ {w w' : World σ} {r : Except StartupError Unit}, Attached a ls c start w →
        t.2 w = (.ok r, w') → Attached a ls c start w') →
      Attached a ls c start w → Application.performAll tasks w = (.ok r, w') →
      Attached a ls c start w'
  | [], w, _, h, hact => by
    obtain ⟨-, rfl⟩ := Prod.mk.inj hact
    exact h
  | (step, act) :: rest, w, htasks, h, hact => by
    unfold Application.performAll at hact
    obtain ⟨result, m, hperform, hrest⟩ := Action.bind_ok hact
    obtain ⟨_, n, hrecord, hstep⟩ := Action.bind_ok hperform
    have recorded : Attached a ls c start n :=
      h.keeps (P := fun _ => False) (Discipline.keeps_record (e := .stepped step) trivial)
        (fun h => h) hrecord
    have stepped : Attached a ls c start m := htasks _ (List.mem_cons_self ..) recorded hstep
    cases result with
    | error e =>
      obtain ⟨-, rfl⟩ := Prod.mk.inj hrest
      exact stepped
    | ok _ =>
      exact performAll rest (fun t ht => htasks t (List.mem_cons_of_mem _ ht)) stepped hrest

/-- Every step of a run keeps it so. -/
theorem task {app : Application σ} (happ : app.Obeys Program.Quiet) (args : List String) :
    ∀ t ∈ app.tasks call [.announcer a] args c, ∀ {w w' : World σ} {r : Except StartupError Unit},
      Attached a ls c start w → t.2 w = (.ok r, w') → Attached a ls c start w' := by
  intro t ht w w' r h hact
  simp only [Application.tasks, List.mem_append, List.mem_singleton] at ht
  have hinitializers : ∀ p ∈ app.initializers.map (· c), Program.Quiet p := by
    simpa using fun p hp => happ.initializer p hp c
  have hrunners : ∀ p ∈ app.runners.map (· c args), Program.Quiet p := by
    simpa using fun p hp => happ.runner p hp c args
  have announcing : ∀ {step : Nat → RunStep} {what : Announcement}, what.phase ≠ .contextLoaded →
      t ∈ Application.announcing call step what [.announcer a] → Attached a ls c start w' := by
    intro step what other ht
    have keeps := Discipline.keeps_announcing (D := .quiet (· = what.phase)) (keeps_while hcall _)
      (Observer.obeys_announcer a) step (allowsAnnouncing_quiet rfl) t ht
    exact h.keeps keeps (fun hp => other hp.symm) hact
  rcases ht with (((((ht | ht) | ht) | rfl) | ht) | ht) | ht
  · exact h.keeps (Discipline.keeps_calling (D := Discipline.silent) hcall _ hinitializers t ht)
      (fun h => h) hact
  · exact announcing (by simp [Announcement.phase]) ht
  · obtain ⟨⟨o, i⟩, ho, rfl⟩ := List.mem_map.1 ht
    obtain rfl : o = .announcer a := List.mem_singleton.1 (List.fst_mem_of_mem_zipIdx ho)
    exact h.announce hcall hact
  · exact h.keeps (Discipline.keeps_refresh (D := Discipline.silent) hcall c) (fun h => h) hact
  · exact announcing (by simp [Announcement.phase]) ht
  · exact h.keeps (Discipline.keeps_calling (D := Discipline.silent) hcall _ hrunners t ht)
      (fun h => h) hact
  · exact announcing (by simp [Announcement.phase]) ht

end Steps

end Attached

/-! ## The steps of a run -/

namespace Application

variable {call : Caller σ} {app : Application σ} {args : List String} {w w' : World σ}

/-- The end of a run: where a step has failed, the observers are told. -/
def conclude (call : Caller σ) (observers : List (Observer σ)) :
    Except (Option ContextId × StartupError) ContextId → Action σ (Except StartupError ContextId)
  | .ok c => pure (.ok c)
  | .error (c, e) => return .error (← fail call observers c e)

/-- A run whose step has failed ends without a context. -/
theorem conclude_error {observers : List (Observer σ)} {c : Option ContextId} {e : StartupError}
    {r : Except Stop (Except StartupError ContextId)}
    (h : conclude call observers (.error (c, e)) w = (r, w')) :
    (fail call observers c e w).2 = w' ∧ ∀ d, r ≠ .ok (.ok d) := by
  have reports : conclude call observers (.error (c, e)) =
      fail call observers c e >>= fun outcome => pure (.error outcome) := rfl
  rw [reports, Action.bind_apply] at h
  rcases hfail : fail call observers c e w with ⟨stop | outcome, m⟩ <;> rw [hfail] at h <;>
    obtain ⟨rfl, rfl⟩ := Prod.mk.inj h
  · exact ⟨rfl, by simp⟩
  · exact ⟨rfl, by simp⟩

/-- A run whose log is not refused has it set up, and is opened then. -/
theorem run_eq_opening (ready : app.logging = none ∨ w.logRefusal = none) :
    app.run call args w = (app.opening call args >>= fun (_, observers) =>
      app.attempt call observers args >>= conclude call observers) (app.logged w) := by
  have readied : app.readyLog w = (.ok (.ok ()), app.logged w) := by
    rw [readyLog_apply]
    rcases ready with unasked | unrefused
    · rw [unasked]
      rfl
    · rw [unrefused]
      cases app.logging <;> rfl
  unfold run
  rw [Action.bind_apply, readied]
  rfl

/-- A run whose log is refused ends before it begins. -/
theorem run_refused {settings : LogSettings} {reason : String} (asked : app.logging = some settings)
    (refused : w.logRefusal = some reason) :
    app.run call args w = (.ok (.error (.loggingInit reason)), app.logged w) := by
  unfold run
  rw [Action.bind_apply, readyLog_apply, asked, refused]
  rfl

/-- A run that ends with an error after it has been opened has a step that failed. -/
theorem run_failed {error : StartupError} (ready : app.logging = none ∨ w.logRefusal = none)
    (failed : app.run call args w = (.ok (.error error), w')) :
    ∃ d observers opened c e m, app.opening call args (app.logged w) = (.ok (d, observers), opened) ∧
      app.attempt call observers args opened = (.ok (.error (c, e)), m) ∧
      fail call observers c e m = (.ok error, w') := by
  rw [run_eq_opening ready] at failed
  obtain ⟨⟨d, observers⟩, opened, hopening, failed⟩ := Action.bind_eq_ok.1 failed
  obtain ⟨⟨c, e⟩ | c, m, hattempt, failed⟩ := Action.bind_eq_ok.1 failed
  · obtain ⟨result, n, hfail, failed⟩ := Action.bind_eq_ok.1 failed
    obtain ⟨hresult, rfl⟩ := Action.pure_eq_ok.1 failed
    obtain rfl := Except.error.inj hresult
    exact ⟨d, observers, opened, c, e, m, hopening, hattempt, hfail⟩
  · obtain ⟨hresult, -⟩ := Action.pure_eq_ok.1 failed
    cases hresult

/-- A failed attempt with a context has an environment for it, and a step behind it that failed. -/
theorem attempt_parts {observers : List (Observer σ)} {d : ContextId} {e : StartupError} {m : World σ}
    (h : app.attempt call observers args w = (.ok (.error (some d, e)), m)) :
    ∃ env n n', app.environment call observers w = (.ok (.ok env), n) ∧
      app.createContext env n = (.ok d, n') ∧
      performAll (app.tasks call observers args d) n' = (.ok (.error e), m) := by
  obtain ⟨r, n, henvironment, h⟩ := Action.bind_ok h
  rcases r with error | env
  · obtain ⟨hresult, -⟩ := Prod.mk.inj h
    simp at hresult
  obtain ⟨d', n', hcreate, h⟩ := Action.bind_ok h
  obtain ⟨result, m', hperform, h⟩ := Action.bind_ok h
  rcases result with error | _ <;> cases h
  exact ⟨env, n, n', henvironment, hcreate, hperform⟩

/-- The context of a failed attempt was made by it, and its listeners were attached to it before it
was announced as loaded. -/
theorem attempt_failed (hcall : ∀ p : Program σ, p.Quiet → Discipline.silent.Keeps (call p))
    (happ : app.Obeys Program.Quiet) {a : AnnouncerId} {m : World σ} {c : Option ContextId}
    {e : StartupError} (hw : w.Obeys Program.Quiet) (made : a.number < w.store.fresh)
    (h : app.attempt call [.announcer a] args w = (.ok (.error (c, e)), m)) :
    ∀ d ∈ c, w.store.fresh ≤ d.number ∧ (m.store.context d).hosted = none ∧
      Attached a (w.store.announcer a).application.listeners d w.store.history m := by
  rintro d rfl
  obtain ⟨env, n, n', henvironment, hcreate, hperform⟩ := attempt_parts h
  obtain ⟨n'', hcreate', fresh, own, -⟩ := app.createContext_apply env n
  rw [hcreate] at hcreate'
  obtain ⟨hd, rfl⟩ := Prod.mk.inj hcreate'
  obtain rfl := Except.ok.inj hd
  -- until the context is made, only the first two phases are announced
  have keeps : (Discipline.quiet fun p => p = .starting ∨ p = .environmentPrepared).Keeps
      (app.environment call [.announcer a]) :=
    Discipline.keeps_environment (keeps_while hcall _) (Observer.obeys_announcer a)
      (allowsAnnouncing_quiet (.inl rfl)) (allowsAnnouncing_quiet (.inr rfl))
  have early := keeps w hw
  rw [henvironment] at early
  have started : Attached a (w.store.announcer a).application.listeners ⟨n.store.fresh⟩
      w.store.history w :=
    ⟨hw, made, rfl, [], by simp, by simp⟩
  have prepared := started.path early (by simp)
  have created := prepared.keeps (Discipline.keeps_createContext (D := Discipline.silent) env)
    (fun h => h) hcreate
  have ordinary := Discipline.keeps_tasks (D := .quiet (· ≠ .failed)) (keeps_while hcall _)
    (Observer.obeys_announcer a) happ (fun what => allowsAnnouncing_quiet what.phase_ne_failed) args
    ⟨n.store.fresh⟩
  have performing := Discipline.keeps_performAll _ ordinary n' created.obeys
  rw [hperform] at performing
  refine ⟨early.fresh_le, ?_, Attached.performAll _ (Attached.task hcall happ args) created hperform⟩
  rw [performing.hosted (by simp [fresh]), own]

/-- A run that has made its announcer: its early channel has the listeners of the application, each
once, and it has announced nothing. -/
structure Opened (app : Application σ) (d : Descriptor) (a : AnnouncerId) (w w' : World σ) : Prop where
  path : Path Discipline.silent.allowed w.store.fresh w w'
  has : ∀ l ∈ app.listeners, l ∈ d.listeners
  distinct : d.listeners.Nodup
  numbered : ∀ l ∈ d.listeners, l.number < w'.store.fresh
  made : a.number < w'.store.fresh
  early : (w'.store.channel (.early a)).listeners = d.listeners
  application : (w'.store.announcer a).application = d
  last : (w'.store.announcer a).last = none

/-- Making the announcer of an application, and the line in the log behind it. -/
theorem announcer_apply (d : Descriptor) (args : List String) (text : String) (w : World σ) :
    ∃ w', log .info text ((Move.makeAnnouncer d args).apply w) = (.ok (), w') ∧
      Path Discipline.silent.allowed w.store.fresh w w' ∧ w'.store.fresh = w.store.fresh + 1 ∧
      w'.store.announcer ⟨w.store.fresh⟩ = { application := d, args } ∧
      (w'.store.channel (.early ⟨w.store.fresh⟩)).listeners = d.listeners := by
  let made := (Move.makeAnnouncer d args).apply w
  let told := Move.record (σ := σ) (.logged .info text)
  refine ⟨told.apply made, rfl, ?_, ?_, ?_, ?_⟩
  · have path : Path Discipline.silent.allowed w.store.fresh w made :=
      .single trivial trivial (by simp [Move.turn?])
    exact .snoc _ path trivial trivial (by simp [told, Move.turn?])
  · simp [told, made, Move.numbers]
  · rw [Move.apply_store, Move.announcer_applyStore]
    simp only [told, made, Move.apply_store, Move.announcer_applyStore, if_pos]
  · rw [Move.apply_store, Move.channel_applyStore]
    simp only [told, made, Move.apply_store, Move.channel_applyStore, if_pos]

/-- Whatever quiet code there is, a run makes its announcer. -/
theorem opening_opened (call : Caller σ) (args : List String) (quiet : w.Obeys Program.Quiet)
    (alone : app.observers = []) (distinct : app.listeners.Nodup)
    (made : ∀ l ∈ app.listeners, l.number < w.store.fresh) :
    ∃ d a w', app.opening call args w = (.ok (d, [.announcer a]), w') ∧ app.Opened d a w w' := by
  obtain ⟨d, w₁, hdescribe, has, different, le, numbered⟩ := describe_apply w distinct made
  have keeps : Discipline.silent.Keeps app.describe := Discipline.keeps_describe
  have described := keeps w quiet
  rw [hdescribe] at described
  obtain ⟨w', hlog, path, fresh, announcer, early⟩ :=
    announcer_apply d args ("Starting " ++ app.name ++ " application") w₁
  refine ⟨d, ⟨w₁.store.fresh⟩, w', ?_, ?_⟩
  · refine Action.bind_eq_ok.2 ⟨d, w₁, hdescribe, ?_⟩
    refine Action.bind_eq_ok.2 ⟨_, _, makeObservers_apply alone d args w₁, ?_⟩
    exact Action.bind_eq_ok.2 ⟨(), w', hlog, rfl⟩
  refine ⟨described.trans (path.weaken (fun _ h => h) le), has, different, fun l hl => ?_, ?_, early,
    ?_, ?_⟩
  · have := numbered l hl
    omega
  · rw [fresh]
    exact Nat.lt_succ_self _
  · rw [announcer]
  · rw [announcer]

/-- A run that has been opened has made its announcer. -/
theorem opened_of_opening (quiet : w.Obeys Program.Quiet) (alone : app.observers = [])
    (distinct : app.listeners.Nodup) (made : ∀ l ∈ app.listeners, l.number < w.store.fresh)
    {d : Descriptor} {observers : List (Observer σ)}
    (h : app.opening call args w = (.ok (d, observers), w')) :
    ∃ a, observers = [.announcer a] ∧ app.Opened d a w w' := by
  obtain ⟨_, a, _, hopening, opened⟩ := opening_opened call args quiet alone distinct made
  rw [h] at hopening
  obtain ⟨hresult, rfl⟩ := Prod.mk.inj hopening
  obtain ⟨rfl, rfl⟩ := Prod.mk.inj (Except.ok.inj hresult)
  exact ⟨a, rfl, opened⟩

/-- A context that has been announced as loaded misses no listener of the application. -/
theorem Opened.not_misses {d : Descriptor} {a : AnnouncerId} {w w₁ m : World σ}
    (opened : app.Opened d a w w₁) {c : Option ContextId}
    (attached : ∀ x ∈ c, Attached a d.listeners x w₁.store.history m) {before : List Entry}
    (history : m.store.history = w.store.history ++ before)
    (loaded : .entered a .contextLoaded ∈ before) {l : ListenerId} (hl : l ∈ d.listeners) :
    ¬ m.store.Misses c l := by
  rintro ⟨x, hx, -, hmissing⟩
  obtain ⟨since, grown, joined⟩ := (attached x hx).attached
  refine hmissing (joined ?_ l hl)
  -- nothing was announced before the announcer was made
  obtain ⟨early, hearly, hothers⟩ := opened.path.quiet_history
  have hbefore : before = early ++ since := by
    rw [history, hearly, List.append_assoc] at grown
    exact List.append_cancel_left grown
  rw [hbefore] at loaded
  exact (List.mem_append.1 loaded).resolve_left ((hothers _ fun h => h).2 a)

/-- A run that has failed at a step: nobody has been told of a failure, and of those who hear of this
one nobody does so twice. -/
structure Broken (d : Descriptor) (a : AnnouncerId) (c : Option ContextId) (w : World σ) : Prop where
  own : ∀ x ∈ c, (w.store.context x).hosted = none
  first : (w.store.announcer a).last ≠ some .failed
  once : (w.store.audience (.early a) c).Nodup

/-- Until it has failed, an attempt announces no failure. -/
theorem keeps_attempt_ordinary (hcall : ∀ p : Program σ, p.Quiet → Discipline.silent.Keeps (call p))
    (happ : app.Obeys Program.Quiet) (a : AnnouncerId) (args : List String) :
    (Discipline.quiet (· ≠ .failed)).Keeps (app.attempt call [.announcer a] args) :=
  Discipline.keeps_attempt (keeps_while hcall _) (Observer.obeys_announcer a) happ
    (fun what => allowsAnnouncing_quiet what.phase_ne_failed) args

theorem Opened.broken (hcall : ∀ p : Program σ, p.Quiet → Discipline.silent.Keeps (call p))
    (happ : app.Obeys Program.Quiet) (quiet : w.Obeys Program.Quiet) (unmade : w.store.Unmade)
    {d : Descriptor} {a : AnnouncerId} {w₁ m : World σ} (opened : app.Opened d a w w₁)
    {c : Option ContextId} {e : StartupError}
    (h : app.attempt call [.announcer a] args w₁ = (.ok (.error (c, e)), m)) : Broken d a c m := by
  have obeys := opened.path.obeys quiet
  have attempted := keeps_attempt_ordinary hcall happ a args w₁ obeys
  rw [h] at attempted
  have context := attempt_failed hcall happ obeys opened.made h
  refine ⟨fun x hx => (context x hx).2.1, ?_, nodup_audience ?_ fun x hx => ?_⟩
  · exact attempted.last_ne_failed (by simp) (by simp [opened.last])
  · rw [attempted.quiet_early opened.made, opened.early]
    exact opened.distinct
  · have new : w.store.fresh ≤ x.number := Nat.le_trans opened.path.fresh_le (context x hx).1
    have distinct := attempted.distinct (opened.path.distinct unmade.distinct)
    exact distinct.distinct x new (context x hx).2.1

/-! ## Failed runs -/

/-- A run with quiet code whose log is not refused, and which then ends with an error, has made its
announcer and has a step that failed. Every listener of the application that listens to failures is told
of this once, unless at that step the context was active and did not have the listener; then it is not
told. This happens before the context is announced as loaded only. -/
theorem failed_run_tells (app : Application σ) (args : List String) (depth : Nat) {w w' : World σ}
    {error : StartupError} (quiet : w.Obeys Program.Quiet) (happ : app.Obeys Program.Quiet)
    (alone : app.observers = []) (distinct : app.listeners.Nodup)
    (made : ∀ l ∈ app.listeners, l.number < w.store.fresh) (unmade : w.store.Unmade)
    (ready : app.logging = none ∨ w.logRefusal = none)
    (failed : app.run (Program.execute depth) args w = (.ok (.error error), w')) :
    ∃ d a opened c e m, app.opening (Program.execute depth) args (app.logged w) =
        (.ok (d, [.announcer a]), opened) ∧
      app.attempt (Program.execute depth) [.announcer a] args opened = (.ok (.error (c, e)), m) ∧
      (∀ l ∈ app.listeners, l ∈ d.listeners) ∧
      ∃ before added, m.store.history = w.store.history ++ before ∧
        w'.store.history = w.store.history ++ added ∧
        ∀ l ∈ d.listeners, (w'.store.listener l).supports .failed = true →
          (¬ m.store.Misses c l → (receivers .failed added).count l = 1) ∧
          (m.store.Misses c l → (receivers .failed added).count l = 0) ∧
          (.entered a .contextLoaded ∈ before → ¬ m.store.Misses c l) := by
  have hcall : ∀ p : Program σ, p.Quiet → Discipline.silent.Keeps (Program.execute depth p) :=
    fun p hp => Discipline.keeps_execute (D := Discipline.silent) depth p hp
  obtain ⟨d, _, w₁, c, e, m, hopening, hattempt, hfail⟩ := run_failed ready failed
  -- the log is no part of the store
  have same : (app.logged w).store = w.store := app.store_logged w
  have logged := quiet.logged app
  rw [← same] at made unmade ⊢
  generalize app.logged w = w₀ at hopening logged made unmade ⊢
  obtain ⟨a, rfl, opened⟩ := opened_of_opening logged alone distinct made hopening
  have obeys := opened.path.obeys logged
  have attempted := keeps_attempt_ordinary hcall happ a args w₁ obeys
  rw [hattempt] at attempted
  have whole := opened.path.of_silent.trans (attempted.weaken (fun _ h => h) opened.path.fresh_le)
  have broken := opened.broken hcall happ logged unmade hattempt
  -- who is told when the run has failed, and nobody before
  have told := receives_fail hcall (attempted.obeys obeys) broken.own broken.first hfail
  obtain ⟨added, hadded, hreceivers⟩ := (Receives.of_path whole (by simp)).none_trans told
  obtain ⟨before, hbefore, -⟩ := whole.quiet_history
  have free : (Discipline.free (σ := σ)).Keeps (fail (Program.execute depth) [.announcer a] c e) :=
    Discipline.keeps_fail (Discipline.execute_free depth) (Observer.obeys_announcer a)
      (fun _ => trivial) (fun e _ => allowsReporting_free e) c e
  have ending := free m (Discipline.obeys_free m)
  rw [hfail] at ending
  have attached : ∀ x ∈ c, Attached a d.listeners x w₁.store.history m := by
    intro x hx
    have h := (attempt_failed hcall happ obeys opened.made hattempt x hx).2.2
    rwa [opened.application] at h
  refine ⟨d, a, w₁, c, e, m, hopening, hattempt, opened.has, before, added, hbefore, hadded,
    fun l hl listens => ?_⟩
  have known : l ∈ (m.store.channel (.early a)).listeners := by
    rwa [attempted.quiet_early opened.made, opened.early]
  have numbered : l.number < m.store.fresh :=
    Nat.lt_of_lt_of_le (opened.numbered l hl) attempted.fresh_le
  rw [ending.supports numbered] at listens
  obtain ⟨reached, missed⟩ := count_audience known broken.once listens
  rw [hreceivers]
  exact ⟨reached, missed, fun loaded => opened.not_misses attached hbefore loaded hl⟩

/-- A world with one listener, which fails on every event from the failure on. -/
def oneListener : World Unit :=
  (Move.makeListener {} ⟨fun e => .finish (if e.phase = .failed then .error (.text "") else .ok ()),
    fun _ => .done⟩).apply { memory := () }

/-- An application with this listener whose context is handed to some code before it is told of. -/
def prepared (code : ContextId → Program Unit) : Application Unit where
  layers := { files := [] }
  showBanner := false
  listeners := [⟨0⟩]
  initializers := [code]

/-- The error that a run ended with. -/
def endError? : Except Stop (Except StartupError ContextId) → Option StartupError
  | .ok (.error error) => some error
  | _ => none

/-- The context that there was, or was not, at the step that failed. -/
def failedWith? :
    Except Stop (Except (Option ContextId × StartupError) ContextId) → Option (Option ContextId)
  | .ok (.error (c, _)) => some c
  | _ => none

theorem exists_of_endError {r : Except Stop (Except StartupError ContextId) × World Unit}
    (h : (endError? r.1).isSome = true) : ∃ error w', r = (.ok (.error error), w') := by
  rcases r with ⟨_ | error | _, w'⟩
  · cases h
  · exact ⟨error, w', rfl⟩
  · cases h

theorem oneListener_quiet : oneListener.Obeys Program.Quiet := by
  have code : Program.Quiet (σ := Unit) .done := trivial
  have empty : ({ memory := () } : World Unit).Obeys Program.Quiet :=
    ⟨fun _ => ⟨fun _ => code, fun _ => code⟩, fun _ => code, fun _ _ _ _ => code,
      fun _ => ⟨fun _ => code, fun _ => code⟩, by simp⟩
  exact empty.apply ⟨fun _ => trivial, fun _ => trivial⟩

/-- An application that sets up its log, and whose initializer closes the context and then fails. -/
def closing : Application Unit :=
  { prepared fun c => .close c (.finish (.error (.text ""))) with logging := some {} }

theorem failed_run_tells_closed : ∃ w' error,
    closing.run (Program.execute 3) [] oneListener = (.ok (.error error), w') ∧
    (receivers .failed w'.store.history).count ⟨0⟩ = 1 := by
  have quiet : closing.Obeys Program.Quiet := by
    constructor <;> simp [closing, prepared, Program.Quiet]
  have fails : (endError? (closing.run (Program.execute 3) [] oneListener).1).isSome = true := by
    decide +kernel
  let attempt : Action Unit _ := closing.opening (Program.execute 3) [] >>= fun (_, observers) =>
    closing.attempt (Program.execute 3) observers []
  have closed : ∀ c ∈ failedWith? (attempt (closing.logged oneListener)).1, ∀ x ∈ c,
      ((attempt (closing.logged oneListener)).2.store.context x).isActive = false := by
    decide +kernel
  obtain ⟨error, w', failed⟩ := exists_of_endError fails
  obtain ⟨d, a, opened, c, e, m, hopening, hattempt, has, before, added, -, hadded, told⟩ :=
    failed_run_tells closing [] 3 oneListener_quiet quiet rfl (by decide) (by decide)
      (fun _ _ => ⟨rfl, rfl⟩) (.inr rfl) failed
  have attempted : attempt (closing.logged oneListener) = (.ok (.error (c, e)), m) :=
    Action.bind_eq_ok.2 ⟨_, opened, hopening, hattempt⟩
  rw [attempted] at closed
  have reached : ¬ m.store.Misses c ⟨0⟩ := by
    rintro ⟨x, hx, active, -⟩
    rw [closed c rfl x hx] at active
    cases active
  have listens : (w'.store.listener ⟨0⟩).supports .failed = true := by
    have ended : ((closing.run (Program.execute 3) [] oneListener).2.store.listener ⟨0⟩).supports
        .failed = true := by decide +kernel
    rwa [failed] at ended
  refine ⟨w', error, failed, ?_⟩
  rw [hadded]
  exact (told ⟨0⟩ (has _ (List.mem_singleton_self _)) listens).1 reached

/-- An initializer that refreshes the context and then fails: the listener is not told. -/
theorem failed_run_silent :
    let app := prepared fun c => .refresh c fun _ => .finish (.error (.text ""))
    ∃ w' error, app.run (Program.execute 3) [] oneListener = (.ok (.error error), w') ∧
      (w'.store.listener ⟨0⟩).supports .failed = true ∧ receivers .failed w'.store.history = [] := by
  intro app
  have fails : (endError? (app.run (Program.execute 3) [] oneListener).1).isSome = true := by
    decide +kernel
  have listens : ((app.run (Program.execute 3) [] oneListener).2.store.listener ⟨0⟩).supports .failed =
      true := by decide +kernel
  have silent :
      receivers .failed (app.run (Program.execute 3) [] oneListener).2.store.history = [] := by
    decide +kernel
  obtain ⟨error, w', failed⟩ := exists_of_endError fails
  rw [failed] at listens silent
  exact ⟨w', error, failed, listens, silent⟩

end Application

end Startup
