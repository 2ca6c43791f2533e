/-
What each operation does, up to the code that it calls; and that it keeps every discipline that
allows its moves, whatever this code is, as long as the caller keeps the discipline. Where an
operation may not deliver events, announce phases or change channels, only the discipline's common
moves are needed.
-/
import Startup.Proofs.Course

namespace Startup

variable {σ : Type}

theorem Announcer.event_phase (x : Announcer) (what : Announcement) :
    (x.event what).phase = what.phase := by
  cases what <;> rfl

/-! ## What operations do -/

section Effects

variable {call : Caller σ}

theorem addListener_apply (c : ContextId) (l : ListenerId) (w : World σ) :
    addListener c l w = (.ok (), (Move.join c l).apply w) := by
  show (if w.store.knows c l then _ else _ : Action σ _) _ = _
  unfold Move.apply Move.applyStore Move.change
  split <;> rename_i known <;> simp only [known] <;> rfl

theorem refresh_hosted {c : ContextId} {w : World σ} (hosted : (w.store.context c).hosted ≠ none) :
    refresh call c w = (.ok (.ok ()), w) := by
  show (if _ then _ else _ : Action σ _) w = _
  rw [if_pos (Option.isSome_iff_ne_none.2 hosted)]
  rfl

theorem refresh_refused {c : ContextId} {w : World σ} (hosted : (w.store.context c).hosted = none)
    (state : (w.store.context c).state ≠ .created) :
    refresh call c w = (.ok (.error (.other (.text ("Context '" ++ (w.store.context c).name ++
      "' cannot be refreshed in state " ++ (w.store.context c).state.name)))), w) := by
  show (if _ then _ else if _ then _ else _ : Action σ _) w = _
  rw [hosted, if_neg (by simp), if_pos state]
  rfl

/-- A refresh that begins at all is a turn of the next number. -/
theorem refresh_created {c : ContextId} {w : World σ} (hosted : (w.store.context c).hosted = none)
    (state : (w.store.context c).state = .created) :
    refresh call c w =
      (runCallbacks call w.store.fresh c (w.store.context c).callbacks >>=
        endRefresh w.store.fresh c (w.store.context c).callbacks)
      ((Move.beginRefresh c).apply ((Move.record (.logged .info
        ("Refreshing application context '" ++ (w.store.context c).name ++ "'"))).apply w)) := by
  show (if _ then _ else if _ then _ else _ : Action σ _) w = _
  rw [hosted, state]
  rfl

/-- A callback was called in a turn, and this came of it. -/
def Calls (call : Caller σ) (turn : Nat) (c : ContextId) (callback : CallbackId) (w : World σ)
    (r : Except Fault Unit) (w' : World σ) : Prop :=
  callBack call turn c callback w = (.ok r, w')

/-- Callbacks run if they are gone through up to the first that fails. -/
theorem runCallbacks_iff {turn : Nat} {c : ContextId} {w' : World σ} {r : Except Fault Unit} :
    ∀ {callbacks : List CallbackId} {w : World σ},
      runCallbacks call turn c callbacks w = (.ok r, w') ↔
        ∃ legs, Gone (Calls call turn c) callbacks w legs r w'
  | [], w => by
    unfold runCallbacks
    rw [Action.pure_eq_ok]
    simp [gone_nil]
  | callback :: rest, w => by
    have hrest (m : World σ) : runCallbacks call turn c rest m = (.ok r, w') ↔ _ := runCallbacks_iff
    unfold runCallbacks
    simp only [gone_cons]
    rw [Action.bind_eq_ok]
    constructor
    · rintro ⟨result, m, hcalls, h⟩
      rcases result with fault | _
      · obtain ⟨rfl, rfl⟩ := Action.pure_eq_ok.1 h
        exact ⟨_, _, _, [], rfl, hcalls, .inr ⟨fault, rfl, rfl, rfl, rfl⟩⟩
      · obtain ⟨legs, hgone⟩ := (hrest m).1 h
        exact ⟨_, _, _, legs, rfl, hcalls, .inl ⟨rfl, hgone⟩⟩
    · rintro ⟨_, result, m, legs, rfl, hcalls, h⟩
      refine ⟨result, m, hcalls, ?_⟩
      rcases h with ⟨rfl, hgone⟩ | ⟨fault, rfl, rfl, rfl, rfl⟩
      · exact (hrest m).2 ⟨legs, hgone⟩
      · rfl

omit call in
/-- A refresh ends by one move, whatever came of its callbacks. -/
theorem endRefresh_apply (turn : Nat) (c : ContextId) (callbacks : List CallbackId)
    (result : Except Fault Unit) (w : World σ) :
    endRefresh turn c callbacks result w =
      (.ok (result.mapError .other), (Move.endRefresh turn c callbacks result).apply w) := by
  cases result with
  | error fault => rfl
  | ok _ =>
    let put (now : Context) : Context := { now with callbacks := callbacks ++ now.callbacks }
    let activate (now : Context) : Context := { now with state := .active }
    have both : endRefresh turn c callbacks (.ok ()) w = (.ok (.ok ()), { w with
        store := { w.store with
          contexts := (w.store.contexts.modify c put).modify c activate
          journal := w.store.journal.push (.refreshed turn c) } }) := rfl
    rw [both, Table.modify_modify]
    rfl

/-- A refresh that ends well leaves the context active. -/
theorem refresh_ok {c : ContextId} {w w' : World σ} (own : (w.store.context c).hosted = none)
    (h : refresh call c w = (.ok (.ok ()), w')) : (w'.store.context c).state = .active := by
  by_cases state : (w.store.context c).state = .created
  case neg =>
    rw [refresh_refused own state] at h
    cases h
  rw [refresh_created own state] at h
  obtain ⟨result, m, -, h⟩ := Action.bind_eq_ok.1 h
  rw [endRefresh_apply] at h
  cases result with
  | error fault => cases h
  | ok _ =>
    obtain ⟨-, rfl⟩ := Prod.mk.inj h
    rw [Move.apply_store, Move.endRefresh, Move.context_applyStore]
    simp only [if_pos]

theorem close_apply {c : ContextId} {w : World σ} (hosted : (w.store.context c).hosted = none)
    (state : (w.store.context c).state ≠ .closed) :
    close call c w = runHooks call w.store.fresh c (w.store.context c).hooks
      ((Move.record (.logged .info
        ("Closing application context '" ++ (w.store.context c).name ++ "'"))).apply
        ((Move.beginClosing c).apply w)) := by
  show (if _ then _ else _ : Action σ _) w = _
  rw [hosted, if_neg (by simpa using state)]
  rfl

theorem close_idle {c : ContextId} {w : World σ}
    (h : (w.store.context c).hosted ≠ none ∨ (w.store.context c).state = .closed) :
    close call c w = (.ok (), w) := by
  show (if _ then _ else _ : Action σ _) w = _
  rw [if_pos (by rcases h with h | h <;> simp [h, Option.isSome_iff_ne_none])]
  rfl

theorem publish_closed {c : ContextId} {e : Event} {w : World σ}
    (hosted : (w.store.context c).hosted = none) (state : (w.store.context c).state = .closed) :
    publish call c e w = (.ok (.error .contextUnavailable), w) := by
  show (if _ then _ else if _ then _ else _ : Action σ _) w = _
  rw [hosted, state]
  rfl

theorem publish_open {c : ContextId} {e : Event} {w : World σ}
    (hosted : (w.store.context c).hosted = none) (state : (w.store.context c).state ≠ .closed) :
    publish call c e w = deliver call (w.store.channel (.ofContext c)).policy e
      (w.store.supporting e.phase (w.store.listenersOf c)) w := by
  show (if _ then _ else if _ then _ else _ : Action σ _) w = _
  rw [hosted, if_neg (by simp), if_neg state]
  rfl

/-- The phase that may come next is entered, and any other is refused. -/
theorem advance_apply (a : AnnouncerId) (p : Phase) (w : World σ) :
    advance a p w =
      if Phase.expectedAfter (w.store.announcer a).last = some p then
        (.ok (.ok ()), (Move.enter a p).apply w)
      else (.ok (.error (.phaseOrder (w.store.announcer a).previous p)), w) := by
  show (if _ then _ else _ : Action σ _) w = _
  split <;> rfl

theorem announce_refused {a : AnnouncerId} {what : Announcement} {w : World σ}
    (h : Phase.expectedAfter (w.store.announcer a).last ≠ some what.phase) :
    announce call a what w =
      (.ok (.error (.phaseOrder (w.store.announcer a).previous what.phase)), w) := by
  unfold announce
  rw [Action.bind_apply, advance_apply, if_neg h]
  rfl

/-- An early phase is multicast to the early channel. -/
theorem announce_early {a : AnnouncerId} {what : Announcement} {w : World σ}
    (h : Phase.expectedAfter (w.store.announcer a).last = some what.phase)
    (early : what.phase.isEarly = true) :
    announce call a what w =
      multicast call (.early a) ((((Move.enter a what.phase).apply w).store.announcer a).event what)
        ((Move.enter a what.phase).apply w) := by
  unfold announce
  rw [Action.bind_apply, advance_apply, if_pos h]
  dsimp only
  rw [Action.getStore_bind_apply]
  generalize (Move.enter a what.phase).apply w = m
  cases what <;> first | rfl | cases early

/-- A phase of a refreshed context is published by it. -/
theorem announce_late {a : AnnouncerId} {c : ContextId} {what : Announcement} {w : World σ}
    (h : Phase.expectedAfter (w.store.announcer a).last = some what.phase)
    (late : what = .started c ∨ what = .running c) :
    announce call a what w =
      publish call c ((((Move.enter a what.phase).apply w).store.announcer a).event what)
        ((Move.enter a what.phase).apply w) := by
  unfold announce
  rw [Action.bind_apply, advance_apply, if_pos h]
  dsimp only
  rw [Action.getStore_bind_apply]
  generalize (Move.enter a what.phase).apply w = m
  rcases late with rfl | rfl <;> rfl

/-- A context that is announced as loaded gets its listeners before they are told. -/
theorem announce_loaded {a : AnnouncerId} {c : ContextId} {w : World σ}
    (h : Phase.expectedAfter (w.store.announcer a).last = some .contextLoaded) :
    announce call a (.contextLoaded c) w =
      (attachListeners call c
          (((Move.enter a .contextLoaded).apply w).store.announcer a).application.listeners >>=
        fun _ => publish call c
          ((((Move.enter a .contextLoaded).apply w).store.announcer a).event (.contextLoaded c)))
        ((Move.enter a .contextLoaded).apply w) := by
  unfold announce
  rw [Action.bind_apply]
  have entered : advance a (Announcement.contextLoaded c).phase w =
      (.ok (.ok ()), (Move.enter a .contextLoaded).apply w) := by
    rw [advance_apply]
    exact if_pos h
  rw [entered]
  dsimp only
  rw [Action.getStore_bind_apply]

/-- A failure is announced once; after that there is only a line in the log. -/
theorem announceFailure_apply (a : AnnouncerId) (c : Option ContextId) (cause : Cause) (w : World σ) :
    announceFailure call a c cause w =
      if (w.store.announcer a).last = some .failed then
        (.ok (), (Move.record (.logged .warn
          ("Startup failure already reported, ignoring: " ++ cause.error.message))).apply w)
      else
        reportFailure call (.early a) c
          (.failed (w.store.announcer a).application (w.store.announcer a).args c cause)
          ((Move.enter a .failed).apply w) := by
  show (if _ then _ else _ : Action σ Unit) w = _
  split <;> rfl

end Effects

namespace Discipline

variable {D : Discipline σ}

/-- A move that every discipline allows. -/
theorem keeps_common {α : Type} {act : Action σ α} (h : ∀ w : World σ, ∃ (move : Move σ) (r : _),
    act w = (r, move.apply w) ∧ move.Enabled w.store ∧ move.IsCommon ∧ move.Carries D.code ∧
      move.turn? = none) : D.Keeps act := by
  refine keeps_move fun w => ?_
  obtain ⟨move, r, heq, enabled, common, carries, hturn⟩ := h w
  exact ⟨move, r, heq, enabled, D.common move common carries, hturn⟩

/-! ## Records and numbers -/

theorem keeps_record {e : Entry} (h : e.IsPlain) : D.Keeps (record e) :=
  keeps_common fun _ => ⟨.record e, _, rfl, h, trivial, trivial, rfl⟩

theorem keeps_log (severity : Severity) (text : String) : D.Keeps (log severity text) :=
  keeps_record trivial

theorem keeps_print (text : String) : D.Keeps (print text) :=
  keeps_common fun _ => ⟨.print text, _, rfl, trivial, trivial, trivial, rfl⟩

theorem keeps_setUpLog (settings : LogSettings) : D.Keeps (setUpLog settings) :=
  keeps_common fun _ => ⟨.setUpLog, _, rfl, trivial, trivial, trivial, rfl⟩

theorem keeps_freshNumber : D.Keeps freshNumber :=
  keeps_common fun _ => ⟨.takeNumber, _, rfl, trivial, trivial, trivial, rfl⟩

/-! ## Making objects -/

theorem keeps_newEnvironment (env : Environment) : D.Keeps (newEnvironment env) :=
  keeps_common fun _ => ⟨.makeEnvironment env, _, rfl, trivial, trivial, trivial, rfl⟩

theorem keeps_modifyEnvironment (e : EnvironmentId) (f : Environment → Environment) :
    D.Keeps (modifyEnvironment e f) :=
  keeps_common fun w =>
    ⟨.setEnvironment e (f (w.store.environments.get e)), _, rfl, trivial, trivial, trivial, rfl⟩

theorem keeps_newOutput : D.Keeps newOutput :=
  keeps_bind keeps_freshNumber fun _ => keeps_pure _

theorem keeps_newListener (l : Listener) {code : ListenerCode σ} (h : code.Obeys D.code) :
    D.Keeps (newListener l code) :=
  keeps_common fun _ => ⟨.makeListener l code, _, rfl, trivial, trivial, h, rfl⟩

theorem keeps_loadListeners : D.Keeps loadListeners := by
  unfold loadListeners
  refine keeps_get_bind fun w hw => keeps_mapM _ fun d hd => ?_
  exact keeps_newListener _ (hw.defaults d (List.mem_mergeSort.1 hd))

theorem keeps_newContext {c : Context} (h : c.state = .created ∧ c.callbacks = [] ∧ c.hooks = []) :
    D.Keeps (newContext c) :=
  keeps_common fun _ => ⟨.makeContext c, _, rfl, h, trivial, trivial, rfl⟩

theorem keeps_newNumberedContext (e : EnvironmentId) : D.Keeps (newNumberedContext e) :=
  keeps_move_then fun w =>
    ⟨.takeSequence, newContext
        { name := "application-" ++ Number.decimal w.store.sequence, environment := e },
      rfl, trivial, D.common _ trivial trivial, rfl, keeps_newContext ⟨rfl, rfl, rfl⟩⟩

theorem keeps_newAnnouncer (app : Descriptor) (args : List String) : D.Keeps (newAnnouncer app args) :=
  keeps_common fun _ => ⟨.makeAnnouncer app args, _, rfl, trivial, trivial, trivial, rfl⟩

theorem keeps_newCause (error : StartupError) : D.Keeps (newCause error) :=
  keeps_bind keeps_freshNumber fun _ => keeps_pure _

/-! ## Channels -/

theorem keeps_setPolicy {ch : ChannelId} {policy : Policy} (h : D.allowed (.setPolicy ch policy)) :
    D.Keeps (setPolicy ch policy) :=
  keeps_move fun _ => ⟨.setPolicy ch policy, _, rfl, trivial, h, rfl⟩

theorem keeps_register {ch : ChannelId} {l : ListenerId} (h : D.allowed (.register ch l)) :
    D.Keeps (register ch l) :=
  keeps_move fun _ => ⟨.register ch l, _, rfl, trivial, h, rfl⟩

theorem keeps_setHandler {ch : ChannelId} {code : HandlerCode σ}
    (hcode : ∀ l e fault, D.code (code l e fault)) (h : ∀ n, D.allowed (.setPolicy ch (.handler n))) :
    D.Keeps (setHandler ch code) :=
  keeps_move_then fun w =>
    ⟨.makeHandler code, setPolicy ch (.handler w.store.fresh), rfl, trivial,
      D.common _ trivial hcode, rfl, keeps_setPolicy (h _)⟩

/-! ## Contexts -/

theorem keeps_addListener (c : ContextId) (l : ListenerId) : D.Keeps (addListener c l) :=
  keeps_common fun w =>
    ⟨.join c l, _, addListener_apply c l w, trivial, trivial, trivial, rfl⟩

theorem keeps_onRefresh (c : ContextId) {code : Program σ} (h : D.code code) :
    D.Keeps (onRefresh c code) :=
  keeps_common fun _ => ⟨.onRefresh c code, _, rfl, trivial, trivial, h, rfl⟩

theorem keeps_onClose (c : ContextId) {code : Program σ} (h : D.code code) :
    D.Keeps (onClose c code) :=
  keeps_common fun _ => ⟨.onClose c code, _, rfl, trivial, trivial, h, rfl⟩

/-! ## Built-in listeners -/

theorem keeps_configureConsole (output : OutputId) (e : Event) :
    D.Keeps (configureConsole output e) := by
  unfold configureConsole
  refine keeps_getStore_bind fun s => ?_
  split
  · exact keeps_pure _
  · refine keeps_bind ?_ fun _ => keeps_pure _
    exact keeps_common fun _ => ⟨.setOutput output _, _, rfl, trivial, trivial, trivial, rfl⟩

theorem keeps_configureLog (e : Event) : D.Keeps (configureLog e) := by
  unfold configureLog
  refine keeps_getStore_bind fun s => ?_
  split
  · exact keeps_pure _
  · split
    · exact keeps_pure _
    · exact keeps_bind (keeps_setUpLog _) fun _ => keeps_pure _

theorem keeps_configureWeb (l : ListenerId) (configuration : Web.Configuration) :
    D.Keeps (configureWeb l configuration) := by
  unfold configureWeb
  refine keeps_getStore_bind fun s => ?_
  split
  · exact keeps_pure _
  · split
    · exact keeps_pure _
    · refine keeps_bind (keeps_log _ _) fun _ => keeps_bind ?_ fun _ => keeps_pure _
      exact keeps_common fun _ => ⟨.storeSettings l _, _, rfl, trivial, trivial, trivial, rfl⟩

/-! ## Operations that call code -/

section Calling

variable {call : Caller σ} (hcall : ∀ p, D.code p → D.Keeps (call p))

include hcall

theorem keeps_react (l : ListenerId) (e : Event) : D.Keeps (react call l e) := by
  unfold react
  refine keeps_getStore_bind fun s => ?_
  split
  · exact keeps_get_bind fun w hw => hcall _ ((hw.listener l).onEvent e)
  · exact keeps_configureConsole _ e
  · exact keeps_configureLog e
  · exact keeps_configureWeb l _

/-- Once an event was handed to a listener, its code runs. -/
theorem path_handleEvent {l : ListenerId} {e : Event} {w : World σ} (hw : w.Obeys D.code) :
    Path D.allowed w.store.fresh ((Move.deliver l e).apply w) (handleEvent call l e w).2 := by
  have handed : ((Move.deliver l e).apply w).Obeys D.code := hw.apply trivial
  exact keeps_react hcall l e _ handed

theorem keeps_handleEvent {l : ListenerId} {e : Event} (h : D.allowed (.deliver l e)) :
    D.Keeps (handleEvent call l e) := by
  intro w hw
  have handed : Path D.allowed w.store.fresh w ((Move.deliver l e).apply w) :=
    .single trivial h (by simp [Move.turn?])
  exact handed.trans (path_handleEvent hcall hw)

theorem keeps_bindContext {l : ListenerId} {c : ContextId} (h : D.allowed (.bind l c)) :
    D.Keeps (bindContext call l c) := by
  have hrest : D.Keeps (do
      modifyListener l fun listener => { listener with bound := some c }
      let _ ← call (((← get).listenerCode.get l).onBind c)) := by
    refine keeps_bind ?_ fun _ => keeps_get_bind fun w hw => ?_
    · exact keeps_common fun _ => ⟨.tellContext l c, _, rfl, trivial, trivial, trivial, rfl⟩
    · exact keeps_bind (hcall _ ((hw.listener l).onBind c)) fun _ => keeps_pure _
  exact keeps_move_then fun _ => ⟨.bind l c, _, rfl, trivial, h, rfl, hrest⟩

theorem keeps_onFailure (policy : Policy) (l : ListenerId) (e : Event) (fault : Fault) :
    D.Keeps (onFailure call policy l e fault) := by
  unfold onFailure
  refine keeps_getStore_bind fun s => ?_
  cases policy with
  | failFast => exact keeps_bind (keeps_log _ _) fun _ => keeps_pure _
  | logging => exact keeps_bind (keeps_log _ _) fun _ => keeps_pure _
  | handler n =>
    refine keeps_bind (keeps_record trivial) fun _ => keeps_get_bind fun w hw => ?_
    exact keeps_bind (hcall _ (hw.handler n l e fault)) fun _ => keeps_pure _

/-- Once an event was handed to the first listener, its code runs and the delivery may go on. -/
theorem path_deliver (policy : Policy) {e : Event} {l : ListenerId} {rest : List ListenerId} {w : World σ}
    (hw : w.Obeys D.code) (hrest : D.Keeps (deliver call policy e rest)) :
    Path D.allowed w.store.fresh ((Move.deliver l e).apply w) (deliver call policy e (l :: rest) w).2 := by
  have handed : ((Move.deliver l e).apply w).Obeys D.code := hw.apply trivial
  have handled := path_handleEvent hcall (l := l) (e := e) hw
  rw [← Action.catching_snd] at handled
  rw [deliver, Action.bind_apply]
  rcases hact : catching (handleEvent call l e) w with ⟨stop | fault | _, m⟩ <;> rw [hact] at handled
  · exact handled
  · -- what the failure comes to decides whether the others are called
    have answered := keeps_onFailure hcall policy l e fault
    refine handled.trans (Path.weaken (keeps_bind answered ?_ m (handled.obeys handed)) (fun _ h => h)
      handled.fresh_le)
    rintro (error | _)
    · exact keeps_pure _
    · exact hrest
  · exact handled.trans ((hrest m (handled.obeys handed)).weaken (fun _ h => h) handled.fresh_le)

theorem keeps_deliver (policy : Policy) {e : Event} :
    ∀ ls : List ListenerId, (∀ l ∈ ls, D.allowed (.deliver l e)) → D.Keeps (deliver call policy e ls)
  | [], _ => keeps_pure _
  | l :: rest, h => by
    have hrest := keeps_deliver policy rest fun k hk => h k (List.mem_cons_of_mem _ hk)
    intro w hw
    have handed : Path D.allowed w.store.fresh w ((Move.deliver l e).apply w) :=
      .single trivial (h l (List.mem_cons_self ..)) (by simp [Move.turn?])
    exact handed.trans (path_deliver hcall policy hw hrest)

theorem keeps_multicast {ch : ChannelId} {e : Event} (h : ∀ l, D.allowed (.deliver l e)) :
    D.Keeps (multicast call ch e) :=
  keeps_getStore_bind fun _ => keeps_deliver hcall _ _ fun l _ => h l

theorem keeps_publish {c : ContextId} {e : Event} (h : ∀ l, D.allowed (.deliver l e)) :
    D.Keeps (publish call c e) := by
  unfold publish
  refine keeps_getStore_bind fun s => ?_
  dsimp only
  split
  · refine keeps_get_bind fun w hw => ?_
    exact keeps_bind (hcall _ ((hw.host c).publish e)) fun _ => keeps_pure _
  · split
    · exact keeps_pure _
    · exact keeps_multicast hcall h

theorem keeps_publishIsolated {c : ContextId} {e : Event} (h : ∀ l, D.allowed (.deliver l e)) :
    D.Keeps (publishIsolated call c e) := by
  unfold publishIsolated
  refine keeps_getStore_bind fun s => ?_
  split
  · refine keeps_get_bind fun w hw => ?_
    exact keeps_bind (hcall _ ((hw.host c).isolated e)) fun _ => keeps_pure _
  · exact keeps_deliver hcall _ _ fun l _ => h l

/-! ### Refreshing and closing -/

/-- One callback of a turn: it is called, and whatever it does the turn goes on behind it. -/
theorem path_callBack {turn : Nat} {c : ContextId} {callback : CallbackId} {rest : List CallbackId}
    {w : World σ} (hw : w.Obeys D.code) (howes : w.store.Owes turn c (callback :: rest))
    (lt : turn < w.store.fresh) :
    Path D.allowed turn w (callBack call turn c callback w).2 ∧
      (callBack call turn c callback w).2.store.Owes turn c rest := by
  let m := (Move.call turn c callback).apply w
  have hm : m.Obeys D.code := hw.apply trivial
  have howed : m.store.Owes turn c rest := by simpa [m] using howes.call
  have first : Path D.allowed turn w m :=
    .single ⟨rest, howes⟩ (D.common _ trivial trivial) (by simp [Move.turn?])
  have next := hcall _ (hm.callback callback) m hm
  exact ⟨first.trans (next.weaken (fun _ h => h) (by simp [m]; omega)),
    next.owes (by simp [m]; omega) howed⟩

/-- Callbacks of a turn that were called one after the other are all that the turn has called, and the
refreshes that ended meanwhile are nested in it. -/
theorem calls_course {turn : Nat} {c : ContextId} {w' : World σ} :
    ∀ {legs : List (Leg σ CallbackId (Except Fault Unit))} {w : World σ}, w.Obeys D.code →
      turn < w.store.fresh → Course (Calls call turn c) w legs w' →
      ∃ added, w'.store.history = w.store.history ++ added ∧
        calledIn turn added = legs.map (·.what) ∧ ∀ d, ∀ t ∈ endedIn d added, turn < t
  | [], w, _, _, hcourse => ⟨[], by rw [hcourse, List.append_nil], rfl, by simp [endedIn]⟩
  | leg :: rest, w, hw, lt, hcourse => by
    obtain ⟨rfl, hcalls, hrest⟩ := hcourse
    let m := (Move.call turn c leg.what).apply leg.start
    have hm : m.Obeys D.code := hw.apply trivial
    have path : Path D.allowed m.store.fresh m leg.finish := by
      have next := hcall _ (hm.callback leg.what) m hm
      have heq : call (m.callbackCode.get leg.what) m = (.ok leg.result, leg.finish) := hcalls
      rwa [heq] at next
    have lt' : turn < m.store.fresh := lt
    obtain ⟨more, hmore, hnone⟩ := path.history
    obtain ⟨added, hadded, hcalled, hended⟩ := calls_course (path.obeys hm)
      (Nat.lt_of_lt_of_le lt' path.fresh_le) hrest
    refine ⟨[.called turn c leg.what] ++ more ++ added, ?_, ?_, fun d t ht => ?_⟩
    · simp [hadded, hmore, m, Move.entries]
    · rw [calledIn_append, calledIn_append, hcalled, hnone turn lt']
      simp [calledIn, Entry.calledIn?]
    · rw [endedIn_append] at ht
      rcases List.mem_append.1 ht with ht | ht
      · exact Nat.lt_of_lt_of_le lt' (path.ended hmore t (by simpa [endedIn, Entry.ended?] using ht))
      · exact hended d t ht

theorem path_runCallbacks {turn : Nat} {c : ContextId} :
    ∀ (callbacks : List CallbackId) (w : World σ), w.Obeys D.code →
      w.store.Owes turn c callbacks → turn < w.store.fresh →
      Path D.allowed turn w (runCallbacks call turn c callbacks w).2
  | [], w, _, _, _ => .refl w
  | callback :: rest, w, hw, howes, lt => by
    obtain ⟨path, howed⟩ := path_callBack hcall hw howes lt
    unfold runCallbacks
    rw [Action.bind_apply]
    rcases hact : callBack call turn c callback w with ⟨_ | _ | _, m⟩ <;>
      rw [hact] at path howed <;> try exact path
    exact path.trans (path_runCallbacks rest m (path.obeys hw) howed
      (Nat.lt_of_lt_of_le lt path.fresh_le))

theorem path_runHooks {turn : Nat} {c : ContextId} :
    ∀ (hooks : List CallbackId) (w : World σ), w.Obeys D.code →
      w.store.Owes turn c hooks → turn < w.store.fresh →
      Path D.allowed turn w (runHooks call turn c hooks w).2
  | [], w, _, _, _ => .refl w
  | hook :: rest, w, hw, howes, lt => by
    obtain ⟨path, howed⟩ := path_callBack hcall hw howes lt
    unfold runHooks
    rw [Action.bind_apply]
    rcases hact : callBack call turn c hook w with ⟨_ | fault | _, m⟩ <;>
      rw [hact] at path howed
    · exact path
    · -- the failure is logged before the next hook
      let logged := Move.record (σ := σ)
        (.logged .error ("Shutdown hook failed: " ++ fault.chainMessage))
      have log : Path D.allowed m.store.fresh m (logged.apply m) :=
        .single trivial (D.common _ trivial trivial) (by simp [logged, Move.turn?])
      have lt' : turn < m.store.fresh := Nat.lt_of_lt_of_le lt path.fresh_le
      have both := path.trans (log.weaken (fun _ h => h) (Nat.le_of_lt lt'))
      exact both.trans (path_runHooks rest _ (both.obeys hw) (log.owes lt' howed)
        (Nat.lt_of_lt_of_le lt' log.fresh_le))
    · exact path.trans (path_runHooks rest m (path.obeys hw) howed
        (Nat.lt_of_lt_of_le lt path.fresh_le))

omit hcall in
theorem path_endRefresh {turn : Nat} {c : ContextId} {callbacks : List CallbackId}
    (result : Except Fault Unit) {w : World σ} (hunder : w.store.UnderWay turn c callbacks) :
    Path D.allowed turn w (endRefresh turn c callbacks result w).2 := by
  rw [endRefresh_apply]
  have enabled : (Move.endRefresh (σ := σ) turn c callbacks result).Enabled w.store := by
    cases result <;> exact hunder
  have ok : D.allowed (Move.endRefresh turn c callbacks result) := by
    cases result <;> exact D.common _ trivial trivial
  have own : (Move.endRefresh (σ := σ) turn c callbacks result).turn? = some turn := by
    cases result <;> rfl
  exact .single enabled ok (by simp [own])

theorem keeps_refresh (c : ContextId) : D.Keeps (refresh call c) := by
  intro w hw
  by_cases hosted : (w.store.context c).hosted = none
  case neg => rw [refresh_hosted hosted]; exact .refl w
  by_cases state : (w.store.context c).state = .created
  case neg => rw [refresh_refused hosted state]; exact .refl w
  rw [refresh_created hosted state]
  generalize "Refreshing application context '" ++ (w.store.context c).name ++ "'" = text
  let logged := (Move.record (.logged .info text)).apply w
  let m := (Move.beginRefresh c).apply logged
  have begun : Path D.allowed w.store.fresh w m :=
    .snoc _ (.single trivial (D.common _ trivial trivial) (by simp [Move.turn?]))
      ⟨hosted, state⟩ (D.common _ trivial trivial) (by simp [Move.turn?])
  have history : m.store.history =
      logged.store.history ++ [.refreshing w.store.fresh c (w.store.context c).callbacks] := by
    simp only [m, Move.apply_store, Move.history_applyStore]
    rfl
  have lt : w.store.fresh < m.store.fresh := Nat.lt_succ_self w.store.fresh
  have ran := path_runCallbacks hcall _ m (begun.obeys hw) (.of_opening (.inl rfl) history) lt
  refine begun.trans ?_
  rw [Action.bind_apply]
  rcases hrun : runCallbacks call _ c _ m with ⟨_ | result, m'⟩ <;> rw [hrun] at ran
  · exact ran
  · obtain ⟨legs, gone⟩ := runCallbacks_iff.1 hrun
    obtain ⟨added, hadded, -, nested⟩ := calls_course hcall (begun.obeys hw) lt gone.course
    have under : m'.store.UnderWay w.store.fresh c (w.store.context c).callbacks :=
      ⟨logged.store.history, added, by simp [hadded, history], nested c⟩
    exact ran.trans (path_endRefresh result under)

/-- Once a context became closed, its hooks run. -/
theorem path_close {c : ContextId} {w : World σ} (hw : w.Obeys D.code)
    (hosted : (w.store.context c).hosted = none) (state : (w.store.context c).state ≠ .closed) :
    Path D.allowed w.store.fresh ((Move.beginClosing c).apply w) (close call c w).2 := by
  rw [close_apply hosted state]
  generalize "Closing application context '" ++ (w.store.context c).name ++ "'" = text
  let closed := (Move.beginClosing c).apply w
  let m := (Move.record (.logged .info text)).apply closed
  have hclosed : closed.Obeys D.code := hw.apply trivial
  have log : Path D.allowed closed.store.fresh closed m :=
    .single trivial (D.common _ trivial trivial) (by simp [Move.turn?])
  have lt : w.store.fresh < closed.store.fresh := Nat.lt_succ_self w.store.fresh
  have history : closed.store.history =
      w.store.history ++ [.closing w.store.fresh c (w.store.context c).hooks] := by
    simp only [closed, Move.apply_store, Move.history_applyStore]
    rfl
  have howes : closed.store.Owes w.store.fresh c (w.store.context c).hooks :=
    .of_opening (.inr rfl) history
  have logged := log.weaken (fun _ h => h) (Nat.le_of_lt lt)
  exact logged.trans (path_runHooks hcall _ m (log.obeys hclosed) (log.owes lt howes) lt)

theorem keeps_close (c : ContextId) : D.Keeps (close call c) := by
  intro w hw
  by_cases hosted : (w.store.context c).hosted = none
  case neg => rw [close_idle (.inl hosted)]; exact .refl w
  by_cases state : (w.store.context c).state = .closed
  case pos => rw [close_idle (.inr state)]; exact .refl w
  have begun : Path D.allowed w.store.fresh w ((Move.beginClosing c).apply w) :=
    .single ⟨hosted, state⟩ (D.common _ trivial trivial) (by simp [Move.turn?])
  exact begun.trans (path_close hcall hw hosted state)

/-! ### Announcing -/

theorem keeps_attachListeners {c : ContextId} (h : ∀ l, D.allowed (.bind l c)) :
    ∀ ls : List ListenerId, D.Keeps (attachListeners call c ls)
  | [] => keeps_pure _
  | l :: rest => by
    have hrest := keeps_attachListeners h rest
    unfold attachListeners
    refine keeps_getStore_bind fun s => ?_
    have hjoin : D.Keeps (addListener c l >>= fun _ => attachListeners call c rest) :=
      keeps_bind (keeps_addListener c l) fun _ => hrest
    dsimp only
    split
    · exact keeps_bind (keeps_bindContext hcall (h l)) fun _ => hjoin
    · exact hjoin

/-- Once a phase was entered, those are told of it whom it concerns. -/
theorem path_announce {a : AnnouncerId} {what : Announcement} {w : World σ} (hw : w.Obeys D.code)
    (h : AllowsAnnouncing D.allowed what.phase)
    (next : Phase.expectedAfter (w.store.announcer a).last = some what.phase) :
    Path D.allowed w.store.fresh ((Move.enter a what.phase).apply w) (announce call a what w).2 := by
  have entered : ((Move.enter a what.phase).apply w).Obeys D.code := hw.apply trivial
  unfold announce
  rw [Action.bind_apply, advance_apply, if_pos next]
  dsimp only
  rw [Action.getStore_bind_apply]
  generalize hs : ((Move.enter a what.phase).apply w).store = s
  have hdeliver : ∀ l, D.allowed (.deliver l ((s.announcer a).event what)) := fun l =>
    h.deliver l _ (Announcer.event_phase ..)
  cases what with
  | starting | environmentPrepared _ | contextPrepared _ =>
    exact keeps_multicast hcall hdeliver _ entered
  | contextLoaded c =>
    have attach := keeps_attachListeners hcall (fun l => h.bind rfl l c)
      (s.announcer a).application.listeners
    exact keeps_bind attach (fun _ => keeps_publish hcall hdeliver) _ entered
  | started _ | running _ => exact keeps_publish hcall hdeliver _ entered

theorem keeps_announce {a : AnnouncerId} {what : Announcement}
    (h : AllowsAnnouncing D.allowed what.phase) : D.Keeps (announce call a what) := by
  intro w hw
  by_cases next : Phase.expectedAfter (w.store.announcer a).last = some what.phase
  · have entered : Path D.allowed w.store.fresh w ((Move.enter a what.phase).apply w) :=
      .single (Or.inr next) (h.enter a) (by simp [Move.turn?])
    exact entered.trans (path_announce hcall hw h next)
  · rw [announce_refused next]
    exact .refl w

/-! ### Failures -/

omit hcall in
theorem keeps_adoptListeners {ch : ChannelId} (h : ∀ l, D.allowed (.register ch l)) :
    ∀ c : Option ContextId, D.Keeps (adoptListeners ch c)
  | none => keeps_pure _
  | some c => by
    refine keeps_getStore_bind fun s => ?_
    dsimp only
    generalize List.filter _ _ = ls
    induction ls with
    | nil => exact keeps_pure _
    | cons l rest ih => exact keeps_bind (keeps_register (h l)) fun _ => ih

theorem keeps_reportFailure {ch : ChannelId} (c : Option ContextId) {e : Event}
    (hdeliver : ∀ l, D.allowed (.deliver l e)) (hregister : ∀ l, D.allowed (.register ch l))
    (hpolicy : D.allowed (.setPolicy ch .logging)) : D.Keeps (reportFailure call ch c e) := by
  have hfailure : D.Keeps (deliverFailure call ch c e) := by
    unfold deliverFailure
    refine keeps_getStore_bind fun s => ?_
    split
    · exact keeps_publishIsolated hcall hdeliver
    · refine keeps_bind (keeps_adoptListeners hregister c) fun _ => ?_
      exact keeps_bind (keeps_setPolicy hpolicy) fun _ => keeps_multicast hcall hdeliver
  unfold reportFailure
  refine keeps_bind hfailure ?_
  rintro (error | _)
  · exact keeps_log _ _
  · exact keeps_pure _

/-- Once the failure was entered, it is reported. -/
theorem path_announceFailure {a : AnnouncerId} (c : Option ContextId) (cause : Cause) {w : World σ}
    (hw : w.Obeys D.code) (h : ∀ e, e.phase = .failed → AllowsReporting D.allowed e)
    (first : (w.store.announcer a).last ≠ some .failed) :
    Path D.allowed w.store.fresh ((Move.enter a .failed).apply w)
      (announceFailure call a c cause w).2 := by
  have entered : ((Move.enter a .failed).apply w).Obeys D.code := hw.apply trivial
  rw [announceFailure_apply, if_neg first]
  have report := h (.failed (w.store.announcer a).application (w.store.announcer a).args c cause) rfl
  exact keeps_reportFailure hcall c report.deliver (report.register a) (report.setPolicy a) _ entered

theorem keeps_announceFailure {a : AnnouncerId} {c : Option ContextId} {cause : Cause}
    (henter : D.allowed (.enter a .failed))
    (h : ∀ e, e.phase = .failed → AllowsReporting D.allowed e) :
    D.Keeps (announceFailure call a c cause) := by
  intro w hw
  by_cases first : (w.store.announcer a).last = some .failed
  · rw [announceFailure_apply, if_pos first]
    exact keeps_log .warn _ w hw
  · have entered : Path D.allowed w.store.fresh w ((Move.enter a .failed).apply w) :=
      .single (Or.inl ⟨rfl, first⟩) henter (by simp [Move.turn?])
    exact entered.trans (path_announceFailure hcall c cause hw h first)

end Calling

end Discipline

end Startup
