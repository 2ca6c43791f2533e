/-
Whom the failure of a run reaches. While only quiet code runs, the failure event is handed to the
listeners that the state of the context decides on, each once, whatever the others do: to those of
an active context, or else to those of the application and of the context.
-/
import Startup.Proofs.Quiet

namespace Startup

variable {σ : Type}

/-! ## Receiving events of a phase -/

/-- From one world to another exactly these listeners are handed events of a phase, in order. -/
def Receives (p : Phase) (ls : List ListenerId) (w w' : World σ) : Prop :=
  ∃ added, w'.store.history = w.store.history ++ added ∧ receivers p added = ls

namespace Receives

variable {p : Phase} {ls ls' : List ListenerId} {w m w' : World σ}

theorem refl (w : World σ) : Receives p [] w w := ⟨[], by simp, rfl⟩

theorem trans (h₁ : Receives p ls w m) (h₂ : Receives p ls' m w') : Receives p (ls ++ ls') w w' := by
  obtain ⟨added₁, hadded₁, rfl⟩ := h₁
  obtain ⟨added₂, hadded₂, rfl⟩ := h₂
  exact ⟨added₁ ++ added₂, by simp [hadded₁, hadded₂], receivers_append ..⟩

/-- What has happened in between decides who received. -/
theorem receivers_eq (h : Receives p ls w w') {added : List Entry}
    (history : w'.store.history = w.store.history ++ added) : receivers p added = ls := by
  obtain ⟨added', history', rfl⟩ := h
  rw [history] at history'
  rw [List.append_cancel_left history']

/-- A move that hands nobody an event of the phase. -/
theorem move (move : Move σ) (w : World σ) (h : receivers p (move.entries w.store) = []) :
    Receives p [] w (move.apply w) :=
  ⟨move.entries w.store, by simp, h⟩

/-- Where no event of the phase may be handed out, none is. -/
theorem of_undelivered {allowed : Move σ → Prop} {first : Nat} (h : Path allowed first w w')
    (never : ∀ l e, allowed (.deliver l e) → e.phase ≠ p) : Receives p [] w w' := by
  induction h with
  | refl => exact .refl w
  | @snoc m move _ enabled ok since ih =>
    have none : receivers p (move.entries m.store) = [] := by
      clear since
      cases move <;> try rfl
      case record e => cases e <;> first | rfl | exact enabled.elim
      case deliver l e => simp [Move.entries, receivers, Entry.receiver?, never l e ok]
    exact ih.trans (.move move m none)

/-- Other phases are none of this one's business. -/
theorem of_path {P : Phase → Prop} {first : Nat} (h : Path (Discipline.quiet P).allowed first w w')
    (other : ¬ P p) : Receives p [] w w' :=
  .of_undelivered h fun _ _ ok he => other (he ▸ ok)

theorem none_trans (h₁ : Receives p [] w m) (h₂ : Receives p ls m w') : Receives p ls w w' :=
  h₁.trans h₂

theorem trans_none (h₁ : Receives p ls w m) (h₂ : Receives p [] m w') : Receives p ls w w' := by
  have h := h₁.trans h₂
  rwa [List.append_nil] at h

end Receives

/-- From one world to another the first of these listeners are handed events of a phase, in order, and
all of them if what was done ended well. -/
def Hands (p : Phase) (ls : List ListenerId) (ended : Prop) (w w' : World σ) : Prop :=
  ∃ heard, heard <+: ls ∧ Receives p heard w w' ∧ (ended → heard = ls)

namespace Hands

variable {p : Phase} {l : ListenerId} {ls : List ListenerId} {ended ended' : Prop} {w m w' : World σ}

theorem none (h : Receives p [] w w') (stopped : ¬ ended) : Hands p ls ended w w' :=
  ⟨[], List.nil_prefix, h, fun e => absurd e stopped⟩

theorem nil (h : Receives p [] w w') : Hands p [] ended w w' :=
  ⟨[], List.nil_prefix, h, fun _ => rfl⟩

theorem cons (h₁ : Receives p [l] w m) (h₂ : Hands p ls ended m w') :
    Hands p (l :: ls) ended w w' := by
  obtain ⟨heard, hprefix, received, all⟩ := h₂
  exact ⟨l :: heard, List.cons_prefix_cons.2 ⟨rfl, hprefix⟩, h₁.trans received,
    fun e => congrArg (l :: ·) (all e)⟩

theorem none_trans (h₁ : Receives p [] w m) (h₂ : Hands p ls ended m w') : Hands p ls ended w w' := by
  obtain ⟨heard, hprefix, received, all⟩ := h₂
  exact ⟨heard, hprefix, h₁.none_trans received, all⟩

theorem trans_none (h₁ : Hands p ls ended w m) (h₂ : Receives p [] m w') :
    Hands p ls ended w w' := by
  obtain ⟨heard, hprefix, received, all⟩ := h₁
  exact ⟨heard, hprefix, received.trans_none h₂, all⟩

theorem imp (h : Hands p ls ended w w') (only : ended' → ended) : Hands p ls ended' w w' := by
  obtain ⟨heard, hprefix, received, all⟩ := h
  exact ⟨heard, hprefix, received, fun e => all (only e)⟩

theorem receives (h : Hands p ls ended w w') (e : ended) : Receives p ls w w' := by
  obtain ⟨heard, -, received, all⟩ := h
  exact all e ▸ received

end Hands

/-! ## Delivering -/

section Delivery

variable {call : Caller σ} (hcall : ∀ p : Program σ, p.Quiet → Discipline.silent.Keeps (call p))

include hcall

theorem keeps_within (P : Phase → Prop) (p : Program σ) (hp : p.Quiet) :
    (Discipline.within P).Keeps (call p) := fun w hw =>
  (hcall p hp w hw).within_of_silent

/-- One listener is handed an event, whatever it makes of it. -/
theorem receives_handleEvent (l : ListenerId) (e : Event) {w : World σ} (hw : w.Obeys Program.Quiet) :
    Receives e.phase [l] w (handleEvent call l e w).2 ∧
      (handleEvent call l e w).2.Obeys Program.Quiet := by
  have path := Discipline.path_handleEvent (D := Discipline.silent) hcall (l := l) (e := e) hw
  have handed : Receives e.phase [l] w ((Move.deliver l e).apply w) :=
    ⟨[.delivered l e], by simp [Move.entries], by simp [receivers, Entry.receiver?]⟩
  have obeys : ((Move.deliver l e).apply w).Obeys Program.Quiet := hw.apply trivial
  exact ⟨handed.trans_none (.of_path path fun h => h), path.obeys obeys⟩

/-- The first listeners are handed the event, and all of them if the delivery ends well. -/
theorem hands_deliver (policy : Policy) (e : Event) :
    ∀ (ls : List ListenerId) {w : World σ}, w.Obeys Program.Quiet →
      Hands e.phase ls ((deliver call policy e ls w).1 = .ok (.ok ())) w
        (deliver call policy e ls w).2
  | [], w, _ => .nil (.refl w)
  | l :: rest, w, hw => by
    obtain ⟨received, obeys⟩ := receives_handleEvent hcall l e hw
    rw [← Action.catching_snd] at received obeys
    rw [deliver, Action.bind_apply]
    rcases hact : catching (handleEvent call l e) w with ⟨stop | fault | _, m⟩ <;>
      rw [hact] at received obeys
    · exact .cons received (.none (.refl m) (by simp))
    · -- the failure is answered, and the delivery may go on
      have path := Discipline.keeps_onFailure (D := Discipline.silent) hcall policy l e fault m obeys
      dsimp only
      rw [Action.bind_apply]
      rcases hfailure : onFailure call policy l e fault m with ⟨stop | error | _, n⟩ <;>
        rw [hfailure] at path <;> have answered := Receives.of_path (p := e.phase) path fun h => h
      · exact .cons received (.none answered (by simp))
      · exact .cons received (.none answered (by simp))
      · exact .cons received (.none_trans answered (hands_deliver policy e rest (path.obeys obeys)))
    · exact .cons received (hands_deliver policy e rest obeys)

omit hcall in
/-- Where failures are logged, no delivery ends with one. -/
theorem deliver_logging_ok (e : Event) {r : Except StartupError Unit} {w' : World σ} :
    ∀ {ls : List ListenerId} {w : World σ}, deliver call .logging e ls w = (.ok r, w') → r = .ok ()
  | [], w, h => (Action.pure_eq_ok.1 h).1
  | l :: rest, w, h => by
    rw [deliver] at h
    obtain ⟨result, m, -, h⟩ := Action.bind_eq_ok.1 h
    rcases result with fault | _
    · obtain ⟨s, n, hfailure, h⟩ := Action.bind_eq_ok.1 h
      obtain rfl : s = .ok () := (Except.ok.inj (Prod.mk.inj hfailure).1).symm
      exact deliver_logging_ok e h
    · exact deliver_logging_ok e h

end Delivery

/-! ## The audience of a failure -/

/-- The listeners of a context that a channel does not have. -/
def Store.adopted (s : Store) (ch : ChannelId) (c : Option ContextId) : List ListenerId :=
  (c.elim [] s.listenersOf).filter fun l => !(s.channel ch).listeners.contains l

/-- Those who hear of a failure that is reported through a channel. -/
def Store.audience (s : Store) (ch : ChannelId) (c : Option ContextId) : List ListenerId :=
  match s.active? c with
  | some active => s.listenersOf active
  | none => (s.channel ch).listeners ++ s.adopted ch c

/-- The context is active, and a listener is not among its own. -/
def Store.Misses (s : Store) (c : Option ContextId) (l : ListenerId) : Prop :=
  ∃ x ∈ c, (s.context x).isActive = true ∧ l ∉ s.listenersOf x

/-- Of the listeners of the channel those hear of a failure that the context does not miss. -/
theorem mem_audience {s : Store} {ch : ChannelId} {c : Option ContextId} {l : ListenerId}
    (known : l ∈ (s.channel ch).listeners) : l ∈ s.audience ch c ↔ ¬ s.Misses c l := by
  have misses : s.Misses c l ↔ ∃ x, s.active? c = some x ∧ l ∉ s.listenersOf x := by
    simp only [Store.Misses, Store.active?, Option.filter_eq_some_iff, and_assoc]
    rfl
  unfold Store.audience
  rw [misses]
  rcases s.active? c with _ | active
  · simp [known]
  · simp

/-- What is handed to the audience is handed to a listener of the channel once or not at all. -/
theorem count_audience {s : Store} {ch : ChannelId} {c : Option ContextId} {l : ListenerId} {p : Phase}
    (known : l ∈ (s.channel ch).listeners) (once : (s.audience ch c).Nodup)
    (listens : (s.listener l).supports p = true) :
    (¬ s.Misses c l → (s.supporting p (s.audience ch c)).count l = 1) ∧
      (s.Misses c l → (s.supporting p (s.audience ch c)).count l = 0) := by
  have heard : l ∈ s.supporting p (s.audience ch c) ↔ ¬ s.Misses c l := by
    rw [Store.supporting, List.mem_filter, mem_audience known]
    simp [listens]
  constructor
  · intro reached
    have atMost : (s.supporting p (s.audience ch c)).count l ≤ 1 :=
      List.nodup_iff_count.1 (once.filter _) l
    have := List.count_pos_iff.2 (heard.2 reached)
    omega
  · intro missed
    exact List.count_eq_zero.2 fun hmem => heard.1 hmem missed

/-- Nobody hears of a failure twice. -/
theorem nodup_audience {s : Store} {ch : ChannelId} {c : Option ContextId}
    (known : (s.channel ch).listeners.Nodup) (own : ∀ d ∈ c, (s.listenersOf d).Nodup) :
    (s.audience ch c).Nodup := by
  unfold Store.audience
  rcases hactive : s.active? c with _ | active
  · cases c with
    | none => simpa [Store.adopted] using known
    | some d =>
      refine List.nodup_append.2 ⟨known, (own d rfl).filter _, fun k hk j hj hkj => ?_⟩
      obtain ⟨-, hnew⟩ := List.mem_filter.1 hj
      simp [← hkj, hk] at hnew
  · exact own active (Option.filter_eq_some_iff.1 hactive).1

/-! ## Getting ready -/

/-- Another channel in place of one. -/
def World.setChannel (w : World σ) (ch : ChannelId) (channel : Channel) : World σ :=
  { w with store := { w.store with channels := w.store.channels.set ch channel } }

theorem World.channel_setChannel (w : World σ) (ch : ChannelId) (channel : Channel) :
    (w.setChannel ch channel).store.channel ch = channel := by
  simp [World.setChannel, Store.channel]

theorem World.setChannel_setChannel (w : World σ) (ch : ChannelId) (a b : Channel) :
    (w.setChannel ch a).setChannel ch b = w.setChannel ch b := by
  simp only [World.setChannel, Table.set_set]

/-- A failure is about to be handed out: without an active context, the channel has adopted the
listeners of the context and logs failures. -/
def World.readied (w : World σ) (ch : ChannelId) (c : Option ContextId) : World σ :=
  match w.store.active? c with
  | some _ => w
  | none => w.setChannel ch
    { listeners := (w.store.channel ch).listeners ++ w.store.adopted ch c, policy := .logging }

theorem Receives.readied {p : Phase} (w : World σ) (ch : ChannelId) (c : Option ContextId) :
    Receives p [] w (w.readied ch c) := by
  unfold World.readied
  split
  · exact .refl w
  · exact ⟨[], (List.append_nil _).symm, rfl⟩

theorem World.Obeys.readied {code : Program σ → Prop} {w : World σ} (h : w.Obeys code) (ch : ChannelId)
    (c : Option ContextId) : (w.readied ch c).Obeys code := by
  unfold World.readied
  split
  · exact h
  · exact ⟨h.listener, h.callback, h.handler, h.host, h.defaults⟩

theorem forM_register_setPolicy (ch : ChannelId) :
    ∀ (ls : List ListenerId) (w : World σ), ∃ m, ls.forM (register ch) w = (.ok (), m) ∧
      (Move.setPolicy ch .logging).apply m = w.setChannel ch
        { listeners := (w.store.channel ch).listeners ++ ls, policy := .logging }
  | [], w => by
    refine ⟨w, rfl, ?_⟩
    rw [List.append_nil]
    rfl
  | l :: rest, w => by
    obtain ⟨m, hm, hset⟩ := forM_register_setPolicy ch rest ((Move.register ch l).apply w)
    refine ⟨m, ?_, ?_⟩
    · show (register ch l >>= fun _ => rest.forM (register ch)) w = _
      rw [Action.bind_apply]
      exact hm
    · have joined : (Move.register ch l).apply w = w.setChannel ch
          { w.store.channel ch with listeners := (w.store.channel ch).listeners ++ [l] } := rfl
      rw [hset, joined, World.setChannel_setChannel, World.channel_setChannel, List.append_assoc]
      rfl

theorem adoptListeners_setPolicy (ch : ChannelId) (c : Option ContextId) (w : World σ) :
    ∃ m, adoptListeners ch c w = (.ok (), m) ∧
      (Move.setPolicy ch .logging).apply m = w.setChannel ch
        { listeners := (w.store.channel ch).listeners ++ w.store.adopted ch c, policy := .logging } := by
  cases c with
  | none => exact forM_register_setPolicy ch [] w
  | some d => exact forM_register_setPolicy ch (w.store.adopted ch (some d)) w

/-! ## The two ways -/

section Ways

variable {call : Caller σ} {ch : ChannelId} {c : Option ContextId} {e : Event} {w : World σ}

/-- An active context hands the failure to its listeners itself. -/
theorem deliverFailure_active {active : ContextId} (hactive : w.store.active? c = some active)
    (own : (w.store.context active).hosted = none) :
    deliverFailure call ch c e w =
      deliver call .logging e (w.store.supporting e.phase (w.store.listenersOf active)) w := by
  unfold deliverFailure
  rw [Action.getStore_bind_apply, hactive]
  show (if _ then _ else _ : Action σ _) w = _
  rw [own]
  rfl

/-- Without an active context the channel does, once it has adopted the listeners of the context. -/
theorem deliverFailure_early {m : World σ} (inactive : w.store.active? c = none)
    (adopted : adoptListeners ch c w = (.ok (), m)) :
    deliverFailure call ch c e w =
      deliver call .logging e (m.store.supporting e.phase (m.store.channel ch).listeners)
        ((Move.setPolicy ch .logging).apply m) := by
  unfold deliverFailure
  rw [Action.getStore_bind_apply, inactive]
  dsimp only
  rw [Action.bind_apply, adopted]
  show deliver call (((Move.setPolicy ch .logging).apply m).store.channel ch).policy e
    (((Move.setPolicy ch .logging).apply m).store.supporting e.phase
      (((Move.setPolicy ch .logging).apply m).store.channel ch).listeners) _ = _
  rw [Move.apply_store, Move.channel_applyStore]
  simp only [if_pos]
  rfl

/-- On either way the failure is delivered to the audience, with failures logged. -/
theorem deliverFailure_eq (own : ∀ d ∈ w.store.active? c, (w.store.context d).hosted = none) :
    deliverFailure call ch c e w =
      deliver call .logging e (w.store.supporting e.phase (w.store.audience ch c)) (w.readied ch c) := by
  unfold Store.audience World.readied
  rcases hactive : w.store.active? c with _ | active
  · obtain ⟨m, hadopt, hset⟩ := adoptListeners_setPolicy ch c w
    have channel : (m.store.channel ch).listeners =
        (w.store.channel ch).listeners ++ w.store.adopted ch c := by
      have h := congrArg (fun n => (n.store.channel ch).listeners) hset
      simpa only [Move.apply_store, Move.channel_applyStore, if_pos, World.channel_setChannel] using h
    have listeners : m.store.listeners = w.store.listeners := congrArg (·.store.listeners) hset
    have same : m.store.supporting e.phase (m.store.channel ch).listeners =
        w.store.supporting e.phase ((w.store.channel ch).listeners ++ w.store.adopted ch c) := by
      rw [channel]
      unfold Store.supporting Store.listener
      rw [listeners]
    rw [deliverFailure_early hactive hadopt, hset, same]
  · exact deliverFailure_active hactive (own active hactive)

end Ways

/-! ## Reporting -/

section Reporting

variable {call : Caller σ} (hcall : ∀ p : Program σ, p.Quiet → Discipline.silent.Keeps (call p))
  (ch : ChannelId) (c : Option ContextId) (e : Event) {w : World σ}

include hcall

/-- The audience is handed the event, as far as it listens to its phase. -/
theorem hands_deliverFailure (hw : w.Obeys Program.Quiet)
    (own : ∀ d ∈ c, (w.store.context d).hosted = none) :
    Hands e.phase (w.store.supporting e.phase (w.store.audience ch c))
      (∃ r, (deliverFailure call ch c e w).1 = .ok r) w (deliverFailure call ch c e w).2 := by
  rw [deliverFailure_eq fun d hd => own d (Option.filter_eq_some_iff.1 hd).1]
  refine .none_trans (.readied w ch c) ((hands_deliver hcall .logging e _ (hw.readied ch c)).imp ?_)
  -- where failures are logged, the delivery ends well if it ends
  rintro ⟨r, hr⟩
  rw [hr, deliver_logging_ok e (Prod.ext hr rfl)]

theorem hands_reportFailure (hw : w.Obeys Program.Quiet)
    (own : ∀ d ∈ c, (w.store.context d).hosted = none) :
    Hands e.phase (w.store.supporting e.phase (w.store.audience ch c))
      ((reportFailure call ch c e w).1 = .ok ()) w (reportFailure call ch c e w).2 := by
  have handed := hands_deliverFailure hcall ch c e hw own
  unfold reportFailure
  rw [Action.bind_apply]
  rcases hact : deliverFailure call ch c e w with ⟨stop | r, m⟩ <;> rw [hact] at handed
  · exact handed.imp (by simp)
  · have ended := handed.imp fun _ : True => ⟨r, rfl⟩
    rcases r with error | _
    · refine (ended.trans_none ?_).imp fun _ => trivial
      exact .move (.record (.logged .warn ("Error publishing failure event: " ++ error.message))) m rfl
    · exact ended.imp fun _ => trivial

omit ch e in
/-- The first failure that an announcer announces is handed to the audience. -/
theorem hands_announceFailure {a : AnnouncerId} (cause : Cause) (hw : w.Obeys Program.Quiet)
    (own : ∀ d ∈ c, (w.store.context d).hosted = none)
    (first : (w.store.announcer a).last ≠ some .failed) :
    Hands .failed (w.store.supporting .failed (w.store.audience (.early a) c))
      ((announceFailure call a c cause w).1 = .ok ()) w (announceFailure call a c cause w).2 := by
  rw [announceFailure_apply, if_neg first]
  have entered : Receives .failed [] w ((Move.enter a .failed).apply w) := .move _ w rfl
  have obeys : ((Move.enter a .failed).apply w).Obeys Program.Quiet := hw.apply trivial
  have reported := hands_reportFailure hcall (.early a) c
    (.failed (w.store.announcer a).application (w.store.announcer a).args c cause) obeys own
  exact .none_trans entered reported

end Reporting

/-! ## The end of a failed run -/

/-- What is left of a failed run when its observers have been told. -/
def Application.afterReports (call : Caller σ) (c : Option ContextId) (cause : Cause) :
    Action σ StartupError := do
  if let some c := c then Startup.close call c
  return Application.outcome (← getStore) cause

theorem keeps_afterReports {call : Caller σ}
    (hcall : ∀ p : Program σ, p.Quiet → Discipline.silent.Keeps (call p)) (c : Option ContextId)
    (cause : Cause) : Discipline.silent.Keeps (Application.afterReports call c cause) := by
  have outcome : Discipline.silent.Keeps
      (return Application.outcome (← getStore) cause : Action σ StartupError) :=
    Discipline.keeps_getStore_bind fun _ => Discipline.keeps_pure _
  unfold Application.afterReports
  cases c with
  | none => exact outcome
  | some c => exact Discipline.keeps_bind (Discipline.keeps_close hcall c) fun _ => outcome

/-- The world in which the one observer of a failed run is told. -/
def World.reporting (w : World σ) (c : Option ContextId) (error : StartupError) : World σ :=
  (Move.record (.reported 0 c ⟨w.store.fresh, error⟩)).apply (Move.takeNumber.apply
    ((Move.record (.logged .error ("Application run failed: " ++ error.chainMessage))).apply w))

section Failing

variable (w : World σ) (c : Option ContextId) (error : StartupError)

/-- Only the journal and the next number are others then. -/
theorem World.store_reporting : ∃ journal fresh,
    (w.reporting c error).store = { w.store with journal, fresh } :=
  ⟨_, _, rfl⟩

theorem World.context_reporting (x : ContextId) :
    (w.reporting c error).store.context x = w.store.context x := by
  obtain ⟨journal, fresh, h⟩ := w.store_reporting c error
  rw [h]
  rfl

theorem World.announcer_reporting (a : AnnouncerId) :
    (w.reporting c error).store.announcer a = w.store.announcer a := by
  obtain ⟨journal, fresh, h⟩ := w.store_reporting c error
  rw [h]
  rfl

/-- Who hears of the failure is the same. -/
theorem World.supporting_reporting (p : Phase) (ch : ChannelId) :
    (w.reporting c error).store.supporting p ((w.reporting c error).store.audience ch c) =
      w.store.supporting p (w.store.audience ch c) := by
  obtain ⟨journal, fresh, h⟩ := w.store_reporting c error
  rw [h]
  rfl

theorem World.Obeys.reporting {code : Program σ → Prop} {w : World σ} (hw : w.Obeys code) :
    (w.reporting c error).Obeys code := by
  have logged : ((Move.record (.logged .error
      ("Application run failed: " ++ error.chainMessage))).apply w).Obeys code := hw.apply trivial
  have numbered : (Move.takeNumber.apply ((Move.record (.logged .error
      ("Application run failed: " ++ error.chainMessage))).apply w)).Obeys code := logged.apply trivial
  unfold World.reporting
  exact numbered.apply trivial

end Failing

theorem fail_apply {call : Caller σ} (a : AnnouncerId) (c : Option ContextId) (error : StartupError)
    (w : World σ) :
    Application.fail call [.announcer a] c error w =
      (announceFailure call a c ⟨w.store.fresh, error⟩ >>= fun _ =>
        Application.afterReports call c ⟨w.store.fresh, error⟩) (w.reporting c error) := by
  show ((do
      record (.reported 0 c ⟨w.store.fresh, error⟩)
      announceFailure call a c ⟨w.store.fresh, error⟩
      pure () : Action σ Unit) >>= fun _ => Application.afterReports call c ⟨w.store.fresh, error⟩)
    (Move.takeNumber.apply ((Move.record (.logged .error
      ("Application run failed: " ++ error.chainMessage))).apply w)) = _
  simp only [bind_assoc, pure_bind]
  rfl

/-- When a run with one announcer ends with a failure, the audience that there is at its last step is
handed the failure. -/
theorem hands_fail {call : Caller σ}
    (hcall : ∀ p : Program σ, p.Quiet → Discipline.silent.Keeps (call p))
    {a : AnnouncerId} {c : Option ContextId} (error : StartupError) {w : World σ}
    (hw : w.Obeys Program.Quiet) (own : ∀ d ∈ c, (w.store.context d).hosted = none)
    (first : (w.store.announcer a).last ≠ some .failed) :
    Hands .failed (w.store.supporting .failed (w.store.audience (.early a) c))
      (∃ outcome, (Application.fail call [.announcer a] c error w).1 = .ok outcome) w
      (Application.fail call [.announcer a] c error w).2 := by
  rw [fail_apply]
  have reporting : Receives .failed [] w (w.reporting c error) :=
    ⟨[.logged .error ("Application run failed: " ++ error.chainMessage),
      .reported 0 c ⟨w.store.fresh, error⟩], by simp [World.reporting, Move.entries], rfl⟩
  have obeys := hw.reporting c error
  have announced := hands_announceFailure hcall (a := a) c ⟨w.store.fresh, error⟩ obeys
    (by simpa only [World.context_reporting] using own) (by rwa [World.announcer_reporting])
  rw [World.supporting_reporting] at announced
  have keeps : (Discipline.within (· = .failed)).Keeps
      (announceFailure call a c ⟨w.store.fresh, error⟩) :=
    Discipline.keeps_announceFailure (keeps_within hcall _) trivial fun _ he =>
      ⟨fun _ => he, fun _ _ => trivial, fun _ => trivial⟩
  have path := keeps _ obeys
  refine .none_trans reporting ?_
  rw [Action.bind_apply]
  rcases hact : announceFailure call a c ⟨w.store.fresh, error⟩ (w.reporting c error) with
    ⟨stop | _, m⟩ <;> rw [hact] at announced path
  · exact announced.imp (by simp)
  · -- whatever hooks the context has, they hand nothing to anyone
    have finishing := keeps_afterReports hcall c ⟨w.store.fresh, error⟩ m (path.obeys obeys)
    have ended := announced.imp fun _ : True => rfl
    exact (ended.trans_none (.of_path finishing fun h => h)).imp fun _ => trivial

/-- Where the run comes to its end, the whole audience was handed the failure. -/
theorem receives_fail {call : Caller σ}
    (hcall : ∀ p : Program σ, p.Quiet → Discipline.silent.Keeps (call p))
    {a : AnnouncerId} {c : Option ContextId} {error outcome : StartupError} {w w' : World σ}
    (hw : w.Obeys Program.Quiet) (own : ∀ d ∈ c, (w.store.context d).hosted = none)
    (first : (w.store.announcer a).last ≠ some .failed)
    (h : Application.fail call [.announcer a] c error w = (.ok outcome, w')) :
    Receives .failed (w.store.supporting .failed (w.store.audience (.early a) c)) w w' := by
  have handed := hands_fail hcall error hw own first
  rw [h] at handed
  exact handed.receives ⟨outcome, rfl⟩

end Startup
