/-
Where an announcement goes. An early phase goes to the listeners of the announcer's own channel, and
touches no context; a later one goes to the listeners of its context, and what is in the early channel
does not matter to it. The code apart that it calls, no announcement changes the early channel.
-/
import Startup.Proofs.Handoff
import Startup.Proofs.Interplay
import Startup.Proofs.Routing

namespace Startup

variable {σ : Type}

/-! ## The terms of an announcement -/

/-- The moves of an announcement. Only for a context that is announced as loaded listeners are told
it and join it. -/
def Announcement.Own (a : AnnouncerId) (what : Announcement) : Move σ → Prop
  | .enter b p => b = a ∧ p = what.phase
  | .deliver _ e => e.phase = what.phase
  | .record entry => entry.IsPlain
  | .setOutput .. | .storeSettings .. | .setUpLog => True
  | .bind _ c | .tellContext _ c | .join c _ => what = .contextLoaded c
  | _ => False

/-- The code that an announcement calls: on its event, or for a context that is announced as loaded. -/
def Announcement.Calls (what : Announcement) (w : World σ) (p : Program σ) : Prop :=
  (∃ e : Event, e.phase = what.phase ∧ w.CalledOn e p) ∨
    ∃ c l, what = .contextLoaded c ∧ p = (w.listenerCode.get l).onBind c

def Announcement.terms (a : AnnouncerId) (what : Announcement) (unseen : ChannelId → Prop)
    (context : ∀ c, ¬ unseen (.ofContext c)) : Terms σ where
  own := what.Own a
  can := what.Calls
  unseen
  context

theorem Announcement.announces (a : AnnouncerId) (what : Announcement) {unseen : ChannelId → Prop}
    {context : ∀ c, ¬ unseen (.ofContext c)} (seen : what.phase.isEarly = true → ¬ unseen (.early a)) :
    (what.terms a unseen context : Terms σ).Announces a what where
  enter := ⟨rfl, rfl⟩
  delivers e he := ⟨fun _ => he, fun _ plain => plain, fun _ _ => trivial, trivial, fun _ _ => trivial,
    fun _ _ called => .inl ⟨e, he, called⟩⟩
  binds c hc := ⟨fun _ => hc, fun _ => hc, fun _ => hc, fun _ l => .inr ⟨c, l, hc, rfl⟩⟩
  seen

/-! ## What an announcement leaves as it was -/

section Kept

variable {a : AnnouncerId} {what : Announcement} {move : Move σ}

theorem Announcement.Own.context (h : what.Own a move) (m : World σ) (c : ContextId) :
    (move.apply m).store.context c = m.store.context c := by
  rw [Move.apply_store, Move.context_applyStore]
  cases move <;> first | rfl | exact h.elim

/-- No announcement changes an early channel itself. -/
theorem Announcement.Own.early (h : what.Own a move) (m : World σ) (b : AnnouncerId) :
    (move.apply m).store.channel (.early b) = m.store.channel (.early b) := by
  rw [Move.apply_store, Move.channel_applyStore]
  cases move <;> first | rfl | exact h.elim

/-- A context keeps its listeners. -/
theorem Announcement.Own.listenersOf (h : what.Own a move) (m : World σ) (c : ContextId) {l : ListenerId}
    (hl : l ∈ m.store.listenersOf c) : l ∈ (move.apply m).store.listenersOf c := by
  unfold Store.listenersOf at hl ⊢
  rw [Move.apply_store, Move.channel_applyStore]
  cases move <;> first | exact hl | exact h.elim | skip
  dsimp only
  split
  · rename_i same
    obtain rfl := ChannelId.ofContext.inj same
    exact Store.mem_withListener.2 (.inl hl)
  · exact hl

variable (early : what.phase.isEarly = true)

include early

theorem Announcement.not_loaded (c : ContextId) : what ≠ .contextLoaded c := by
  rintro rfl
  cases early

theorem Announcement.Own.early_channel (h : what.Own a move) (m : World σ) (ch : ChannelId) :
    (move.apply m).store.channel ch = m.store.channel ch := by
  rw [Move.apply_store, Move.channel_applyStore]
  cases move <;> first | rfl | exact h.elim | exact absurd h (what.not_loaded early _)

theorem Announcement.Own.early_bound (h : what.Own a move) (m : World σ) (l : ListenerId) :
    ((move.apply m).store.listener l).bound = (m.store.listener l).bound := by
  rw [Move.apply_store, Move.listener_applyStore]
  cases move <;> first | rfl | exact h.elim | exact absurd h (what.not_loaded early _) | skip
  dsimp only
  split
  · subst_vars
    rfl
  · rfl

theorem Announcement.Own.early_bindings (h : what.Own a move) (m : World σ) :
    (move.apply m).store.history.filter (·.isBinding) = m.store.history.filter (·.isBinding) := by
  rw [Move.apply_store, Move.history_applyStore, List.filter_append]
  refine List.append_right_eq_self.2 (List.filter_eq_nil_iff.2 fun entry hentry => ?_)
  cases move <;> simp only [Move.entries, List.mem_singleton, List.not_mem_nil] at hentry <;>
    first | exact h.elim | exact absurd h (what.not_loaded early _) | skip
  all_goals subst hentry
  case record => cases entry <;> first | exact h.elim | simp [Entry.isBinding]
  all_goals simp [Entry.isBinding]

end Kept

/-! ## Getting ready -/

/-- What comes before a late phase is published: the listeners of the application are attached to a
context that is announced as loaded. -/
def Announcement.ready (call : Caller σ) (ls : List ListenerId) : Announcement → Action σ Unit
  | .contextLoaded c => attachListeners call c ls
  | _ => pure ()

section Ready

variable {call : Caller σ} {a : AnnouncerId} {c : ContextId} {what : Announcement} {w m : World σ}

/-- The event of an announcement does not depend on the phase entered last. -/
theorem event_enter (p : Phase) :
    (((Move.enter a p).apply w).store.announcer a).event what = (w.store.announcer a).event what := by
  rw [Move.apply_store, Move.announcer_applyStore]
  cases what <;> simp [Announcer.event]

/-- Getting ready goes by moves, and makes no context another one. -/
theorem hosted_ready (depth : Nat) (ls : List ListenerId) (made : c.number < w.store.fresh) :
    ((what.ready (Program.execute depth) ls w).2.store.context c).hosted =
      (w.store.context c).hosted := by
  have keeps : Discipline.free.Keeps (what.ready (Program.execute depth) ls : Action σ Unit) := by
    cases what with
    | contextLoaded d =>
      exact Discipline.keeps_attachListeners (Discipline.execute_free depth) (fun _ => trivial) ls
    | _ => exact Discipline.keeps_pure ()
  exact (keeps w (Discipline.obeys_free w)).hosted made

/-- A late phase is published by its context once that is ready. -/
theorem announce_ready (accepted : Phase.expectedAfter (w.store.announcer a).last = some what.phase)
    (late : what.phase.isEarly = false) (hc : what.context? = some c) :
    announce call a what w =
      (what.ready call (w.store.announcer a).application.listeners >>= fun _ =>
        publish call c ((w.store.announcer a).event what)) ((Move.enter a what.phase).apply w) := by
  cases what with
  | starting | environmentPrepared _ | contextPrepared _ => cases late
  | contextLoaded d =>
    obtain rfl := Option.some.inj hc
    have application : (((Move.enter a .contextLoaded).apply w).store.announcer a).application =
        (w.store.announcer a).application := by
      simp [Move.announcer_applyStore]
    rw [announce_loaded accepted, event_enter, application]
    rfl
  | started d =>
    obtain rfl := Option.some.inj hc
    rw [announce_late accepted (.inl rfl), event_enter]
    rfl
  | running d =>
    obtain rfl := Option.some.inj hc
    rw [announce_late accepted (.inr rfl), event_enter]
    rfl

/-- Listeners that are attached to a context are with it afterwards, unless called code takes one
from it. -/
theorem attachListeners_joins (a : AnnouncerId) :
    ∀ (ls : List ListenerId) {w m : World σ}, attachListeners call c ls w = (.ok (), m) →
      ∃ calls, Amid call ((Announcement.contextLoaded c).Own a)
          (Announcement.contextLoaded c).Calls w calls m ∧
        ((∀ leg ∈ calls, ∀ l ∈ leg.start.store.listenersOf c, l ∈ leg.finish.store.listenersOf c) →
          ∀ l ∈ ls, l ∈ m.store.listenersOf c)
  | [], w, m, h => by
    obtain ⟨-, rfl⟩ := Action.pure_eq_ok.1 h
    exact ⟨[], .refl _, by simp⟩
  | l :: rest, w, m, h => by
    have binds : ((Announcement.contextLoaded c).terms a (fun _ => False) (fun _ h => h) :
        Terms σ).Binds c := ((Announcement.contextLoaded c).announces a (fun _ h => h)).binds c rfl
    have told : ∃ m₀ calls, Amid call ((Announcement.contextLoaded c).Own a)
        (Announcement.contextLoaded c).Calls w calls m₀ ∧
        (addListener c l >>= fun _ => attachListeners call c rest) m₀ = (.ok (), m) := by
      change ((if (w.store.listener l).aware then
          bindContext call l c >>= fun _ => addListener c l >>= fun _ => attachListeners call c rest
        else addListener c l >>= fun _ => attachListeners call c rest) : Action σ Unit) w = _ at h
      split at h
      · obtain ⟨_, m₀, hbind, h⟩ := Action.bind_eq_ok.1 h
        have goes : Terms.Goes _ call (bindContext call l c) := Terms.goes_bindContext binds l
        obtain ⟨calls, amid, -⟩ := goes w
        rw [hbind] at amid
        exact ⟨m₀, calls, amid, h⟩
      · exact ⟨w, [], .refl w, h⟩
    obtain ⟨m₀, before, amid₀, h⟩ := told
    obtain ⟨_, m₁, hadd, h⟩ := Action.bind_eq_ok.1 h
    have goes : Terms.Goes _ call (addListener c l) := Terms.goes_addListener binds l
    obtain ⟨none, amid₁, -⟩ := goes m₀
    rw [hadd] at amid₁
    have present : l ∈ m₁.store.listenersOf c := by
      rw [addListener_apply] at hadd
      obtain rfl : _ = m₁ := (Prod.mk.inj hadd).2
      simp [Store.listenersOf, Move.channel_applyStore, Store.mem_withListener]
    obtain ⟨more, amid', joined⟩ := attachListeners_joins a rest h
    refine ⟨_, (amid₀.trans amid₁).trans amid', fun kept k hk => ?_⟩
    have kept' := fun leg hleg => kept leg (List.mem_append_right (before ++ none) hleg)
    rcases List.mem_cons.1 hk with rfl | hk
    · exact amid'.invariant (I := fun m => k ∈ m.store.listenersOf c)
        (fun move m own hm => own.listenersOf m c hm) (fun leg hleg => kept' leg hleg k) present
    · exact joined kept' k hk

end Ready

/-! ## The channels of an announcement -/

/-- The phase that comes next is announced. If it is an early one, the event is delivered to the
listeners that the early channel has then, and the called code apart no context changes and no listener
is told one. A later one is delivered to the listeners of its context, which when the context is announced as
loaded has got those of the application before; if the context is closed, nobody hears of it. What is in
the early channel does not matter to a later phase, as long as it does not matter to the called code.
Nothing but called code ever changes the early channel. -/
theorem announcement_goes (depth : Nat) {a : AnnouncerId} {what : Announcement} {w : World σ}
    (accepted : Phase.expectedAfter (w.store.announcer a).last = some what.phase)
    (own : ∀ c ∈ what.context?, (w.store.context c).hosted = none ∧ c.number < w.store.fresh) :
    let call := Program.execute depth
    let announcer := w.store.announcer a
    let early := w.store.channel (.early a)
    let entered := (Move.enter a what.phase).apply w
    let told := announce call a what w
    ∃ calls, Amid call (what.Own a) what.Calls w calls told.2 ∧
      Untouched calls (·.store.channel (.early a)) w told.2 ∧
      (what.phase.isEarly = true →
        told = deliver call early.policy (announcer.event what)
          (w.store.supporting what.phase early.listeners) entered ∧
        (∀ c, Untouched calls (·.store.context c) w told.2) ∧
        (∀ c, Untouched calls (·.store.channel (.ofContext c)) w told.2) ∧
        (∀ l, Untouched calls (fun m => (m.store.listener l).bound) w told.2) ∧
        Untouched calls (·.store.history.filter (·.isBinding)) w told.2) ∧
      ∀ c, what.phase.isEarly = false → what.context? = some c →
        (match what.ready call announcer.application.listeners entered with
          | (.error stop, m) => told = (.error stop, m)
          | (.ok (), m) => told =
            if (m.store.context c).state = .closed then (.ok (.error .contextUnavailable), m)
            else deliver call (m.store.channel (.ofContext c)).policy (announcer.event what)
              (m.store.supporting what.phase (m.store.listenersOf c)) m) ∧
        (∀ m, what = .contextLoaded c →
          what.ready call announcer.application.listeners entered = (.ok (), m) →
          ∃ before, Amid call (what.Own a) what.Calls entered before m ∧
            ((∀ leg ∈ before, ∀ l ∈ leg.start.store.listenersOf c, l ∈ leg.finish.store.listenersOf c) →
              ∀ l ∈ announcer.application.listeners, l ∈ m.store.listenersOf c)) ∧
        ((∀ leg ∈ calls, Called.Blind call (· = .early a) leg) →
          ∀ w₂, w.Agree (· = .early a) w₂ → (announce call a what w₂).1 = told.1 ∧
            told.2.Agree (· = .early a) (announce call a what w₂).2) := by
  intro call announcer early entered told
  by_cases hearly : what.phase.isEarly = true
  · have terms : (what.terms a (fun _ => False) fun _ h => h : Terms σ).Announces a what :=
      what.announces a fun _ h => h
    have goes : Terms.Goes _ call (announce call a what) := Terms.goes_announce terms
    obtain ⟨calls, amid, -⟩ := goes w
    refine ⟨calls, amid, amid.untouched fun move m h => h.early m a,
      fun _ => ⟨?_, fun c => ?_, fun c => ?_, fun l => ?_, ?_⟩,
      fun c late => absurd hearly (by simp [late])⟩
    · show announce call a what w = _
      rw [announce_early accepted hearly, event_enter]
      unfold multicast
      rw [Action.getStore_bind_apply, announcer.event_phase what]
      rfl
    · exact amid.untouched fun move m h => h.context m c
    · exact amid.untouched fun move m h => h.early_channel hearly m _
    · exact amid.untouched fun move m h => h.early_bound hearly m l
    · exact amid.untouched fun move m h => h.early_bindings hearly m
  · have terms : (what.terms a (· = .early a) (by simp) : Terms σ).Announces a what :=
      what.announces a fun h => absurd h hearly
    have goes : Terms.Goes _ call (announce call a what) := Terms.goes_announce terms
    obtain ⟨calls, amid, alike⟩ := goes w
    refine ⟨calls, amid, amid.untouched fun move m h => h.early m a, fun h => absurd h hearly,
      fun c late hc => ⟨?_, fun m hwhat h => ?_, alike⟩⟩
    · have published : announce call a what w = _ := announce_ready accepted late hc
      have hosted :
          ((what.ready call announcer.application.listeners entered).2.store.context c).hosted =
            (entered.store.context c).hosted := hosted_ready depth _ (own c hc).2
      rw [Action.bind_apply] at published
      rcases hready : what.ready call announcer.application.listeners entered with ⟨stop | _, m⟩ <;>
        rw [hready] at published hosted
      · exact published
      · have hosted : (m.store.context c).hosted = none := hosted.trans (own c hc).1
        refine published.trans ?_
        dsimp only
        split
        · rename_i closed
          exact publish_closed hosted closed
        · rename_i opened
          rw [publish_open hosted opened, announcer.event_phase what]
    · subst hwhat
      exact attachListeners_joins a _ h

/-- A context and an announcer of an application with one listener, which wants to know its context,
after further moves. All code there is does nothing. -/
def announcing (moves : List (Move Unit)) : World Unit :=
  let made : List (Move Unit) := [.makeListener { aware := true } ⟨fun _ => .done, fun _ => .done⟩,
    .makeContext {}, .makeAnnouncer { name := "", listeners := [⟨0⟩] } []]
  (made ++ moves).foldl (fun w move => move.apply w) { memory := () }

/-- The listener has joined the context, which has been announced as loaded. -/
def startable : World Unit := announcing [.join ⟨1⟩ ⟨0⟩, .enter ⟨2⟩ .contextLoaded]

/-- Code that does nothing does not see any channel. -/
theorem startable_blind {what : Announcement} {a : AnnouncerId} {unseen : ChannelId → Prop}
    {calls : List (Called Unit)} {w' : World Unit} (depth : Nat)
    (h : Amid (Program.execute (depth + 1)) (what.Own a) what.Calls startable calls w') :
    ∀ leg ∈ calls, Called.Blind (Program.execute (depth + 1)) unseen leg := by
  have idle : startable.Obeys (· = .done) := by
    refine ⟨fun l => ?_, fun _ => rfl, fun _ _ _ _ => rfl, fun _ => ⟨fun _ => rfl, fun _ => rfl⟩,
      by simp [startable, announcing, Move.apply]⟩
    have code : startable.listenerCode.get l = ⟨fun _ => .done, fun _ => .done⟩ := by
      show (Table.set {} _ _).get l = _
      rw [Table.get_set]
      split <;> rfl
    rw [code]
    exact ⟨fun _ => rfl, fun _ => rfl⟩
  refine (h.legs (I := fun m => m.Obeys (· = .done)) (fun move m own hm => ?_)
    (fun p m can hm => ?_) idle).2
  · refine hm.apply ?_
    cases move <;> trivial
  · obtain rfl : p = .done := by
      rcases can with ⟨e, -, called⟩ | ⟨c, l, -, rfl⟩
      · cases called with
        | listener l => exact (hm.listener l).onEvent e
        | handler n l fault => exact hm.handler n l e fault
        | publish c => exact (hm.host c).publish e
        | isolated c => exact (hm.host c).isolated e
      · exact (hm.listener l).onBind c
    exact ⟨fun _ agree => ⟨rfl, agree⟩, hm⟩

/-- The listener hears of the start of the application over the early channel; it joins the context when
that is loaded, and hears of this and of the start of the context there, whatever is in the early channel
then. -/
theorem announcement_goes_startable :
    let call := Program.execute 2
    let app : Descriptor := { name := "", listeners := [⟨0⟩] }
    let altered : World Unit :=
      startable.setChannel (.early ⟨2⟩) { listeners := [⟨0⟩, ⟨0⟩], policy := .logging }
    announce call ⟨2⟩ .starting (announcing []) =
        deliver call .failFast (.starting app []) [⟨0⟩]
          ((Move.enter ⟨2⟩ .starting).apply (announcing [])) ∧
      (∃ m, m.store.listenersOf ⟨1⟩ = [⟨0⟩] ∧ (m.store.listener ⟨0⟩).bound = some ⟨1⟩ ∧
        announce call ⟨2⟩ (.contextLoaded ⟨1⟩) (announcing [.enter ⟨2⟩ .contextPrepared]) =
          deliver call .failFast (.withContext .contextLoaded app [] ⟨1⟩) [⟨0⟩] m) ∧
      announce call ⟨2⟩ (.started ⟨1⟩) startable =
        deliver call .failFast (.withContext .started app [] ⟨1⟩) [⟨0⟩]
          ((Move.enter ⟨2⟩ .started).apply startable) ∧
      (announce call ⟨2⟩ (.started ⟨1⟩) altered).1 =
        (announce call ⟨2⟩ (.started ⟨1⟩) startable).1 := by
  intro call app altered
  refine ⟨?early, ?loaded, ?started⟩
  case early =>
    have accepted : Phase.expectedAfter ((announcing []).store.announcer ⟨2⟩).last =
        some Announcement.starting.phase := by decide
    obtain ⟨_, -, -, early, -⟩ := announcement_goes 2 accepted (by rintro _ ⟨⟩)
    exact (early rfl).1
  case loaded =>
    let w := announcing [.enter ⟨2⟩ .contextPrepared]
    have accepted : Phase.expectedAfter (w.store.announcer ⟨2⟩).last =
        some (Announcement.contextLoaded ⟨1⟩).phase := by decide
    have own : ∀ c ∈ (Announcement.contextLoaded ⟨1⟩).context?,
        (w.store.context c).hosted = none ∧ c.number < w.store.fresh := by
      rintro _ ⟨⟩
      decide
    obtain ⟨_, -, -, -, late⟩ := announcement_goes 2 accepted own
    -- the context with the listener, and open
    let m := ((Announcement.contextLoaded ⟨1⟩).ready call [⟨0⟩]
      ((Move.enter ⟨2⟩ .contextLoaded).apply w)).2
    exact ⟨m, rfl, rfl, (late ⟨1⟩ rfl rfl).1⟩
  case started =>
    have accepted : Phase.expectedAfter (startable.store.announcer ⟨2⟩).last =
        some (Announcement.started ⟨1⟩).phase := by decide
    have own : ∀ c ∈ (Announcement.started ⟨1⟩).context?,
        (startable.store.context c).hosted = none ∧ c.number < startable.store.fresh := by
      rintro _ ⟨⟩
      decide
    obtain ⟨calls, amid, -, -, late⟩ := announcement_goes 2 accepted own
    obtain ⟨routed, -, alike⟩ := late ⟨1⟩ rfl rfl
    refine ⟨routed, (alike (startable_blind 1 amid) altered ⟨_, rfl, fun ch other => ?_⟩).1⟩
    show (startable.store.channels.set _ _).get ch = _
    rw [Table.get_set, if_neg other]

end Startup
