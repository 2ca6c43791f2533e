/-
The interplay of an action with the code that it calls. An action goes by moves of its own and calls
code in between; so whatever its own moves keep, it keeps if the called code does. Of channels that
neither the action nor the called code looks at, nothing depends on what is in them.
-/
import Startup.Proofs.Course
import Startup.Proofs.Operations

namespace Startup

variable {σ : Type}

/-! ## Moves and calls -/

/-- Code that was called, with the world it was called in and what came of it. -/
abbrev Called (σ : Type) := Leg σ (Program σ) (Except Stop (Except Fault Unit))

/-- Moves of one kind one after the other, with code of one kind called in between. -/
inductive Amid (call : Caller σ) (own : Move σ → Prop) (can : World σ → Program σ → Prop) :
    World σ → List (Called σ) → World σ → Prop where
  | refl (w : World σ) : Amid call own can w [] w
  | move {w m : World σ} {calls : List (Called σ)} (before : Amid call own can w calls m)
      (move : Move σ) (ok : own move) : Amid call own can w calls (move.apply m)
  | call {w m : World σ} {calls : List (Called σ)} (before : Amid call own can w calls m)
      (p : Program σ) (ok : can m p) :
      Amid call own can w (calls ++ [⟨p, m, (call p m).1, (call p m).2⟩]) (call p m).2

/-- What `f` tells of the world has not changed, unless code that was called has changed it. -/
def Untouched {γ : Type} (calls : List (Called σ)) (f : World σ → γ) (w w' : World σ) : Prop :=
  (∀ leg ∈ calls, f leg.finish = f leg.start) → f w' = f w

namespace Amid

variable {call : Caller σ} {own : Move σ → Prop} {can : World σ → Program σ → Prop}
  {w m w' : World σ} {calls more : List (Called σ)}

theorem trans (h : Amid call own can w calls m) (h' : Amid call own can m more w') :
    Amid call own can w (calls ++ more) w' := by
  induction h' with
  | refl =>
    rw [List.append_nil]
    exact h
  | move _ move ok ih => exact ih.move move ok
  | call _ p ok ih =>
    rw [← List.append_assoc]
    exact ih.call p ok

/-- What every own move keeps and all called code keeps, is kept. -/
theorem invariant {I : World σ → Prop} (h : Amid call own can w calls w')
    (keep : ∀ move m, own move → I m → I (move.apply m))
    (called : ∀ leg ∈ calls, I leg.start → I leg.finish) (start : I w) : I w' := by
  induction h with
  | refl => exact start
  | move _ move ok ih => exact keep move _ ok (ih called)
  | call _ p ok ih =>
    refine called _ (List.mem_append_right _ (List.mem_singleton_self _)) ?_
    exact ih fun leg hleg => called leg (List.mem_append_left _ hleg)

/-- What is true of every call is true of those that were made. -/
theorem legs {I : World σ → Prop} {P : Called σ → Prop} (h : Amid call own can w calls w')
    (keep : ∀ move m, own move → I m → I (move.apply m))
    (called : ∀ p m, can m p → I m → P ⟨p, m, (call p m).1, (call p m).2⟩ ∧ I (call p m).2)
    (start : I w) : I w' ∧ ∀ leg ∈ calls, P leg := by
  induction h with
  | refl => exact ⟨start, by simp⟩
  | move _ move ok ih => exact ⟨keep move _ ok ih.1, ih.2⟩
  | call _ p ok ih =>
    obtain ⟨here, before⟩ := ih
    obtain ⟨hleg, next⟩ := called p _ ok here
    refine ⟨next, fun leg hmem => ?_⟩
    rcases List.mem_append.1 hmem with hmem | hmem
    · exact before leg hmem
    · rw [List.mem_singleton.1 hmem]
      exact hleg

/-- What no own move changes, nothing but the called code does. -/
theorem untouched {γ : Type} {f : World σ → γ} (h : Amid call own can w calls w')
    (keep : ∀ move m, own move → f (move.apply m) = f m) : Untouched calls f w w' := fun called =>
  h.invariant (I := fun m => f m = f w) (fun move m ok hm => (keep move m ok).trans hm)
    (fun leg hleg hstart => (called leg hleg).trans hstart) rfl

end Amid

/-! ## Channels that are not looked at -/

/-- The same world, but for what is in some of its channels. -/
def World.Agree (unseen : ChannelId → Prop) (w w' : World σ) : Prop :=
  ∃ channels : Table ChannelId Channel, w' = { w with store := { w.store with channels } } ∧
    ∀ ch, ¬ unseen ch → channels.get ch = w.store.channels.get ch

namespace World.Agree

variable {unseen : ChannelId → Prop} {w w' : World σ}

theorem refl (w : World σ) : w.Agree unseen w := ⟨w.store.channels, rfl, fun _ _ => rfl⟩

theorem channel (h : w.Agree unseen w') {ch : ChannelId} (seen : ¬ unseen ch) :
    w'.store.channel ch = w.store.channel ch := by
  obtain ⟨channels, rfl, same⟩ := h
  exact same ch seen

/-- A move does the same in both worlds. It looks at no channel but a context's. -/
theorem apply (h : w.Agree unseen w') (context : ∀ c, ¬ unseen (.ofContext c)) (move : Move σ) :
    (move.apply w).Agree unseen (move.apply w') := by
  obtain ⟨channels, rfl, same⟩ := h
  cases move with
  | bind l c =>
    refine ⟨channels, ?_, same⟩
    have present : ({ w.store with channels } : Store).listenersOf c = w.store.listenersOf c :=
      congrArg Channel.listeners (same _ (context c))
    simp [Move.apply, Move.applyStore, Move.change, Move.entries, Move.numbers, present]
  | join c l =>
    have known : ({ w.store with channels } : Store).knows c l = w.store.knows c l := by
      have present : ({ w.store with channels } : Store).listenersOf c = w.store.listenersOf c :=
        congrArg Channel.listeners (same _ (context c))
      unfold Store.knows
      rw [present]
      rfl
    refine ⟨_, rfl, fun ch seen => ?_⟩
    have kept := same ch seen
    simp only [Move.apply, Move.applyStore, Move.change, known]
    split
    · exact kept
    · simp only [Table.get_modify]
      grind
  | setPolicy | register | clear | makeAnnouncer =>
    -- what becomes of a channel depends on this channel alone
    refine ⟨_, rfl, fun ch seen => ?_⟩
    have kept := same ch seen
    simp only [Move.apply, Move.applyStore, Move.change, Table.get_modify, Table.get_set]
    grind
  | _ => exact ⟨channels, rfl, same⟩

end World.Agree

/-- Code that was called and does the same whatever is in channels that it does not look at. -/
def Called.Blind (call : Caller σ) (unseen : ChannelId → Prop) (leg : Called σ) : Prop :=
  ∀ w', leg.start.Agree unseen w' →
    (call leg.what w').1 = leg.result ∧ leg.finish.Agree unseen (call leg.what w').2

/-! ## Terms -/

/-- The terms on which an action goes: its own moves, the code that it may call, and channels that
it does not look at. -/
structure Terms (σ : Type) where
  own : Move σ → Prop
  can : World σ → Program σ → Prop
  unseen : ChannelId → Prop
  context : ∀ c, ¬ unseen (.ofContext c)

/-- An action goes by its own moves and calls code in between; and if the called code does not see the
channels either, the action does the same whatever is in them. -/
def Terms.Goes {α : Type} (T : Terms σ) (call : Caller σ) (act : Action σ α) : Prop :=
  ∀ w : World σ, ∃ calls, Amid call T.own T.can w calls (act w).2 ∧
    ((∀ leg ∈ calls, Called.Blind call T.unseen leg) → ∀ w', w.Agree T.unseen w' →
      (act w').1 = (act w).1 ∧ (act w).2.Agree T.unseen (act w').2)

namespace Terms

variable {T : Terms σ} {call : Caller σ} {α β : Type}

theorem goes_pure (a : α) : T.Goes call (pure a) := fun w => ⟨[], .refl w, fun _ _ h => ⟨rfl, h⟩⟩

theorem goes_bind {act : Action σ α} {next : α → Action σ β} (h : T.Goes call act)
    (hnext : ∀ a, T.Goes call (next a)) : T.Goes call (act >>= next) := by
  intro w
  obtain ⟨calls, amid, alike⟩ := h w
  -- where the first part is stopped, the second calls nothing
  rcases hact : act w with ⟨stop | a, m⟩ <;> rw [hact] at amid alike
  · refine ⟨calls, ?_, fun blind w' agree => ?_⟩
    · rw [Action.bind_apply, hact]
      exact amid
    · obtain ⟨same, agree'⟩ := alike blind w' agree
      rw [Action.bind_apply, Action.bind_apply, hact]
      rcases hact' : act w' with ⟨r, m'⟩
      rw [hact'] at same agree'
      cases same
      exact ⟨rfl, agree'⟩
  · obtain ⟨more, amid', alike'⟩ := hnext a m
    refine ⟨calls ++ more, ?_, fun blind w' agree => ?_⟩
    · rw [Action.bind_apply, hact]
      exact amid.trans amid'
    · obtain ⟨same, agree'⟩ :=
        alike (fun leg hleg => blind leg (List.mem_append_left _ hleg)) w' agree
      rw [Action.bind_apply, Action.bind_apply, hact]
      rcases hact' : act w' with ⟨r, m'⟩
      rw [hact'] at same agree'
      cases same
      exact alike' (fun leg hleg => blind leg (List.mem_append_right _ hleg)) m' agree'

/-- An action that in each world does what another one does, which is the same for worlds that differ
in the channels not looked at. -/
theorem goes_like {act : Action σ α} (h : ∀ w : World σ, ∃ act' : Action σ α, T.Goes call act' ∧
    ∀ w', w.Agree T.unseen w' → act w' = act' w') : T.Goes call act := by
  intro w
  obtain ⟨act', goes, like⟩ := h w
  obtain ⟨calls, amid, alike⟩ := goes w
  rw [like w (.refl w)]
  refine ⟨calls, amid, fun blind w' agree => ?_⟩
  rw [like w' agree]
  exact alike blind w' agree

theorem goes_getStore_bind {next : Store → Action σ α} (h : ∀ s, T.Goes call (next s))
    (same : ∀ (s : Store) (channels : Table ChannelId Channel),
      (∀ ch, ¬ T.unseen ch → channels.get ch = s.channels.get ch) → next { s with channels } = next s) :
    T.Goes call (getStore >>= next) := by
  refine goes_like fun w => ⟨next w.store, h _, ?_⟩
  rintro _ ⟨channels, rfl, agree⟩
  rw [Action.getStore_bind_apply, same w.store channels agree]

theorem goes_get_bind {next : World σ → Action σ α} (h : ∀ w, T.Goes call (next w))
    (same : ∀ (w : World σ) channels, next { w with store := { w.store with channels } } = next w) :
    T.Goes call ((get : Action σ (World σ)) >>= next) := by
  refine goes_like fun w => ⟨next w, h w, ?_⟩
  rintro _ ⟨channels, rfl, -⟩
  rw [← same w channels]
  rfl

theorem goes_move {act : Action σ α} (h : ∀ w : World σ, ∃ (move : Move σ) (r : Except Stop α),
    T.own move ∧ ∀ w', w.Agree T.unseen w' → act w' = (r, move.apply w')) : T.Goes call act := by
  intro w
  obtain ⟨move, r, ok, moves⟩ := h w
  rw [moves w (.refl w)]
  refine ⟨[], Amid.move (.refl w) move ok, fun _ w' agree => ?_⟩
  rw [moves w' agree]
  exact ⟨rfl, agree.apply T.context move⟩

/-- A move that is the same in every world. -/
theorem goes_one {act : Action σ α} (move : Move σ) (r : Except Stop α) (ok : T.own move)
    (h : ∀ w, act w = (r, move.apply w)) : T.Goes call act :=
  goes_move fun _ => ⟨move, r, ok, fun w' _ => h w'⟩

theorem goes_call {act : Action σ (Except Fault Unit)} (h : ∀ w : World σ, ∃ p, T.can w p ∧
    ∀ w', w.Agree T.unseen w' → act w' = call p w') : T.Goes call act := by
  intro w
  obtain ⟨p, ok, calls⟩ := h w
  rw [calls w (.refl w)]
  refine ⟨_, Amid.call (.refl w) p ok, fun blind w' agree => ?_⟩
  rw [calls w' agree]
  exact blind _ (List.mem_singleton_self _) w' agree

/-- Code of the world is called, and the action goes on with its result. -/
theorem goes_get_call {code : World σ → Program σ} {next : Except Fault Unit → Action σ α}
    (can : ∀ w, T.can w (code w))
    (same : ∀ (w : World σ) channels, code { w with store := { w.store with channels } } = code w)
    (hnext : ∀ r, T.Goes call (next r)) :
    T.Goes call ((get : Action σ (World σ)) >>= fun w => call (code w) >>= next) := by
  have called : T.Goes call ((get : Action σ (World σ)) >>= fun w => call (code w)) := by
    refine goes_call fun w => ⟨code w, can w, ?_⟩
    rintro _ ⟨channels, rfl, -⟩
    rw [← same w channels]
    rfl
  rw [← bind_assoc]
  exact goes_bind called hnext

theorem goes_catching {act : Action σ (Except Fault Unit)} (h : T.Goes call act) :
    T.Goes call (catching act) := by
  intro w
  obtain ⟨calls, amid, alike⟩ := h w
  have same {w w' : World σ} (h : (act w').1 = (act w).1) :
      (catching act w').1 = (catching act w).1 := by
    unfold catching
    rcases hact : act w with ⟨(_ | _) | _, m⟩ <;> rcases hact' : act w' with ⟨r, m'⟩ <;>
      rw [hact, hact'] at h <;> cases h <;> rfl
  refine ⟨calls, ?_, fun blind w' agree => ?_⟩
  · rw [Action.catching_snd]
    exact amid
  · obtain ⟨result, agree'⟩ := alike blind w' agree
    rw [Action.catching_snd, Action.catching_snd]
    exact ⟨same result, agree'⟩

theorem goes_mapM {act : α → Action σ β} :
    ∀ xs : List α, (∀ a ∈ xs, T.Goes call (act a)) → T.Goes call (xs.mapM act)
  | [], _ => goes_pure []
  | a :: rest, h => by
    rw [List.mapM_cons]
    refine goes_bind (h a (List.mem_cons_self ..)) fun b => ?_
    exact goes_bind (goes_mapM rest fun x hx => h x (List.mem_cons_of_mem _ hx)) fun _ => goes_pure _

end Terms

/-! ## Delivering -/

/-- Code that is called on an event: of a listener, of the handler of a failure, or of a context that
publishes the event itself. -/
inductive World.CalledOn (w : World σ) (e : Event) : Program σ → Prop where
  | listener (l : ListenerId) : w.CalledOn e ((w.listenerCode.get l).onEvent e)
  | handler (n : Nat) (l : ListenerId) (fault : Fault) : w.CalledOn e (w.handlerCode.get n l e fault)
  | publish (c : ContextId) : w.CalledOn e ((w.hostCode.get c).publish e)
  | isolated (c : ContextId) : w.CalledOn e ((w.hostCode.get c).isolated e)

namespace Terms

/-- Terms on which an event can be delivered. -/
structure Delivers (T : Terms σ) (e : Event) : Prop where
  deliver : ∀ l, T.own (.deliver l e)
  record : ∀ entry : Entry, entry.IsPlain → T.own (.record entry)
  setOutput : ∀ o output, T.own (.setOutput o output)
  setUpLog : T.own .setUpLog
  storeSettings : ∀ l settings, T.own (.storeSettings l settings)
  called : ∀ (w : World σ) p, w.CalledOn e p → T.can w p

section Delivering

variable {T : Terms σ} {call : Caller σ} {e : Event} (h : T.Delivers e)

include h

theorem goes_record {entry : Entry} (plain : entry.IsPlain) : T.Goes call (record entry) :=
  goes_one (.record entry) _ (h.record entry plain) fun _ => rfl

theorem goes_log (severity : Severity) (text : String) : T.Goes call (log severity text) :=
  goes_record h trivial

theorem goes_configureConsole (output : OutputId) :
    T.Goes call (configureConsole output e) := by
  refine goes_getStore_bind (fun s => ?_) fun _ _ _ => rfl
  split
  · exact goes_pure _
  · refine goes_bind ?_ fun _ => goes_pure _
    exact goes_one (.setOutput output _) _ (h.setOutput _ _) fun _ => rfl

omit h in
theorem goes_setUpLog (own : T.own .setUpLog) (settings : LogSettings) :
    T.Goes call (setUpLog settings) := by
  refine goes_move fun w => ⟨.setUpLog, .ok (settings.init w.logRefusal), own, ?_⟩
  rintro _ ⟨channels, rfl, -⟩
  rfl

theorem goes_configureLog : T.Goes call (configureLog e) := by
  refine goes_getStore_bind (fun s => ?_) fun _ _ _ => rfl
  split
  · exact goes_pure _
  · split
    · exact goes_pure _
    · exact goes_bind (goes_setUpLog h.setUpLog _) fun _ => goes_pure _

theorem goes_configureWeb (l : ListenerId) (configuration : Web.Configuration) :
    T.Goes call (configureWeb l configuration) := by
  refine goes_getStore_bind (fun s => ?_) fun _ _ _ => rfl
  split
  · exact goes_pure _
  · split
    · exact goes_pure _
    · refine goes_bind (goes_log h _ _) fun _ => goes_bind ?_ fun _ => goes_pure _
      exact goes_one (.storeSettings l _) _ (h.storeSettings _ _) fun _ => rfl

theorem goes_react (l : ListenerId) : T.Goes call (react call l e) := by
  refine goes_getStore_bind (fun s => ?_) fun _ _ _ => rfl
  split
  · refine goes_call fun w => ⟨_, h.called w _ (.listener l), ?_⟩
    rintro _ ⟨channels, rfl, -⟩
    rfl
  · exact goes_configureConsole h _
  · exact goes_configureLog h
  · exact goes_configureWeb h l _

theorem goes_handleEvent (l : ListenerId) : T.Goes call (handleEvent call l e) :=
  goes_bind (goes_one (.deliver l e) _ (h.deliver l) fun _ => rfl) fun _ => goes_react h l

theorem goes_onFailure (policy : Policy) (l : ListenerId) (fault : Fault) :
    T.Goes call (onFailure call policy l e fault) := by
  refine goes_getStore_bind (fun s => ?_) fun _ _ _ => rfl
  cases policy with
  | failFast => exact goes_bind (goes_log h _ _) fun _ => goes_pure _
  | logging => exact goes_bind (goes_log h _ _) fun _ => goes_pure _
  | handler n =>
    refine goes_bind (goes_record h trivial) fun _ => ?_
    exact goes_get_call (fun w => h.called w _ (.handler n l fault)) (fun _ _ => rfl)
      fun _ => goes_pure _

theorem goes_deliver (policy : Policy) :
    ∀ ls : List ListenerId, T.Goes call (deliver call policy e ls)
  | [] => goes_pure _
  | l :: rest => by
    have hrest := goes_deliver policy rest
    refine goes_bind (goes_catching (goes_handleEvent h l)) ?_
    rintro (fault | _)
    · refine goes_bind (goes_onFailure h policy l fault) ?_
      rintro (error | _)
      · exact goes_pure _
      · exact hrest
    · exact hrest

/-- Nothing is looked at in a multicast but its own channel. -/
theorem goes_multicast {ch : ChannelId} (seen : ¬ T.unseen ch) :
    T.Goes call (multicast call ch e) := by
  refine goes_getStore_bind (fun s => goes_deliver h _ _) fun s channels same => ?_
  have channel : ({ s with channels } : Store).channel ch = s.channel ch := same ch seen
  simp only [channel]
  rfl

theorem goes_publish (c : ContextId) : T.Goes call (publish call c e) := by
  refine goes_getStore_bind (fun s => ?_) fun _ _ _ => rfl
  dsimp only
  split
  · exact goes_get_call (fun w => h.called w _ (.publish c)) (fun _ _ => rfl) fun _ => goes_pure _
  · split
    · exact goes_pure _
    · exact goes_multicast h (T.context c)

theorem goes_publishIsolated (c : ContextId) : T.Goes call (publishIsolated call c e) := by
  refine goes_getStore_bind (fun s => ?_) fun s channels same => ?_
  · split
    · exact goes_get_call (fun w => h.called w _ (.isolated c)) (fun _ _ => rfl) fun _ => goes_pure _
    · exact goes_deliver h _ _
  · have listeners : ({ s with channels } : Store).listenersOf c = s.listenersOf c :=
      congrArg Channel.listeners (same _ (T.context c))
    simp only [listeners]
    rfl

end Delivering

/-! ## Announcing -/

/-- Terms on which listeners can be told a context and join it. -/
structure Binds (T : Terms σ) (c : ContextId) : Prop where
  bind : ∀ l, T.own (.bind l c)
  tellContext : ∀ l, T.own (.tellContext l c)
  join : ∀ l, T.own (.join c l)
  called : ∀ (w : World σ) l, T.can w ((w.listenerCode.get l).onBind c)

/-- Terms on which an announcement can be made. -/
structure Announces (T : Terms σ) (a : AnnouncerId) (what : Announcement) : Prop where
  enter : T.own (.enter a what.phase)
  delivers : ∀ e : Event, e.phase = what.phase → T.Delivers e
  binds : ∀ c, what = .contextLoaded c → T.Binds c
  seen : what.phase.isEarly = true → ¬ T.unseen (.early a)

section Announcing

variable {T : Terms σ} {call : Caller σ}

theorem goes_bindContext {c : ContextId} (h : T.Binds c) (l : ListenerId) :
    T.Goes call (bindContext call l c) := by
  have bound : T.Goes call (do record (.bound l c ((← getStore).listenersOf c))) :=
    goes_move fun w => ⟨.bind l c, .ok (), h.bind l, fun _ _ => rfl⟩
  have told : T.Goes call (do
      modifyListener l fun listener => { listener with bound := some c }
      let _ ← call (((← get).listenerCode.get l).onBind c)) := by
    refine goes_bind (goes_one (.tellContext l c) _ (h.tellContext l) fun _ => rfl) fun _ => ?_
    exact goes_get_call (fun w => h.called w l) (fun _ _ => rfl) fun _ => goes_pure _
  have both := goes_bind bound fun _ => told
  rw [bind_assoc] at both
  exact both

theorem goes_addListener {c : ContextId} (h : T.Binds c) (l : ListenerId) :
    T.Goes call (addListener c l) :=
  goes_one (.join c l) (.ok ()) (h.join l) fun w => addListener_apply c l w

theorem goes_attachListeners {c : ContextId} (h : T.Binds c) :
    ∀ ls : List ListenerId, T.Goes call (attachListeners call c ls)
  | [] => goes_pure _
  | l :: rest => by
    have joined : T.Goes call (addListener c l >>= fun _ => attachListeners call c rest) :=
      goes_bind (goes_addListener h l) fun _ => goes_attachListeners h rest
    refine goes_getStore_bind (fun s => ?_) fun _ _ _ => rfl
    dsimp only
    split
    · exact goes_bind (goes_bindContext h l) fun _ => joined
    · exact joined

theorem goes_announce {a : AnnouncerId} {what : Announcement} (h : T.Announces a what) :
    T.Goes call (announce call a what) := by
  have advanced : T.Goes call (advance a what.phase) := by
    refine goes_getStore_bind (fun s => ?_) fun _ _ _ => rfl
    dsimp only
    split
    · exact goes_bind (goes_one (.enter a what.phase) _ h.enter fun _ => rfl) fun _ => goes_pure _
    · exact goes_pure _
  refine goes_bind advanced ?_
  rintro (error | _)
  · exact goes_pure _
  refine goes_getStore_bind (fun s => ?_) fun _ _ _ => rfl
  have delivers : T.Delivers ((s.announcer a).event what) := h.delivers _ (Announcer.event_phase ..)
  cases what with
  | starting | environmentPrepared _ | contextPrepared _ => exact goes_multicast delivers (h.seen rfl)
  | contextLoaded c =>
    exact goes_bind (goes_attachListeners (h.binds c rfl) _) fun _ => goes_publish delivers c
  | started c | running c => exact goes_publish delivers c

end Announcing

end Terms

end Startup
