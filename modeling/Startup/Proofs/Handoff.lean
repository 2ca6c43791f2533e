/-
The handoff of an application's listeners. When a context is announced as loaded, the listeners of the
application are taken in turn: one that wants to know the context is told it, and then joins the
context's listeners unless it is among them. So one that is told finds the context with the listeners
it had and those taken before, and the event is published to all of them once none is left.
-/
import Startup.Proofs.Operations

namespace Startup

variable {σ : Type}

/-! ## Code that only keeps what it is told -/

/-- A program that changes nothing but the memory of the application, and makes notes. -/
def Program.Jots : Program σ → Prop
  | .finish _ => True
  | .observe next => ∀ s memory, (next s memory).Jots
  | .remember _ next | .note _ next => next.Jots
  | _ => False

/-- A program that does so without a look at anything. -/
def Program.jotsBlindly : Program σ → Bool
  | .finish _ => true
  | .remember _ next | .note _ next => next.jotsBlindly
  | _ => false

theorem Program.Jots.of_blindly {p : Program σ} (h : p.jotsBlindly = true) : p.Jots := by
  induction p with
  | finish => trivial
  | remember _ next ih | note _ next ih => exact ih h
  | _ => cases h

/-- The world after such a program. -/
def Jotted (w m : World σ) : Prop :=
  ∃ texts : List String, m = { w with
    memory := m.memory
    store := { w.store with journal := w.store.journal ++ (texts.map Entry.noted).toArray } }

/-- A program that only jots ends, whatever it could call. -/
theorem Program.Jots.run {call : Caller σ} {p : Program σ} (h : p.Jots) (w : World σ) :
    ∃ r m, p.run call w = (.ok r, m) ∧ Jotted w m := by
  induction p generalizing w with
  | finish result => exact ⟨result, w, rfl, [], by simp⟩
  | observe next ih => exact ih w.store w.memory (h _ _) w
  | remember memory next ih =>
    obtain ⟨r, m, hrun, texts, hm⟩ := ih h { w with memory }
    exact ⟨r, m, hrun, texts, hm⟩
  | note text next ih =>
    obtain ⟨r, m, hrun, texts, hm⟩ := ih h ((Move.record (.noted text)).apply w)
    refine ⟨r, m, hrun, text :: texts, hm.trans ?_⟩
    simp [Move.apply, Move.applyStore, Move.change, Move.entries, Move.numbers]
  | _ => exact h.elim

/-! ## Who joins, and who is told -/

/-- Listeners behind those that were there before, without those among them and each once. -/
def joined (before ls : List ListenerId) : List ListenerId :=
  before ++ (ls.filter fun l => !before.contains l).eraseDups

theorem mem_joined {before ls : List ListenerId} {l : ListenerId} :
    l ∈ joined before ls ↔ l ∈ before ∨ l ∈ ls := by
  simp only [joined, List.mem_append, List.mem_eraseDups, List.mem_filter, Bool.not_eq_true',
    List.contains_eq_mem, decide_eq_false_iff_not]
  by_cases h : l ∈ before <;> simp [h]

/-- One more listener joins unless it is there already. -/
theorem joined_concat (before ls : List ListenerId) (l : ListenerId) :
    joined before (ls ++ [l]) =
      if l ∈ joined before ls then joined before ls else joined before ls ++ [l] := by
  by_cases known : l ∈ before
  · rw [if_pos (mem_joined.2 (.inl known))]
    simp [joined, known]
  · simp only [mem_joined, known, false_or]
    simp only [joined, List.filter_append, List.eraseDups_append, List.append_assoc]
    by_cases met : l ∈ ls
    · simp [List.removeAll, known, met]
    · simp [List.removeAll, known, met, List.eraseDups_cons]

def Entry.isBinding : Entry → Bool
  | .bound .. => true
  | _ => false

/-- The tellings of a context at places of a list: who is told, of those that want to know, finds the
context with the listeners it had before and those of the list up to its own place. -/
def tellings (aware : ListenerId → Bool) (c : ContextId) (before ls : List ListenerId)
    (places : List (ListenerId × Nat)) : List Entry :=
  (places.filter fun place => aware place.1).map fun place =>
    .bound place.1 c (joined before (ls.take place.2))

theorem tellings_cons (aware : ListenerId → Bool) (c : ContextId) (before ls : List ListenerId)
    (l : ListenerId) (i : Nat) (places : List (ListenerId × Nat)) :
    tellings aware c before ls ((l, i) :: places) =
      (if aware l then [.bound l c (joined before (ls.take i))] else []) ++
        tellings aware c before ls places := by
  cases h : aware l <;> simp [tellings, h]

/-! ## Handing over -/

/-- Between two worlds listeners were told a context or joined it, and nothing else happened. -/
structure HandsOver (c : ContextId) (told : List Entry) (w m : World σ) : Prop where
  history : ∃ added, m.store.history = w.store.history ++ added ∧ added.filter (·.isBinding) = told ∧
    ∀ l e, .delivered l e ∉ added
  context : m.store.context = w.store.context
  code : m.listenerCode = w.listenerCode
  aware : ∀ l, (m.store.listener l).aware = (w.store.listener l).aware
  phases : ∀ l, (m.store.listener l).phases = (w.store.listener l).phases
  kept : ∀ l, (w.store.listener l).bound = some c → (m.store.listener l).bound = some c

namespace HandsOver

variable {c : ContextId} {told told' : List Entry} {w m w' : World σ}

theorem refl (w : World σ) : HandsOver c [] w w :=
  ⟨⟨[], by simp, rfl, by simp⟩, rfl, rfl, fun _ => rfl, fun _ => rfl,
    fun _ h => h⟩

theorem trans (h : HandsOver c told w m) (h' : HandsOver c told' m w') :
    HandsOver c (told ++ told') w w' := by
  obtain ⟨added, hadded, htold, hundelivered⟩ := h.history
  obtain ⟨added', hadded', htold', hundelivered'⟩ := h'.history
  refine ⟨⟨added ++ added', ?_, ?_, fun l e hmem => ?_⟩, h'.context.trans h.context,
    h'.code.trans h.code, fun l => (h'.aware l).trans (h.aware l),
    fun l => (h'.phases l).trans (h.phases l), fun l hl => h'.kept l (h.kept l hl)⟩
  · rw [hadded', hadded, List.append_assoc]
  · rw [List.filter_append, htold, htold']
  · exact (List.mem_append.1 hmem).elim (hundelivered l e) (hundelivered' l e)

theorem supporting (h : HandsOver c told w m) (p : Phase) (ls : List ListenerId) :
    m.store.supporting p ls = w.store.supporting p ls :=
  List.filter_congr fun l _ => by simp only [Listener.supports, h.phases]

theorem of_jotted (h : Jotted w m) : HandsOver c [] w m := by
  obtain ⟨texts, hm⟩ := h
  rw [hm]
  refine ⟨⟨texts.map .noted, by simp [Store.history], ?_, by simp⟩, rfl, rfl, fun _ => rfl,
    fun _ => rfl, fun _ h => h⟩
  simp [List.filter_map, Function.comp_def, Entry.isBinding]

theorem bind (l : ListenerId) (w : World σ) :
    HandsOver c [.bound l c (w.store.listenersOf c)] w ((Move.bind l c).apply w) := by
  exact ⟨⟨_, Move.history_applyStore .., rfl, by simp [Move.entries]⟩, rfl, rfl, fun _ => rfl,
    fun _ => rfl, fun _ h => h⟩

theorem tellContext (l : ListenerId) (w : World σ) :
    HandsOver c [] w ((Move.tellContext l c).apply w) := by
  refine ⟨⟨[], by simp [Move.entries], rfl, by simp⟩, rfl, rfl, fun k => ?_, fun k => ?_,
    fun k hk => ?_⟩
  all_goals simp only [Move.apply_store, Move.listener_applyStore]; split
  · subst k; rfl
  · rfl
  · subst k; rfl
  · rfl
  · rfl
  · exact hk

theorem join (l : ListenerId) (w : World σ) : HandsOver c [] w ((Move.join c l).apply w) :=
  ⟨⟨[.added c l], by simp [Move.entries], rfl, by simp⟩, rfl, rfl, fun _ => rfl, fun _ => rfl,
    fun _ h => h⟩

end HandsOver

/-! ## Attaching -/

/-- The channel of a context after the listeners of a list have joined those it had before. -/
def Store.Attached (s : Store) (c : ContextId) (channel : Channel) (ls : List ListenerId) : Prop :=
  s.channel (.ofContext c) = { channel with listeners := joined channel.listeners ls }

section Attaching

variable {call : Caller σ} {c : ContextId} {channel : Channel} {done : List ListenerId} {w : World σ}

/-- A listener that is told a context has it afterwards, and only jots. -/
theorem bindContext_hands
    (hcall : ∀ p : Program σ, p.Jots → ∀ w, ∃ r m, call p w = (.ok r, m) ∧ Jotted w m)
    {l : ListenerId} (jots : ((w.listenerCode.get l).onBind c).Jots) :
    ∃ m, bindContext call l c w = (.ok (), m) ∧
      HandsOver c [.bound l c (w.store.listenersOf c)] w m ∧
      m.store.channels = w.store.channels ∧ (m.store.listener l).bound = some c := by
  let bound := (Move.bind l c).apply w
  let told := (Move.tellContext l c).apply bound
  obtain ⟨r, m, hrun, hjotted⟩ := hcall _ jots told
  have start : bindContext call l c w =
      (call ((w.listenerCode.get l).onBind c) >>= fun _ => pure ()) told := rfl
  refine ⟨m, ?_, ?_, ?_, ?_⟩
  · rw [start, Action.bind_apply, hrun]
    rfl
  · exact (((HandsOver.bind l w).trans (.tellContext l bound)).trans (.of_jotted hjotted))
  · obtain ⟨_, hm⟩ := hjotted
    rw [hm]
    rfl
  · refine (HandsOver.of_jotted hjotted).kept l ?_
    simp [told, bound, Move.listener_applyStore]

/-- A listener of a list joins a context behind those before it. -/
theorem addListener_hands (own : (w.store.context c).hosted = none)
    (attached : w.store.Attached c channel done) (l : ListenerId) :
    ∃ m, addListener c l w = (.ok (), m) ∧ HandsOver c [] w m ∧
      m.store.Attached c channel (done ++ [l]) := by
  have present : w.store.listenersOf c = joined channel.listeners done :=
    congrArg Channel.listeners attached
  have before : w.store.channel (.ofContext c) = _ := attached
  refine ⟨_, addListener_apply c l w, .join l w, ?_⟩
  unfold Store.Attached
  rw [Move.apply_store, Move.channel_applyStore, joined_concat]
  simp only [if_pos, before, Store.withListener_own own, present]

/-- Attaching the rest of a list, when those before it are attached. -/
theorem attachListeners_hands
    (hcall : ∀ p : Program σ, p.Jots → ∀ w, ∃ r m, call p w = (.ok r, m) ∧ Jotted w m) :
    ∀ (rest : List ListenerId) {done : List ListenerId} {w : World σ},
      (w.store.context c).hosted = none → w.store.Attached c channel done →
      (∀ l ∈ rest, (w.store.listener l).aware = true → ((w.listenerCode.get l).onBind c).Jots) →
      ∃ m, attachListeners call c rest w = (.ok (), m) ∧
        HandsOver c (tellings (fun l => (w.store.listener l).aware) c channel.listeners (done ++ rest)
          (rest.zipIdx done.length)) w m ∧
        m.store.Attached c channel (done ++ rest) ∧
        ∀ l ∈ rest, (w.store.listener l).aware = true → (m.store.listener l).bound = some c
  | [], done, w, _, attached, _ => by
    refine ⟨w, rfl, .refl w, ?_, by simp⟩
    rw [List.append_nil]
    exact attached
  | l :: rest, done, w, own, attached, jots => by
    -- the listener is told the context if it wants to know it
    have first : ∃ m, (∀ next : Action σ Unit, (if (w.store.listener l).aware then
          bindContext call l c >>= fun _ => next else next) w = next m) ∧
        HandsOver c (if (w.store.listener l).aware then [.bound l c (w.store.listenersOf c)] else [])
          w m ∧ m.store.Attached c channel done ∧
        ((w.store.listener l).aware = true → (m.store.listener l).bound = some c) := by
      by_cases aware : (w.store.listener l).aware = true
      · obtain ⟨m, hbind, hands, channels, bound⟩ :=
          bindContext_hands hcall (jots l (List.mem_cons_self ..) aware)
        refine ⟨m, fun next => ?_, by rwa [if_pos aware], ?_, fun _ => bound⟩
        · rw [if_pos aware, Action.bind_apply, hbind]
        · unfold Store.Attached Store.channel
          rw [channels]
          exact attached
      · refine ⟨w, fun next => by rw [if_neg aware], ?_, attached, fun h => absurd h aware⟩
        rw [if_neg aware]
        exact .refl w
    obtain ⟨m, hfirst, hands, attached', bound⟩ := first
    obtain ⟨n, hadd, hands', attached''⟩ :=
      addListener_hands (by rw [hands.context]; exact own) attached' l
    have both := hands.trans hands'
    rw [List.append_nil] at both
    obtain ⟨w', hrest, hands'', attached''', bound'⟩ := attachListeners_hands hcall rest
      (by rw [both.context]; exact own) attached'' (fun k hk aware => by
        rw [both.aware] at aware
        rw [both.code]
        exact jots k (List.mem_cons_of_mem _ hk) aware)
    have aware : (fun k => (n.store.listener k).aware) = fun k => (w.store.listener k).aware :=
      funext both.aware
    rw [aware] at hands''
    simp only [both.aware] at bound'
    rw [List.append_assoc] at hands'' attached'''
    refine ⟨w', ?_, ?_, attached''', fun k hk haware => ?_⟩
    · refine (hfirst _).trans ?_
      rw [Action.bind_apply, hadd]
      exact hrest
    · have all := both.trans hands''
      have present : w.store.listenersOf c = joined channel.listeners done :=
        congrArg Channel.listeners attached
      rw [present] at all
      rw [List.zipIdx_cons, tellings_cons, List.take_left' rfl]
      simpa only [List.length_append, List.length_singleton, List.singleton_append] using all
    · rcases List.mem_cons.1 hk with rfl | hk
      · exact hands''.kept k (hands'.kept k (bound haware))
      · exact bound' k hk haware

end Attaching

/-! ## The handoff -/

/-- A context that is announced as loaded and is not closed gets the listeners of the application
before anybody is handed the event. Each that wants to know the context is told it at each of its
places in the list, and finds the context with the listeners it had and those of the earlier places.
Then the event is handed to the listeners that the context had and, behind them, each other one of the
application once, in the order of their first places. -/
theorem loaded_hands_over (depth : Nat) {a : AnnouncerId} {c : ContextId} {w : World σ}
    (accepted : Phase.expectedAfter (w.store.announcer a).last = some .contextLoaded)
    (own : (w.store.context c).hosted = none) (opened : (w.store.context c).state ≠ .closed)
    (jots : ∀ l ∈ (w.store.announcer a).application.listeners, (w.store.listener l).aware = true →
      ((w.listenerCode.get l).onBind c).Jots) :
    let call := Program.execute (depth + 1)
    let ls := (w.store.announcer a).application.listeners
    let before := w.store.listenersOf c
    ∃ m added, m.store.history = w.store.history ++ .entered a .contextLoaded :: added ∧
      added.filter (·.isBinding) =
        tellings (fun l => (w.store.listener l).aware) c before ls ls.zipIdx ∧
      (∀ l e, .delivered l e ∉ added) ∧
      (∀ l ∈ ls, (w.store.listener l).aware = true → (m.store.listener l).bound = some c) ∧
      m.store.listenersOf c = joined before ls ∧
      announce call a (.contextLoaded c) w = deliver call (w.store.channel (.ofContext c)).policy
        ((w.store.announcer a).event (.contextLoaded c))
        (w.store.supporting .contextLoaded (joined before ls)) m := by
  intro call ls before
  have hcall (p : Program σ) (hp : p.Jots) (m : World σ) :
      ∃ r m', call p m = (.ok r, m') ∧ Jotted m m' := hp.run m
  let entered := (Move.enter a .contextLoaded).apply w
  let announcer := entered.store.announcer a
  have hannouncer : announcer = { w.store.announcer a with last := some .contextLoaded } := by
    simp [announcer, entered, Move.announcer_applyStore]
  have nobody : entered.store.Attached c (w.store.channel (.ofContext c)) [] := by
    show w.store.channel (.ofContext c) = _
    simp [joined]
  obtain ⟨m, hattach, hands, attached, bound⟩ :=
    attachListeners_hands hcall ls (w := entered) own nobody jots
  obtain ⟨added, hadded, hbindings, hundelivered⟩ := hands.history
  have context : m.store.context c = w.store.context c := congrFun hands.context c
  have published : publish call c (announcer.event (.contextLoaded c)) m =
      deliver call (w.store.channel (.ofContext c)).policy
        ((w.store.announcer a).event (.contextLoaded c))
        (w.store.supporting .contextLoaded (joined before ls)) m := by
    have kept : m.store.channel (.ofContext c) = _ := attached
    rw [publish_open (by rw [context]; exact own) (by rw [context]; exact opened), hands.supporting,
      hannouncer, Store.listenersOf, kept]
    rfl
  refine ⟨m, added, ?_, hbindings, hundelivered, bound, congrArg Channel.listeners attached, ?_⟩
  · rw [hadded, Move.apply_store, Move.history_applyStore, List.append_assoc]
    rfl
  · have heard : announcer.application.listeners = ls := by rw [hannouncer]
    rw [announce_loaded accepted]
    show (attachListeners call c announcer.application.listeners >>= _) entered = _
    rw [heard, Action.bind_apply, hattach]
    exact published

/-- Three listeners, the second of which does not want to know its context but is with it, and an
announcer of an application that has the first one twice. -/
def loadable : World Unit :=
  (Program.execute 2 (
    .newListener { aware := true } (fun _ => .done) (fun _ => .note "told" .done) fun first =>
    .newListener {} (fun _ => .done) (fun _ => .done) fun second =>
    .newListener { aware := true } (fun _ => .done) (fun _ => .done) fun third =>
    .newNumberedContext ⟨0⟩ fun c =>
    .addListener c second <|
    .newAnnouncer { name := "", listeners := [first, second, first, third] } [] fun a =>
    .announce a .starting fun _ => .announce a (.environmentPrepared ⟨0⟩) fun _ =>
    .announce a (.contextPrepared c) fun _ => .done) { memory := () }).2

theorem loaded_hands_over_loadable : ∃ (m : World Unit) (added : List Entry),
    m.store.history = loadable.store.history ++ .entered ⟨4⟩ .contextLoaded :: added ∧
    added.filter (·.isBinding) = [.bound ⟨0⟩ ⟨3⟩ [⟨1⟩], .bound ⟨0⟩ ⟨3⟩ [⟨1⟩, ⟨0⟩],
      .bound ⟨2⟩ ⟨3⟩ [⟨1⟩, ⟨0⟩]] ∧
    m.store.listenersOf ⟨3⟩ = [⟨1⟩, ⟨0⟩, ⟨2⟩] := by
  have accepted :
      Phase.expectedAfter (loadable.store.announcer ⟨4⟩).last = some .contextLoaded := by
    decide +kernel
  have own : (loadable.store.context ⟨3⟩).hosted = none := by decide +kernel
  have opened : (loadable.store.context ⟨3⟩).state ≠ .closed := by decide +kernel
  have listed : (loadable.store.announcer ⟨4⟩).application.listeners = [⟨0⟩, ⟨1⟩, ⟨0⟩, ⟨2⟩] := by
    decide +kernel
  have aware : (loadable.store.listener ⟨0⟩).aware = true ∧
      (loadable.store.listener ⟨1⟩).aware = false ∧ (loadable.store.listener ⟨2⟩).aware = true := by
    decide +kernel
  have present : loadable.store.listenersOf ⟨3⟩ = [⟨1⟩] := by decide +kernel
  have blind : ∀ l ∈ [(⟨0⟩ : ListenerId), ⟨1⟩, ⟨0⟩, ⟨2⟩],
      ((loadable.listenerCode.get l).onBind ⟨3⟩).jotsBlindly = true := by
    decide +kernel
  obtain ⟨m, added, history, bindings, -, -, listeners, -⟩ :=
    loaded_hands_over 0 accepted own opened (by
      rw [listed]
      intro l hl
      have h := blind l hl
      -- the code is named, as Lean would run all of the program to see what it is
      generalize (loadable.listenerCode.get l).onBind ⟨3⟩ = code at h ⊢
      exact fun _ => Program.Jots.of_blindly h)
  rw [listed] at bindings listeners
  refine ⟨m, added, history, bindings.trans ?_, listeners.trans ?_⟩
  · obtain ⟨first, second, third⟩ := aware
    rw [present]
    simp [tellings, first, second, third, joined, List.eraseDups_cons]
  · decide +kernel

end Startup
