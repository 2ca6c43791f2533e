/-
The basic changes of a world. Whatever code runs, the world changes by moves alone, each of which is
made only where it is enabled; a statement about all runs is therefore one about each move. A move
that belongs to a refresh or a closing bears its number.
-/
import Startup.Application.Run

namespace Startup

variable {σ : Type}

/-! ## The history of a store -/

/-- What has happened so far, the oldest first. -/
def Store.history (s : Store) : List Entry := s.journal.toList

/-- The callback that an entry says was called in a turn. -/
def Entry.calledIn? (turn : Nat) : Entry → Option CallbackId
  | .called t _ callback => if t = turn then some callback else none
  | _ => none

/-- The callbacks called in a turn, in order. -/
def calledIn (turn : Nat) (h : List Entry) : List CallbackId := h.filterMap (·.calledIn? turn)

theorem calledIn_append (t : Nat) (h₁ h₂ : List Entry) :
    calledIn t (h₁ ++ h₂) = calledIn t h₁ ++ calledIn t h₂ :=
  List.filterMap_append ..

/-- An entry of a history that has grown stands in the old part or in the new one. -/
theorem history_split {h added before since : List Entry} {e : Entry}
    (heq : h ++ added = before ++ e :: since) :
    (∃ old, h = before ++ e :: old ∧ since = old ++ added) ∨
      ∃ left, before = h ++ left ∧ added = left ++ e :: since := by
  rcases List.append_eq_append_iff.1 heq with ⟨left, hbefore, hadded⟩ | ⟨old, hold, hsince⟩
  · exact .inr ⟨left, hbefore, hadded⟩
  · cases old with
    | nil => exact .inr ⟨[], by simpa using hold.symm, by simpa using hsince.symm⟩
    | cons x rest =>
      obtain ⟨rfl, rfl⟩ := List.cons.inj hsince
      exact .inl ⟨rest, hold, rfl⟩

/-- An entry of a history with one more entry stands before that one, or it is that one. -/
theorem history_last {h before since : List Entry} {e last : Entry}
    (heq : h ++ [last] = before ++ e :: since) :
    (∃ old, h = before ++ e :: old ∧ since = old ++ [last]) ∨ before = h ∧ e = last ∧ since = [] := by
  rcases history_split heq with old | ⟨left, rfl, hleft⟩
  · exact .inl old
  · cases left with
    | nil =>
      obtain ⟨rfl, rfl⟩ := List.cons.inj hleft
      exact .inr ⟨List.append_nil h, rfl, rfl⟩
    | cons x left => simp at hleft

/-- A refresh or closing of a context has called all of its callbacks but these. -/
def Store.Owes (s : Store) (turn : Nat) (c : ContextId) (left : List CallbackId) : Prop :=
  ∃ before opening since, s.history = before ++ opening :: since ∧
    (opening = .refreshing turn c (calledIn turn since ++ left) ∨
      opening = .closing turn c (calledIn turn since ++ left))

/-- The refresh of a context that an entry says has ended. -/
def Entry.ended? (c : ContextId) : Entry → Option Nat
  | .refreshed turn d | .refreshFailed turn d => if d = c then some turn else none
  | _ => none

theorem Entry.ended_iff {c : ContextId} {e : Entry} {turn : Nat} :
    e.ended? c = some turn ↔ e = .refreshed turn c ∨ e = .refreshFailed turn c := by
  cases e <;> simp [Entry.ended?, and_comm]

/-- The refreshes of a context that have ended, in order. -/
def endedIn (c : ContextId) (h : List Entry) : List Nat := h.filterMap (·.ended? c)

theorem endedIn_append (c : ContextId) (h₁ h₂ : List Entry) :
    endedIn c (h₁ ++ h₂) = endedIn c h₁ ++ endedIn c h₂ :=
  List.filterMap_append ..

/-- A refresh of a context is under way: those that have ended since it began are nested in it. -/
def Store.UnderWay (s : Store) (turn : Nat) (c : ContextId) (callbacks : List CallbackId) : Prop :=
  ∃ before since, s.history = before ++ .refreshing turn c callbacks :: since ∧
    ∀ t ∈ endedIn c since, turn < t

theorem Store.UnderWay.begun {s : Store} {turn : Nat} {c : ContextId} {callbacks : List CallbackId}
    (h : s.UnderWay turn c callbacks) : .refreshing turn c callbacks ∈ s.history := by
  obtain ⟨before, since, heq, -⟩ := h
  simp [heq]

/-- An entry that goes with no change of an object. -/
def Entry.IsPlain : Entry → Prop
  | .logged .. | .noted _ | .handled .. | .stepped _ | .reported .. => True
  | _ => False

/-- A context knows the listeners that it has, unless the application implements it itself. -/
def Store.knows (s : Store) (c : ContextId) (l : ListenerId) : Bool :=
  (s.context c).hosted.isNone && (s.listenersOf c).contains l

/-- The listeners of a context once one was added. -/
def Store.withListener (s : Store) (c : ContextId) (l : ListenerId) : List ListenerId :=
  if s.knows c l then s.listenersOf c else s.listenersOf c ++ [l]

theorem Store.mem_withListener {s : Store} {c : ContextId} {l k : ListenerId} :
    k ∈ s.withListener c l ↔ k ∈ s.listenersOf c ∨ k = l := by
  unfold withListener
  split
  · rename_i known
    simp only [knows, Bool.and_eq_true, List.contains_iff_mem] at known
    exact ⟨.inl, fun h => h.elim id fun hk => hk ▸ known.2⟩
  · simp

theorem Store.listenersOf_withListener (s : Store) (c : ContextId) (l : ListenerId) :
    s.listenersOf c <+: s.withListener c l := by
  unfold withListener
  split
  · exact List.prefix_rfl
  · exact List.prefix_append ..

theorem Store.withListener_own {s : Store} {c : ContextId} (own : (s.context c).hosted = none)
    (l : ListenerId) :
    s.withListener c l = if l ∈ s.listenersOf c then s.listenersOf c else s.listenersOf c ++ [l] := by
  simp [withListener, knows, own]

/-- A context that has its listeners once goes on to do so. -/
theorem Store.nodup_withListener {s : Store} {c : ContextId} (own : (s.context c).hosted = none)
    (once : (s.listenersOf c).Nodup) (l : ListenerId) : (s.withListener c l).Nodup := by
  rw [withListener_own own]
  split
  · exact once
  · rename_i absent
    refine List.nodup_append.2 ⟨once, by simp, fun k hk j hj hkj => ?_⟩
    rw [List.mem_singleton.1 hj] at hkj
    exact absent (hkj ▸ hk)

/-- A channel that is not the one of a context. -/
def ChannelId.IsOpen : ChannelId → Prop
  | .ofContext _ => False
  | _ => True

theorem ChannelId.IsOpen.ne_ofContext {ch : ChannelId} (h : ch.IsOpen) {c : ContextId} :
    .ofContext c ≠ ch := by
  rintro rfl
  exact h

/-! An object that was made has not the next number. -/

theorem AnnouncerId.ne_next {a : AnnouncerId} {n : Nat} (made : a.number < n) : a ≠ ⟨n⟩ := by
  rintro rfl
  exact Nat.lt_irrefl _ made

theorem ContextId.ne_next {c : ContextId} {n : Nat} (made : c.number < n) : c ≠ ⟨n⟩ := by
  rintro rfl
  exact Nat.lt_irrefl _ made

theorem ListenerId.ne_next {l : ListenerId} {n : Nat} (made : l.number < n) : l ≠ ⟨n⟩ := by
  rintro rfl
  exact Nat.lt_irrefl _ made

/-! ## Moves -/

inductive Move (σ : Type) where
  | remember (memory : σ)
  | retain (e : Event)
  | print (text : String)
  | setUpLog
  | record (e : Entry)
  /-- A number is used up. -/
  | takeNumber
  | takeSequence
  | makeEnvironment (env : Environment)
  | setEnvironment (e : EnvironmentId) (env : Environment)
  | setOutput (o : OutputId) (output : AnsiOutput)
  | makeListener (l : Listener) (code : ListenerCode σ)
  | tellContext (l : ListenerId) (c : ContextId)
  | storeSettings (l : ListenerId) (settings : Web.Settings)
  /-- A listener is about to be told its context. -/
  | bind (l : ListenerId) (c : ContextId)
  | deliver (l : ListenerId) (e : Event)
  | makeHandler (code : HandlerCode σ)
  | setPolicy (ch : ChannelId) (policy : Policy)
  | register (ch : ChannelId) (l : ListenerId)
  | clear (ch : ChannelId)
  /-- A listener joins those of a context, unless it is among them. -/
  | join (c : ContextId) (l : ListenerId)
  | makeAnnouncer (app : Descriptor) (args : List String)
  | enter (a : AnnouncerId) (p : Phase)
  | makeContext (c : Context)
  | host (c : ContextId) (code : HostCode σ)
  | onRefresh (c : ContextId) (code : Program σ)
  | onClose (c : ContextId) (code : Program σ)
  | beginRefresh (c : ContextId)
  /-- A refresh ends with a failure: its callbacks are put back. -/
  | restore (turn : Nat) (c : ContextId) (callbacks : List CallbackId)
  /-- A refresh ends well: its callbacks are put back, and the context becomes active. -/
  | activate (turn : Nat) (c : ContextId) (callbacks : List CallbackId)
  | beginClosing (c : ContextId)
  | call (turn : Nat) (c : ContextId) (callback : CallbackId)

namespace Move

/-- The entries that a move makes. -/
def entries (s : Store) : Move σ → List Entry
  | .record e => [e]
  | .bind l c => [.bound l c (s.listenersOf c)]
  | .deliver l e => [.delivered l e]
  | .makeAnnouncer .. => [.madeAnnouncer ⟨s.fresh⟩]
  | .enter a p => [.entered a p]
  | .join c l => [.added c l]
  | .makeContext _ => [.madeContext ⟨s.fresh⟩]
  | .onRefresh c _ => [.registered c ⟨s.fresh⟩]
  | .beginRefresh c => [.refreshing s.fresh c (s.context c).callbacks]
  | .restore turn c _ => [.refreshFailed turn c]
  | .activate turn c _ => [.refreshed turn c]
  | .beginClosing c => [.closing s.fresh c (s.context c).hooks]
  | .call turn c callback => [.called turn c callback]
  | _ => []

/-- A move makes one entry at most. -/
theorem entries_split {m : Move σ} {s : Store} {left since : List Entry} {e : Entry}
    (h : m.entries s = left ++ e :: since) : left = [] ∧ since = [] := by
  have one : (m.entries s).length ≤ 1 := by cases m <;> simp [entries]
  rw [h, List.length_append, List.length_cons] at one
  constructor
  · exact List.eq_nil_of_length_eq_zero (by omega)
  · exact List.eq_nil_of_length_eq_zero (by omega)

/-- How many numbers a move uses up. -/
def numbers : Move σ → Nat
  | .takeNumber | .makeEnvironment _ | .makeListener .. | .makeHandler _ | .makeAnnouncer ..
  | .makeContext _ | .onRefresh .. | .onClose .. | .beginRefresh _ | .beginClosing _ => 1
  | _ => 0

/-- What a move makes of the objects, the journal and the numbers apart. -/
def change (s : Store) : Move σ → Store
  | .retain e => { s with retained := e :: s.retained }
  | .print text => { s with printed := s.printed ++ text }
  | .takeSequence => { s with sequence := s.sequence + 1 }
  | .makeEnvironment env => { s with environments := s.environments.set ⟨s.fresh⟩ env }
  | .setEnvironment e env => { s with environments := s.environments.set e env }
  | .setOutput o output => { s with outputs := s.outputs.set o output }
  | .makeListener l _ => { s with listeners := s.listeners.set ⟨s.fresh⟩ l }
  | .tellContext l c =>
    { s with listeners := s.listeners.modify l fun listener => { listener with bound := some c } }
  | .storeSettings l settings =>
    { s with
      listeners := s.listeners.modify l fun listener => { listener with settings := some settings } }
  | .setPolicy ch policy =>
    { s with channels := s.channels.modify ch fun channel => { channel with policy } }
  | .register ch l =>
    { s with
      channels := s.channels.modify ch fun channel =>
        { channel with listeners := channel.listeners ++ [l] } }
  | .clear ch =>
    { s with channels := s.channels.modify ch fun channel => { channel with listeners := [] } }
  | .join c l =>
    { s with
      channels :=
        if s.knows c l then s.channels
        else s.channels.modify (.ofContext c) fun channel =>
          { channel with listeners := channel.listeners ++ [l] } }
  | .makeAnnouncer app args =>
    { s with
      announcers := s.announcers.set ⟨s.fresh⟩ { application := app, args }
      channels := s.channels.set (.early ⟨s.fresh⟩) { listeners := app.listeners } }
  | .enter a p =>
    { s with announcers := s.announcers.modify a fun announcer => { announcer with last := some p } }
  | .makeContext c => { s with contexts := s.contexts.set ⟨s.fresh⟩ c }
  | .onRefresh c _ =>
    { s with
      contexts := s.contexts.modify c fun context =>
        { context with callbacks := context.callbacks ++ [⟨s.fresh⟩] } }
  | .onClose c _ =>
    { s with
      contexts := s.contexts.modify c fun context =>
        { context with hooks := context.hooks ++ [⟨s.fresh⟩] } }
  | .beginRefresh c =>
    { s with contexts := s.contexts.modify c fun context => { context with callbacks := [] } }
  | .restore _ c callbacks =>
    { s with
      contexts := s.contexts.modify c fun context =>
        { context with callbacks := callbacks ++ context.callbacks } }
  | .activate _ c callbacks =>
    { s with
      contexts := s.contexts.modify c fun context =>
        { context with callbacks := callbacks ++ context.callbacks, state := .active } }
  | .beginClosing c =>
    { s with contexts := s.contexts.modify c fun context => { context with state := .closed } }
  | _ => s

/-- The store after a move. -/
def applyStore (m : Move σ) (s : Store) : Store :=
  { m.change s with
    journal := s.journal ++ (m.entries s).toArray
    fresh := s.fresh + m.numbers }

/-- The move that ends a refresh. -/
def endRefresh (turn : Nat) (c : ContextId) (callbacks : List CallbackId) : Except Fault Unit → Move σ
  | .ok _ => .activate turn c callbacks
  | .error _ => .restore turn c callbacks

/-- The world after a move. -/
def apply (m : Move σ) (w : World σ) : World σ :=
  let moved := { w with store := m.applyStore w.store }
  match m with
  | .remember memory => { moved with memory }
  | .setUpLog => { moved with logRefusal := some LogSettings.taken }
  | .makeListener _ code =>
    { moved with listenerCode := w.listenerCode.set ⟨w.store.fresh⟩ code }
  | .makeHandler code => { moved with handlerCode := w.handlerCode.set w.store.fresh code }
  | .host c code => { moved with hostCode := w.hostCode.set c code }
  | .onRefresh _ code | .onClose _ code =>
    { moved with callbackCode := w.callbackCode.set ⟨w.store.fresh⟩ code }
  | _ => moved

/-- The number of the refresh or closing that a move belongs to. -/
def turn? : Move σ → Option Nat
  | .restore turn _ _ | .activate turn _ _ | .call turn _ _ => some turn
  | _ => none

/-- When a move is made. A turn ends as it began, and calls its callbacks in order. -/
def Enabled (s : Store) : Move σ → Prop
  | .record e => e.IsPlain
  | .enter a p =>
    p = .failed ∧ (s.announcer a).last ≠ some .failed ∨
      Phase.expectedAfter (s.announcer a).last = some p
  | .makeContext c => c.state = .created ∧ c.callbacks = [] ∧ c.hooks = []
  | .beginRefresh c => (s.context c).hosted = none ∧ (s.context c).state = .created
  | .restore turn c callbacks | .activate turn c callbacks => s.UnderWay turn c callbacks
  | .beginClosing c => (s.context c).hosted = none ∧ (s.context c).state ≠ .closed
  | .call turn c callback => ∃ rest, s.Owes turn c (callback :: rest)
  | _ => True

/-- Only its own move calls a callback in a turn. -/
theorem calledIn_entries {move : Move σ} {s : Store} {t : Nat} (enabled : move.Enabled s)
    (ht : move.turn? ≠ some t) : calledIn t (move.entries s) = [] := by
  cases move <;> simp_all [Move.entries, Move.turn?, calledIn, Entry.calledIn?, Move.Enabled]
  rename_i e
  cases e <;> simp_all [Entry.IsPlain]

/-- A refresh ends by a move of its own. -/
theorem ended_entries {move : Move σ} {s : Store} {c : ContextId} {t : Nat}
    (enabled : move.Enabled s) (ht : t ∈ endedIn c (move.entries s)) : move.turn? = some t := by
  cases move <;> simp_all [Move.entries, Move.turn?, endedIn, Entry.ended?, Move.Enabled]
  rename_i e
  cases e <;> simp_all [Entry.IsPlain]

/-! ## What a move does to each object -/

@[simp] theorem apply_store (m : Move σ) (w : World σ) :
    (m.apply w).store = m.applyStore w.store := by
  cases m <;> rfl

@[simp] theorem history_applyStore (m : Move σ) (s : Store) :
    (m.applyStore s).history = s.history ++ m.entries s := by
  simp [applyStore, Store.history]

@[simp] theorem fresh_applyStore (m : Move σ) (s : Store) :
    (m.applyStore s).fresh = s.fresh + m.numbers := rfl

theorem announcer_applyStore (m : Move σ) (s : Store) (a : AnnouncerId) :
    (m.applyStore s).announcer a =
      match m with
      | .makeAnnouncer app args =>
        if a = ⟨s.fresh⟩ then { application := app, args } else s.announcer a
      | .enter b p => if a = b then { s.announcer b with last := some p } else s.announcer a
      | _ => s.announcer a := by
  cases m <;> simp [applyStore, change, Store.announcer]

theorem context_applyStore (m : Move σ) (s : Store) (c : ContextId) :
    (m.applyStore s).context c =
      match m with
      | .makeContext context => if c = ⟨s.fresh⟩ then context else s.context c
      | .onRefresh d _ =>
        if c = d then { s.context d with callbacks := (s.context d).callbacks ++ [⟨s.fresh⟩] }
        else s.context c
      | .onClose d _ =>
        if c = d then { s.context d with hooks := (s.context d).hooks ++ [⟨s.fresh⟩] }
        else s.context c
      | .beginRefresh d => if c = d then { s.context d with callbacks := [] } else s.context c
      | .restore _ d callbacks =>
        if c = d then { s.context d with callbacks := callbacks ++ (s.context d).callbacks }
        else s.context c
      | .activate _ d callbacks =>
        if c = d then
          { s.context d with callbacks := callbacks ++ (s.context d).callbacks, state := .active }
        else s.context c
      | .beginClosing d => if c = d then { s.context d with state := .closed } else s.context c
      | _ => s.context c := by
  cases m <;> simp [applyStore, change, Store.context]

theorem channel_applyStore (m : Move σ) (s : Store) (ch : ChannelId) :
    (m.applyStore s).channel ch =
      match m with
      | .setPolicy d policy => if ch = d then { s.channel d with policy } else s.channel ch
      | .register d l =>
        if ch = d then { s.channel d with listeners := (s.channel d).listeners ++ [l] }
        else s.channel ch
      | .clear d => if ch = d then { s.channel d with listeners := [] } else s.channel ch
      | .join c l =>
        if ch = .ofContext c then { s.channel ch with listeners := s.withListener c l }
        else s.channel ch
      | .makeAnnouncer app _ =>
        if ch = .early ⟨s.fresh⟩ then { listeners := app.listeners } else s.channel ch
      | _ => s.channel ch := by
  cases m <;> simp [applyStore, change, Store.channel]
  case join c l =>
    unfold Store.withListener
    split <;> simp_all [Store.listenersOf, Store.channel]

/-- A move that neither registers a listener at the channel of a context nor clears one. -/
def Spares : Move σ → Prop
  | .register ch _ | .clear ch => ch.IsOpen
  | _ => True

/-- Listeners of a context become more by joining it, and in no other way. -/
theorem listenersOf_applyStore {m : Move σ} (s : Store) (c : ContextId) :
    m.Spares → (m.applyStore s).listenersOf c =
      match m with
      | .join d l => if d = c then s.withListener c l else s.listenersOf c
      | _ => s.listenersOf c := by
  intro spares
  unfold Store.listenersOf
  rw [channel_applyStore]
  cases m with
  | register ch l | clear ch => simp [ChannelId.IsOpen.ne_ofContext spares]
  | setPolicy ch policy =>
    dsimp only
    split
    · subst_vars; rfl
    · rfl
  | join d l =>
    by_cases hd : d = c
    · simp [hd]
    · simp [hd, Ne.symm hd]
  | makeAnnouncer app args => simp
  | _ => rfl

/-- The listeners of a context stay where they are. -/
theorem listenersOf_grow {m : Move σ} (spares : m.Spares) (s : Store) (c : ContextId) :
    s.listenersOf c <+: (m.applyStore s).listenersOf c := by
  rw [listenersOf_applyStore s c spares]
  cases m with
  | join d l =>
    dsimp only
    split
    · exact s.listenersOf_withListener c l
    · exact List.prefix_rfl
  | _ => exact List.prefix_rfl

theorem listener_applyStore (m : Move σ) (s : Store) (l : ListenerId) :
    (m.applyStore s).listener l =
      match m with
      | .makeListener listener _ => if l = ⟨s.fresh⟩ then listener else s.listener l
      | .tellContext k c => if l = k then { s.listener k with bound := some c } else s.listener l
      | .storeSettings k settings =>
        if l = k then { s.listener k with settings := some settings } else s.listener l
      | _ => s.listener l := by
  cases m <;> simp [applyStore, change, Store.listener]

end Move

end Startup
