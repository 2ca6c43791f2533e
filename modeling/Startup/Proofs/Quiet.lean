/-
Quiet code. A quiet program uses every operation but those that make events happen: it publishes
nothing, hands no event to a listener, announces nothing, and changes no channel of a context or an
announcer other than by adding listeners to a context. While only quiet code runs, announcements
reach the listeners they are meant for and no others.
-/
import Startup.Proofs.Execution

namespace Startup

variable {σ : Type}

/-! ## Quiet programs -/

/-- A channel that belongs to no context and no announcer. -/
def ChannelId.IsFree : ChannelId → Prop
  | .free _ => True
  | _ => False

theorem ChannelId.IsFree.ne_early {ch : ChannelId} (h : ch.IsFree) {a : AnnouncerId} :
    .early a ≠ ch := by
  rintro rfl
  exact h

theorem ChannelId.IsFree.isOpen {ch : ChannelId} (h : ch.IsFree) : ch.IsOpen := by
  cases ch with
  | ofContext c => exact h
  | _ => trivial

/-- A program that makes no events happen, whatever it is told. -/
def Program.Quiet : Program σ → Prop
  | .finish _ | .panic _ => True
  | .observe next => ∀ s memory, (next s memory).Quiet
  | .remember _ next | .note _ next | .retain _ next | .addSource _ _ next
  | .setProfiles _ _ next | .addListener _ _ next | .close _ next => next.Quiet
  | .newEnvironment _ next => ∀ e, (next e).Quiet
  | .newOutput next => ∀ o, (next o).Quiet
  | .newListener _ onEvent onBind next =>
    (∀ e, (onEvent e).Quiet) ∧ (∀ c, (onBind c).Quiet) ∧ ∀ l, (next l).Quiet
  | .loadListeners next => ∀ ls, (next ls).Quiet
  | .newChannel next => ∀ n, (next (.free n)).Quiet
  | .register ch _ next | .removeListeners ch next | .logFailures ch next
  | .removeHandler ch next => ch.IsFree ∧ next.Quiet
  | .setHandler ch handler next =>
    ch.IsFree ∧ (∀ l e fault, (handler l e fault).Quiet) ∧ next.Quiet
  | .newContext _ _ next | .newNumberedContext _ next => ∀ c, (next c).Quiet
  | .newHostedContext _ _ _ onPublish onIsolated next =>
    (∀ e, (onPublish e).Quiet) ∧ (∀ e, (onIsolated e).Quiet) ∧ ∀ c, (next c).Quiet
  | .onRefresh _ p next | .onClose _ p next => p.Quiet ∧ next.Quiet
  | .refresh _ next => ∀ r, (next r).Quiet
  | .newAnnouncer _ _ next => ∀ a, (next a).Quiet
  | .invoke .. | .multicast .. | .publish .. | .publishIsolated .. | .announce ..
  | .announceFailure .. | .reportFailure .. => False

/-- A move that quiet code makes, or the announcing of a phase of the given ones. -/
def Move.IsQuiet (P : Phase → Prop) : Move σ → Prop
  | .deliver _ e => P e.phase
  | .enter _ p => P p
  | .bind .. => P .contextLoaded
  | .setPolicy ch _ | .register ch _ | .clear ch => ch.IsFree
  | move => move.Carries Program.Quiet

/-- Quiet code, while phases of the given ones are announced. -/
def Discipline.quiet (P : Phase → Prop) : Discipline σ where
  code := Program.Quiet
  allowed := Move.IsQuiet P
  carries move h := by cases move <;> first | exact h | trivial
  common move common carries := by cases move <;> first | exact carries | exact common.elim
  admitted p h := by
    cases p <;> first | exact h | exact h.elim | trivial | skip
    case setHandler ch handler next => exact ⟨h.2.1, fun _ => h.1, h.2.2⟩

/-- Any move with quiet code but the handing out of events of other phases than the given ones. -/
def Move.IsWithin (P : Phase → Prop) : Move σ → Prop
  | .deliver _ e => P e.phase
  | move => move.Carries Program.Quiet

/-- Quiet code, while anything else happens, but only events of the given phases are handed out. -/
def Discipline.within (P : Phase → Prop) : Discipline σ where
  code := Program.Quiet
  allowed := Move.IsWithin P
  carries move h := by cases move <;> first | exact h | trivial
  common move common carries := by cases move <;> first | exact carries | exact common.elim
  admitted p h := by
    cases p <;> first | exact h | exact h.elim | trivial | exact ⟨trivial, h.2⟩ | skip
    case setHandler ch handler next => exact ⟨h.2.1, fun _ => trivial, h.2.2⟩

/-- Quiet code, while nothing is announced. -/
abbrev Discipline.silent : Discipline σ := .quiet fun _ => False

/-- Where nothing is announced, no phase is but the given ones. -/
theorem Path.of_silent {P : Phase → Prop} {first : Nat} {w w' : World σ}
    (h : Path Discipline.silent.allowed first w w') : Path (Discipline.quiet P).allowed first w w' := by
  refine h.weaken (fun move silent => ?_) (Nat.le_refl _)
  cases move <;> first | exact silent | exact silent.elim

theorem Path.within_of_silent {P : Phase → Prop} {first : Nat} {w w' : World σ}
    (h : Path Discipline.silent.allowed first w w') : Path (Discipline.within P).allowed first w w' := by
  refine h.weaken (fun move silent => ?_) (Nat.le_refl _)
  cases move <;> first | exact silent | exact silent.elim | trivial

/-- A phase may be announced if it is among the given ones. -/
theorem allowsAnnouncing_quiet {P : Phase → Prop} {p : Phase} (h : P p) :
    AllowsAnnouncing (Discipline.quiet (σ := σ) P).allowed p where
  enter _ := h
  deliver _ _ he := by subst he; exact h
  bind hp _ _ := by subst hp; exact h

/-- An announcement is of an ordinary phase. -/
theorem Announcement.phase_ne_failed (what : Announcement) : what.phase ≠ .failed := by
  cases what <;> simp [Announcement.phase]

/-! ## What quiet paths keep -/

/-- The listeners that were handed an event of a phase, in order. -/
def Entry.receiver? (p : Phase) : Entry → Option ListenerId
  | .delivered l e => if e.phase = p then some l else none
  | _ => none

def receivers (p : Phase) (h : List Entry) : List ListenerId := h.filterMap (·.receiver? p)

theorem receivers_append (p : Phase) (h₁ h₂ : List Entry) :
    receivers p (h₁ ++ h₂) = receivers p h₁ ++ receivers p h₂ :=
  List.filterMap_append ..

/-- A context is as it was in this, unless it was made just now. -/
theorem hosted_applyStore (move : Move σ) {s : Store} {c : ContextId}
    (other : c ≠ ⟨s.fresh⟩ ∨ move.numbers = 0) :
    ((move.applyStore s).context c).hosted = (s.context c).hosted := by
  rw [Move.context_applyStore]
  cases move with
  | makeContext context =>
    have hne : c ≠ ⟨s.fresh⟩ := other.resolve_right (by simp [Move.numbers])
    simp only [if_neg hne]
  | onRefresh d _ | onClose d _ | beginRefresh d | restore _ d _ | activate _ d _ | beginClosing d =>
    dsimp only
    split
    · subst_vars; rfl
    · rfl
  | _ => rfl

/-- Quiet code reaches the listeners of a context by adding to them alone. -/
theorem Move.IsQuiet.spares {P : Phase → Prop} {move : Move σ} (quiet : move.IsQuiet P) :
    move.Spares := by
  cases move with
  | register ch l | clear ch => exact ChannelId.IsFree.isOpen quiet
  | _ => trivial

/-- No context that is yet to be made is one that the application implements itself. -/
def Store.OwnAhead (s : Store) : Prop :=
  ∀ c : ContextId, s.fresh ≤ c.number → (s.context c).hosted = none

theorem Store.OwnAhead.step {s : Store} (h : s.OwnAhead) (move : Move σ) :
    (move.applyStore s).OwnAhead := by
  intro c hc
  rw [Move.fresh_applyStore] at hc
  have other : c ≠ ⟨s.fresh⟩ ∨ move.numbers = 0 := by
    by_cases hnone : move.numbers = 0
    · exact .inr hnone
    · refine .inl fun heq => ?_
      rw [heq] at hc
      simp only at hc
      omega
  rw [hosted_applyStore move other]
  exact h c (by omega)

/-- A context that the application does not implement itself never was one that it does. -/
theorem Store.OwnAhead.before {s : Store} (h : s.OwnAhead) {move : Move σ} {c : ContextId}
    (own : ((move.applyStore s).context c).hosted = none) : (s.context c).hosted = none := by
  by_cases other : c ≠ ⟨s.fresh⟩ ∨ move.numbers = 0
  · rwa [← hosted_applyStore move other]
  · refine h c ?_
    have new : c = ⟨s.fresh⟩ := Decidable.byContradiction fun hne => other (.inl hne)
    simp [new]

namespace Path

variable {P : Phase → Prop} {first : Nat} {w w' : World σ}

/-- No event of another phase is handed to anyone, and no other phase is entered. -/
theorem quiet_history (h : Path (Discipline.quiet P).allowed first w w') :
    ∃ added, w'.store.history = w.store.history ++ added ∧
      ∀ p, ¬ P p → receivers p added = [] ∧ ∀ a, .entered a p ∉ added := by
  induction h with
  | refl => exact ⟨[], by simp, fun _ _ => ⟨rfl, fun _ => List.not_mem_nil⟩⟩
  | @snoc m move _ enabled quiet since ih =>
    obtain ⟨added, hadded, hothers⟩ := ih
    refine ⟨added ++ move.entries m.store, by simp [hadded], fun p hp => ?_⟩
    obtain ⟨hreceivers, hentered⟩ := hothers p hp
    have hmove : receivers p (move.entries m.store) = [] ∧
        ∀ a, .entered a p ∉ move.entries m.store := by
      clear since
      cases move <;> simp [Move.entries, receivers, Entry.receiver?]
      case record e => cases e <;> first | exact enabled.elim | simp
      case deliver l e => exact fun he => hp (by subst he; exact quiet)
      case enter a q => exact fun hq => hp (by subst hq; exact quiet)
    refine ⟨by rw [receivers_append, hreceivers, hmove.1]; rfl, fun a ha => ?_⟩
    rcases List.mem_append.1 ha with ha | ha
    · exact hentered a ha
    · exact hmove.2 a ha

/-- A part of the store that every move keeps as long as a number is taken. -/
theorem keep {allowed : Move σ → Prop} {β : Type} {f : Store → β} {n : Nat}
    (h : Path allowed first w w') (taken : n < w.store.fresh)
    (step : ∀ (move : Move σ) (s : Store), n < s.fresh → move.Enabled s → allowed move →
      f (move.applyStore s) = f s) : f w'.store = f w.store := by
  have both : n < w'.store.fresh ∧ f w'.store = f w.store := by
    refine h.invariant (I := fun m => n < m.store.fresh ∧ f m.store = f w.store)
      (fun move m enabled ok _ hm => ⟨?_, ?_⟩) ⟨taken, rfl⟩
    · simp
      omega
    · rw [Move.apply_store, step move m.store hm.1 enabled ok, hm.2]
  exact both.2

/-- The early channel of an announcer stays as it was made. -/
theorem quiet_early (h : Path (Discipline.quiet P).allowed first w w') {a : AnnouncerId}
    (made : a.number < w.store.fresh) :
    w'.store.channel (.early a) = w.store.channel (.early a) := by
  refine h.keep (f := (·.channel (.early a))) made fun move s taken enabled quiet => ?_
  rw [Move.channel_applyStore]
  cases move with
  | setPolicy ch policy => exact if_neg (ChannelId.IsFree.ne_early quiet)
  | register ch l => exact if_neg (ChannelId.IsFree.ne_early quiet)
  | clear ch => exact if_neg (ChannelId.IsFree.ne_early quiet)
  | join c l => exact if_neg (by simp)
  | makeAnnouncer app args =>
    have other : a ≠ ⟨s.fresh⟩ := AnnouncerId.ne_next taken
    exact if_neg (by simpa using other)
  | _ => rfl

/-- What an announcer tells about its application stays as it was made. -/
theorem application (h : Path (Discipline.quiet P).allowed first w w') {a : AnnouncerId}
    (made : a.number < w.store.fresh) :
    (w'.store.announcer a).application = (w.store.announcer a).application := by
  refine h.keep (f := fun s => (s.announcer a).application) made fun move s taken enabled quiet => ?_
  rw [Move.announcer_applyStore]
  cases move with
  | makeAnnouncer app args =>
    have other : a ≠ ⟨s.fresh⟩ := AnnouncerId.ne_next taken
    simp only [if_neg other]
  | enter b p =>
    dsimp only
    split
    · subst_vars; rfl
    · rfl
  | _ => rfl

/-- Where nothing is announced, an announcer stays as it is. -/
theorem silent_announcer (h : Path Discipline.silent.allowed first w w') {a : AnnouncerId}
    (made : a.number < w.store.fresh) : w'.store.announcer a = w.store.announcer a := by
  refine h.keep (f := (·.announcer a)) made fun move s taken enabled silent => ?_
  rw [Move.announcer_applyStore]
  cases move with
  | makeAnnouncer app args =>
    have other : a ≠ ⟨s.fresh⟩ := AnnouncerId.ne_next taken
    exact if_neg other
  | enter b p => exact silent.elim
  | _ => rfl

/-- While one phase is announced, an announcer that has entered it stays there. -/
theorem last_entered {p : Phase} (h : Path (Discipline.quiet (· = p)).allowed first w w')
    {a : AnnouncerId} (made : a.number < w.store.fresh)
    (start : (w.store.announcer a).last = some p) : (w'.store.announcer a).last = some p := by
  have both : a.number < w'.store.fresh ∧ (w'.store.announcer a).last = some p := by
    refine h.invariant (I := fun m => a.number < m.store.fresh ∧ (m.store.announcer a).last = some p)
      (fun move m _ quiet _ hm => ⟨?_, ?_⟩) ⟨made, start⟩
    · have := hm.1
      simp
      omega
    · rw [Move.apply_store, Move.announcer_applyStore]
      cases move with
      | makeAnnouncer app args =>
        have other : a ≠ ⟨m.store.fresh⟩ := AnnouncerId.ne_next hm.1
        simp only [if_neg other, hm.2]
      | enter b q =>
        dsimp only
        split
        · exact congrArg some quiet
        · exact hm.2
      | _ => exact hm.2
  exact both.2

/-- Whether a context is one that the application implements itself stays as it was made. -/
theorem hosted {allowed : Move σ → Prop} (h : Path allowed first w w') {c : ContextId}
    (made : c.number < w.store.fresh) :
    (w'.store.context c).hosted = (w.store.context c).hosted := by
  refine h.keep (f := fun s => (s.context c).hosted) made fun move s taken _ _ => ?_
  exact hosted_applyStore move (.inl (ContextId.ne_next taken))

/-- The phases that a listener listens to stay as it was made. -/
theorem supports {allowed : Move σ → Prop} (h : Path allowed first w w') {l : ListenerId}
    (made : l.number < w.store.fresh) (p : Phase) :
    (w'.store.listener l).supports p = (w.store.listener l).supports p := by
  refine h.keep (f := fun s => (s.listener l).supports p) made fun move s taken enabled _ => ?_
  rw [Move.listener_applyStore]
  cases move with
  | makeListener listener code =>
    have other : l ≠ ⟨s.fresh⟩ := ListenerId.ne_next taken
    simp only [if_neg other]
  | tellContext k _ | storeSettings k _ =>
    dsimp only
    split
    · subst_vars; rfl
    · rfl
  | _ => rfl

/-- No failure is announced where the failure is not among the phases. -/
theorem last_ne_failed (h : Path (Discipline.quiet P).allowed first w w') (other : ¬ P .failed)
    {a : AnnouncerId} (start : (w.store.announcer a).last ≠ some .failed) :
    (w'.store.announcer a).last ≠ some .failed := by
  refine h.invariant (I := fun m => (m.store.announcer a).last ≠ some .failed)
    (fun move m _ quiet _ hm => ?_) start
  rw [Move.apply_store, Move.announcer_applyStore]
  cases move with
  | makeAnnouncer app args =>
    dsimp only
    split
    · simp
    · exact hm
  | enter b p =>
    dsimp only
    split
    · exact fun hp => other (Option.some.inj hp ▸ quiet)
    · exact hm
  | _ => exact hm

/-- The listeners that a context has stay where they are, and others come behind them. -/
theorem listenersOf_grow {allowed : Move σ → Prop} (h : Path allowed first w w')
    (spares : ∀ move, allowed move → move.Spares) (c : ContextId) :
    w.store.listenersOf c <+: w'.store.listenersOf c := by
  refine h.invariant (I := fun m => w.store.listenersOf c <+: m.store.listenersOf c)
    (fun move m _ ok _ hm => ?_) List.prefix_rfl
  rw [Move.apply_store]
  exact hm.trans (move.listenersOf_grow (spares move ok) m.store c)

/-- Listeners of a context stay with it. -/
theorem joined (h : Path (Discipline.quiet P).allowed first w w') {c : ContextId} {l : ListenerId}
    (start : l ∈ w.store.listenersOf c) : l ∈ w'.store.listenersOf c :=
  (h.listenersOf_grow (fun _ quiet => quiet.spares) c).subset start

end Path

/-! ## Distinct listeners -/

/-- Contexts that are not made yet are as at the beginning; no code has got hold of one. -/
def Store.Unmade (s : Store) : Prop :=
  ∀ c : ContextId, s.fresh ≤ c.number → (s.context c).hosted = none ∧ s.listenersOf c = []

/-- No context that was made since numbers were below `first` has a listener twice, unless the
application implements the context itself. -/
structure Store.Distinct (first : Nat) (s : Store) : Prop where
  unmade : ∀ c : ContextId, s.fresh ≤ c.number → (s.context c).hosted = none
  distinct : ∀ c : ContextId, first ≤ c.number → (s.context c).hosted = none →
    (s.listenersOf c).Nodup

theorem Store.Unmade.distinct {s : Store} (h : s.Unmade) : s.Distinct s.fresh where
  unmade c hc := (h c hc).1
  distinct c hc _ := by rw [(h c hc).2]; exact List.nodup_nil

theorem Store.Distinct.step {P : Phase → Prop} {first : Nat} {s : Store} (h : s.Distinct first)
    {move : Move σ} (quiet : move.IsQuiet P) : (move.applyStore s).Distinct first := by
  refine ⟨Store.OwnAhead.step h.unmade move, fun c hc own => ?_⟩
  have before : (s.context c).hosted = none := Store.OwnAhead.before h.unmade own
  have old := h.distinct c hc before
  rw [Move.listenersOf_applyStore s c quiet.spares]
  cases move with
  | join d l =>
    dsimp only
    split
    · exact Store.nodup_withListener before old l
    · exact old
  | _ => exact old

theorem Path.distinct {P : Phase → Prop} {first n : Nat} {w w' : World σ}
    (h : Path (Discipline.quiet P).allowed first w w') (start : w.store.Distinct n) :
    w'.store.Distinct n :=
  h.invariant (I := fun m => m.store.Distinct n)
    (fun move m _ quiet _ hm => by rw [Move.apply_store]; exact hm.step quiet) start

end Startup
