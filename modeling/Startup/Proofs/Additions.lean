/-
The listeners of a context as an ordered set. Listeners are added to a context by initializers, by
announcers, and by callbacks and listeners while an event is on its way, and the channel of the context
would take one twice. As long as the channel is left to the context, its listeners are those ever added
to it, each once and in the order of their first additions, wherever a run has come to.
-/
import Startup.Proofs.Quiet

namespace Startup

variable {σ : Type}

/-! ## Code that leaves the channels of contexts alone -/

/-- A program that uses every operation, but registers no listener at the channel of a context and
removes none from one: such a channel is the context's own. -/
def Program.Discreet : Program σ → Prop
  | .finish _ | .panic _ => True
  | .observe next => ∀ s memory, (next s memory).Discreet
  | .remember _ next | .note _ next | .retain _ next | .addSource _ _ next | .setProfiles _ _ next
  | .addListener _ _ next | .close _ next | .logFailures _ next | .removeHandler _ next
  | .announceFailure _ _ _ next => next.Discreet
  | .newEnvironment _ next => ∀ e, (next e).Discreet
  | .newOutput next => ∀ o, (next o).Discreet
  | .newListener _ onEvent onBind next =>
    (∀ e, (onEvent e).Discreet) ∧ (∀ c, (onBind c).Discreet) ∧ ∀ l, (next l).Discreet
  | .loadListeners next => ∀ ls, (next ls).Discreet
  | .newChannel next => ∀ n, (next (.free n)).Discreet
  | .register ch _ next | .removeListeners ch next | .reportFailure ch _ _ next =>
    ch.IsOpen ∧ next.Discreet
  | .setHandler _ handler next => (∀ l e fault, (handler l e fault).Discreet) ∧ next.Discreet
  | .invoke _ _ next | .multicast _ _ next | .publish _ _ next | .publishIsolated _ _ next
  | .announce _ _ next | .refresh _ next => ∀ r, (next r).Discreet
  | .newContext _ _ next | .newNumberedContext _ next => ∀ c, (next c).Discreet
  | .newHostedContext _ _ _ onPublish onIsolated next =>
    (∀ e, (onPublish e).Discreet) ∧ (∀ e, (onIsolated e).Discreet) ∧ ∀ c, (next c).Discreet
  | .onRefresh _ p next | .onClose _ p next => p.Discreet ∧ next.Discreet
  | .newAnnouncer _ _ next => ∀ a, (next a).Discreet

/-- Any move with discreet code that spares the channels of contexts. -/
structure Move.IsDiscreet (move : Move σ) : Prop where
  spares : move.Spares
  carries : move.Carries Program.Discreet

theorem allowsAnnouncing_discreet (p : Phase) : AllowsAnnouncing (Move.IsDiscreet (σ := σ)) p where
  enter _ := ⟨trivial, trivial⟩
  deliver _ _ _ := ⟨trivial, trivial⟩
  bind _ _ _ := ⟨trivial, trivial⟩

theorem allowsReporting_discreet (e : Event) : AllowsReporting (Move.IsDiscreet (σ := σ)) e where
  deliver _ := ⟨trivial, trivial⟩
  register _ _ := ⟨trivial, trivial⟩
  setPolicy _ := ⟨trivial, trivial⟩

/-- The application does whatever it likes, but leaves the channels of contexts to the contexts. -/
def Discipline.discreet : Discipline σ where
  code := Program.Discreet
  allowed := Move.IsDiscreet
  carries _ h := h.carries
  common move common carries := by
    refine ⟨?_, carries⟩
    cases move <;> trivial
  admitted p h := by
    have deliver (l : ListenerId) (e : Event) : (Move.deliver l e : Move σ).IsDiscreet :=
      ⟨trivial, trivial⟩
    have setPolicy (ch : ChannelId) (policy : Policy) :
        (Move.setPolicy ch policy : Move σ).IsDiscreet := ⟨trivial, trivial⟩
    cases p with
    | register ch l next => exact ⟨⟨h.1, trivial⟩, h.2⟩
    | removeListeners ch next => exact ⟨⟨h.1, trivial⟩, h.2⟩
    | setHandler ch handler next => exact ⟨h.1, fun _ => setPolicy _ _, h.2⟩
    | logFailures ch next | removeHandler ch next => exact ⟨setPolicy _ _, h⟩
    | invoke l e next => exact ⟨deliver _ _, h⟩
    | multicast _ e next | publish _ e next | publishIsolated _ e next =>
      exact ⟨fun _ => deliver _ _, h⟩
    | announce a what next => exact ⟨allowsAnnouncing_discreet _, h⟩
    | announceFailure a c error next =>
      exact ⟨fun _ => ⟨trivial, trivial⟩, fun e _ => allowsReporting_discreet e, h⟩
    | reportFailure ch c e next =>
      exact ⟨fun _ => deliver _ _, fun _ => ⟨h.1, trivial⟩, setPolicy _ _, h.2⟩
    | _ => exact h

theorem allowsRuns_discreet : (Discipline.discreet (σ := σ)).AllowsRuns where
  announcing := allowsAnnouncing_discreet
  failing _ := ⟨trivial, trivial⟩
  reporting e _ := allowsReporting_discreet e

/-! ## Additions -/

/-- The listeners of a context are those ever added to it. Each is there once, and before it stand
those that were added before it first was, and no others. -/
structure Store.ListsAdditions (s : Store) (c : ContextId) : Prop where
  once : (s.listenersOf c).Nodup
  added : ∀ l, l ∈ s.listenersOf c ↔ .added c l ∈ s.history
  ordered : ∀ before l since, s.history = before ++ .added c l :: since → .added c l ∉ before →
    ∃ earlier later, s.listenersOf c = earlier ++ l :: later ∧
      ∀ k, k ∈ earlier ↔ .added c k ∈ before

namespace Store.ListsAdditions

variable {s t : Store} {c : ContextId} {l : ListenerId}

/-- Entries that are no additions to the context change nothing. -/
theorem others (h : s.ListsAdditions c) {entries : List Entry}
    (history : t.history = s.history ++ entries) (none : ∀ l, .added c l ∉ entries)
    (same : t.listenersOf c = s.listenersOf c) : t.ListsAdditions c where
  once := by rw [same]; exact h.once
  added l := by rw [same, history, List.mem_append, or_iff_left (none l)]; exact h.added l
  ordered before l since split first := by
    rw [history] at split
    rw [same]
    rcases history_split split with ⟨old, hold, -⟩ | ⟨left, -, hleft⟩
    · exact h.ordered before l old hold first
    · exact (none l (by simp [hleft])).elim

/-- One more addition: the listener comes last, unless the context has it. -/
theorem join (h : s.ListsAdditions c) (own : (s.context c).hosted = none)
    (history : t.history = s.history ++ [.added c l])
    (list : t.listenersOf c = s.withListener c l) : t.ListsAdditions c where
  once := by rw [list]; exact Store.nodup_withListener own h.once l
  added k := by
    rw [list, history, Store.mem_withListener, List.mem_append, h.added k]
    simp
  ordered before k since split first := by
    rw [history] at split
    rw [list]
    rcases history_last split with ⟨old, hold, -⟩ | ⟨rfl, hk, -⟩
    · -- what came before an earlier addition still does
      obtain ⟨earlier, later, hlist, hearlier⟩ := h.ordered before k old hold first
      obtain ⟨rest, hrest⟩ := s.listenersOf_withListener c l
      exact ⟨earlier, later ++ rest, by rw [← hrest, hlist]; simp, hearlier⟩
    · obtain ⟨-, rfl⟩ := Entry.added.inj hk
      have unknown : k ∉ s.listenersOf c := fun known => first ((h.added k).1 known)
      rw [Store.withListener_own own, if_neg unknown]
      exact ⟨s.listenersOf c, [], rfl, h.added⟩

end Store.ListsAdditions

/-- A listener is added to a context by joining it, and in no other way. -/
theorem Move.eq_join {move : Move σ} {s : Store} (enabled : move.Enabled s) {c : ContextId}
    {l : ListenerId} (h : .added c l ∈ move.entries s) : move = .join c l := by
  cases move with
  | record e =>
    obtain rfl := List.mem_singleton.1 h
    exact enabled.elim
  | join d k =>
    obtain ⟨rfl, rfl⟩ := Entry.added.inj (List.mem_singleton.1 h)
    rfl
  | _ => simp [Move.entries] at h

/-- Every context that the application does not implement itself lists the additions to it. -/
structure Store.Lists (s : Store) : Prop where
  ahead : s.OwnAhead
  own : ∀ c : ContextId, (s.context c).hosted = none → s.ListsAdditions c

theorem Store.lists_empty : ({} : Store).Lists where
  ahead _ _ := rfl
  own _ _ :=
    { once := List.nodup_nil
      added _ := ⟨fun h => (List.not_mem_nil h).elim, fun h => (List.not_mem_nil h).elim⟩
      ordered before l since split := by simp [history] at split }

theorem Store.Lists.step {s : Store} (h : s.Lists) {move : Move σ} (enabled : move.Enabled s)
    (spares : move.Spares) : (move.applyStore s).Lists := by
  refine ⟨h.ahead.step move, fun c own => ?_⟩
  have before : (s.context c).hosted = none := h.ahead.before own
  have old := h.own c before
  have history := move.history_applyStore s
  have list := Move.listenersOf_applyStore s c spares
  by_cases joins : ∃ l, move = .join c l
  · obtain ⟨l, rfl⟩ := joins
    exact old.join before history (list.trans (if_pos rfl))
  · refine old.others history (fun l hl => joins ⟨l, move.eq_join enabled hl⟩) (list.trans ?_)
    cases move with
    | join d l => exact if_neg fun hd => joins ⟨l, by rw [hd]⟩
    | _ => rfl

theorem Path.lists {first : Nat} {w w' : World σ}
    (h : Path Discipline.discreet.allowed first w w') (start : w.store.Lists) : w'.store.Lists :=
  h.invariant (I := fun m => m.store.Lists)
    (fun move m enabled discreet _ hm => by
      rw [Move.apply_store]
      exact hm.step enabled discreet.spares) start

/-! ## Runs -/

/-- A world that comes about while discreet code runs, from one in which nothing had been made. -/
def World.ArisesDiscreetly (w : World σ) : Prop :=
  ∃ w₀ : World σ, w₀.store = {} ∧ w₀.Obeys Program.Discreet ∧
    Path Discipline.discreet.allowed 0 w₀ w

namespace World.ArisesDiscreetly

variable {w w' : World σ}

theorem obeys (h : w.ArisesDiscreetly) : w.Obeys Program.Discreet := by
  obtain ⟨w₀, -, code, path⟩ := h
  exact path.obeys code

theorem lists (h : w.ArisesDiscreetly) : w.store.Lists := by
  obtain ⟨w₀, new, -, path⟩ := h
  exact path.lists (new ▸ Store.lists_empty)

theorem onward {first : Nat} (h : w.ArisesDiscreetly)
    (path : Path Discipline.discreet.allowed first w w') : w'.ArisesDiscreetly := by
  obtain ⟨w₀, new, code, arising⟩ := h
  exact ⟨w₀, new, code, arising.trans (path.weaken (fun _ h => h) (Nat.zero_le _))⟩

end World.ArisesDiscreetly

/-- Wherever discreet code has come to, the listeners of a context are those ever added to it, whatever
they are named, each once and in the order of their first additions. An addition is noted and puts the
listener last, unless the context has it. Whatever move comes next, the listeners stay where they are;
and programs and applications, with all that they call, go by such moves. -/
theorem context_lists_additions {w : World σ} (arises : w.ArisesDiscreetly) :
    (∀ c : ContextId, (w.store.context c).hosted = none →
      w.store.ListsAdditions c ∧
      ∀ l, ∃ m, addListener c l w = (.ok (), m) ∧
        m.store.history = w.store.history ++ [.added c l] ∧
        m.store.listenersOf c =
          if l ∈ w.store.listenersOf c then w.store.listenersOf c else w.store.listenersOf c ++ [l]) ∧
    (∀ first w', Path Discipline.discreet.allowed first w w' →
      w'.ArisesDiscreetly ∧ ∀ c, w.store.listenersOf c <+: w'.store.listenersOf c) ∧
    (∀ depth (p : Program σ), p.Discreet →
      Path Discipline.discreet.allowed w.store.fresh w (Program.execute depth p w).2) ∧
    ∀ depth (app : Application σ) args, app.Obeys Program.Discreet →
      Path Discipline.discreet.allowed w.store.fresh w (app.run (Program.execute depth) args w).2 := by
  refine ⟨fun c own => ⟨arises.lists.own c own, fun l => ?_⟩, fun first w' path => ?_, ?_, ?_⟩
  · refine ⟨_, addListener_apply c l w, ?_, ?_⟩
    · rw [Move.apply_store, Move.history_applyStore]
      rfl
    · have spares : (Move.join c l : Move σ).Spares := trivial
      rw [Move.apply_store, Move.listenersOf_applyStore _ _ spares, ← Store.withListener_own own]
      exact if_pos rfl
  · exact ⟨arises.onward path, path.listenersOf_grow fun _ discreet => discreet.spares⟩
  · exact fun depth p discreet => Discipline.keeps_execute depth p discreet w arises.obeys
  · exact fun depth app args discreet => Discipline.keeps_runApplication
      (Discipline.keeps_execute depth) allowsRuns_discreet discreet args w arises.obeys

/-- Two listeners of one name are added to a context by a callback of its refresh, by an announcer and
once more. -/
def crowded : Program Unit :=
  .newListener { name := "audit" } (fun _ => .done) (fun _ => .done) fun k =>
  .newListener { name := "audit" } (fun _ => .done) (fun _ => .done) fun l =>
  .newEnvironment {} fun e => .newContext "app" e fun c =>
  .onRefresh c (.addListener c l (.addListener c k .done)) <| .refresh c fun _ =>
  .newAnnouncer { name := "", listeners := [k, l] } [] fun a =>
  .announce a .starting fun _ => .announce a (.environmentPrepared e) fun _ =>
  .announce a (.contextPrepared c) fun _ => .announce a (.contextLoaded c) fun _ =>
  .addListener c k .done

theorem context_lists_additions_crowded :
    let s := (Program.execute 3 crowded { memory := () }).2.store
    s.listenersOf ⟨3⟩ = [⟨1⟩, ⟨0⟩] ∧ (s.listener ⟨1⟩).name = (s.listener ⟨0⟩).name ∧
      s.ListsAdditions ⟨3⟩ := by
  have obeys : ({ memory := () } : World Unit).Obeys Program.Discreet :=
    ⟨fun _ => ⟨fun _ => trivial, fun _ => trivial⟩, fun _ => trivial, fun _ _ _ _ => trivial,
      fun _ => ⟨fun _ => trivial, fun _ => trivial⟩, by simp⟩
  have discreet : crowded.Discreet := by
    simp [crowded, Program.Discreet, Program.done]
  have arises : (Program.execute 3 crowded { memory := () }).2.ArisesDiscreetly :=
    ⟨_, rfl, obeys, Discipline.keeps_execute (D := .discreet) 3 crowded discreet _ obeys⟩
  have listed := ((context_lists_additions arises).1 ⟨3⟩ (by decide +kernel)).1
  exact ⟨by decide +kernel, by decide +kernel, listed⟩

end Startup
