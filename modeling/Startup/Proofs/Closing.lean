/-
Closed contexts. What has happened to a context since it was made decides its state. A context that
has been closed stays closed, publishes nothing and calls each of its hooks at most once, unless it
was closed while a refresh was under way that ended well: such a refresh makes it active again.
-/
import Startup.Proofs.Turns
import Mathlib.Data.List.Induction

namespace Startup

variable {σ : Type}

/-! ## The state of a context -/

/-- The state that an entry says a context came to be in. -/
def Entry.stateOf? (c : ContextId) : Entry → Option ContextState
  | .refreshed _ d => if d = c then some .active else none
  | .closing _ d _ => if d = c then some .closed else none
  | _ => none

/-- The state that a context is in after what has happened since it was made. -/
def stateAfter (c : ContextId) (since : List Entry) : ContextState :=
  (since.filterMap (·.stateOf? c)).getLast?.getD .created

theorem stateAfter_append (c : ContextId) (h₁ h₂ : List Entry) :
    stateAfter c (h₁ ++ h₂) = (h₂.filterMap (·.stateOf? c)).getLast?.getD (stateAfter c h₁) := by
  simp only [stateAfter, List.filterMap_append, List.getLast?_append]
  cases (h₂.filterMap (·.stateOf? c)).getLast? <;> rfl

theorem stateAfter_snoc (c : ContextId) (h : List Entry) (e : Entry) :
    stateAfter c (h ++ [e]) = (e.stateOf? c).getD (stateAfter c h) := by
  rw [stateAfter_append, List.filterMap_cons]
  cases e.stateOf? c <;> rfl

/-- A context that was closed is not as it was made. -/
theorem stateAfter_ne_created {c : ContextId} {h : List Entry} {n : Nat} {hooks : List CallbackId}
    (closed : .closing n c hooks ∈ h) : stateAfter c h ≠ .created := by
  have hmem : ContextState.closed ∈ h.filterMap (·.stateOf? c) :=
    List.mem_filterMap.2 ⟨_, closed, by simp [Entry.stateOf?]⟩
  rcases hlast : (h.filterMap (·.stateOf? c)).getLast? with _ | state
  · rw [List.getLast?_eq_none_iff.1 hlast] at hmem
    cases hmem
  · obtain ⟨e, -, he⟩ := List.mem_filterMap.1 (List.mem_of_getLast? hlast)
    rw [stateAfter, hlast]
    cases e <;> simp [Entry.stateOf?] at he <;> simp [← he.2]

/-- A context that is not closed though it was closed has been refreshed in between. -/
theorem refreshed_of_not_closed {c : ContextId} {h : List Entry} {n : Nat} {hooks : List CallbackId}
    (closed : .closing n c hooks ∈ h) (state : stateAfter c h ≠ .closed) :
    ∃ before between after m,
      h = before ++ .closing n c hooks :: between ++ .refreshed m c :: after := by
  obtain ⟨before, rest, rfl⟩ := List.append_of_mem closed
  by_cases hrefreshed : ∃ m, Entry.refreshed m c ∈ rest
  · obtain ⟨m, hm⟩ := hrefreshed
    obtain ⟨between, after, rfl⟩ := List.append_of_mem hm
    exact ⟨before, between, after, m, by simp⟩
  · refine absurd ?_ state
    rw [stateAfter_append]
    have hall : ∀ s ∈ (Entry.closing n c hooks :: rest).filterMap (·.stateOf? c), s = .closed := by
      intro s hs
      obtain ⟨e, he, hs⟩ := List.mem_filterMap.1 hs
      cases e <;> simp [Entry.stateOf?] at hs <;> rw [← hs.2]
      rename_i m d
      obtain ⟨rfl, -⟩ := hs
      exact absurd ⟨m, by simpa using he⟩ hrefreshed
    rcases hlast : ((Entry.closing n c hooks :: rest).filterMap (·.stateOf? c)).getLast? with _ | s
    · simp [Entry.stateOf?] at hlast
    · rw [hlast]
      exact hall s (List.mem_of_getLast? hlast)

/-- A context is active if it has been refreshed and not been closed since. -/
theorem stateAfter_active_iff {c : ContextId} {h : List Entry} :
    stateAfter c h = .active ↔ ∃ before turn after, h = before ++ .refreshed turn c :: after ∧
      ∀ n hooks, .closing n c hooks ∉ after := by
  induction h using List.reverseRecOn with
  | nil => simp [stateAfter]
  | append_singleton h e ih =>
    rw [stateAfter_snoc]
    constructor
    · intro active
      rcases hstate : e.stateOf? c with _ | state <;> rw [hstate] at active
      · obtain ⟨before, turn, after, rfl, unclosed⟩ := ih.1 active
        refine ⟨before, turn, after ++ [e], by simp, fun n hooks hmem => ?_⟩
        rcases List.mem_append.1 hmem with hmem | hmem
        · exact unclosed n hooks hmem
        · simp [← List.mem_singleton.1 hmem, Entry.stateOf?] at hstate
      · obtain rfl : state = .active := active
        obtain ⟨turn, rfl⟩ : ∃ turn, e = .refreshed turn c := by
          cases e <;> simp [Entry.stateOf?] at hstate
          exact ⟨_, by rw [hstate]⟩
        exact ⟨h, turn, [], rfl, by simp⟩
    · rintro ⟨before, turn, after, heq, unclosed⟩
      rcases history_last heq with ⟨old, hold, rfl⟩ | ⟨-, rfl, -⟩
      · have active := ih.2 ⟨before, turn, old, hold, fun n hooks hmem =>
          unclosed n hooks (List.mem_append_left _ hmem)⟩
        rcases hstate : e.stateOf? c with _ | state
        · exact active
        · cases e <;> simp [Entry.stateOf?] at hstate
          · exact hstate.2.symm
          · obtain ⟨rfl, -⟩ := hstate
            exact absurd (List.mem_append_right _ (List.mem_singleton_self _)) (unclosed _ _)
      · simp [Entry.stateOf?]

/-- The moves that change a context's state say so. -/
theorem stateOf_entries {move : Move σ} {s : Store} (enabled : move.Enabled s) (c : ContextId) :
    (move.entries s).filterMap (·.stateOf? c) =
      match move with
      | .activate _ d _ => if d = c then [.active] else []
      | .beginClosing d => if d = c then [.closed] else []
      | _ => [] := by
  cases move <;> simp only [Move.entries, List.filterMap_cons, List.filterMap_nil, Entry.stateOf?]
  case record e => cases e <;> first | rfl | exact enabled.elim
  case activate n d ks => by_cases hd : d = c <;> simp [hd]
  case beginClosing d => by_cases hd : d = c <;> simp [hd]

/-- The state of a context that was made is what the last entry about it says. -/
theorem state_applyStore {move : Move σ} {s : Store} (enabled : move.Enabled s) {c : ContextId}
    (made : c.number < s.fresh) :
    ((move.applyStore s).context c).state =
      ((move.entries s).filterMap (·.stateOf? c)).getLast?.getD (s.context c).state := by
  have other : c ≠ ⟨s.fresh⟩ := ContextId.ne_next made
  rw [stateOf_entries enabled, Move.context_applyStore]
  cases move <;> try rfl
  case makeContext context => simp [other]
  case activate n d ks =>
    by_cases hd : d = c
    · simp [hd]
    · simp [hd, Ne.symm hd]
  case beginClosing d =>
    by_cases hd : d = c
    · simp [hd]
    · simp [hd, Ne.symm hd]
  all_goals
    dsimp only
    split <;> simp_all

theorem stateAfter_append_ne_created {c : ContextId} {since added : List Entry}
    (h : stateAfter c since ≠ .created) : stateAfter c (since ++ added) ≠ .created := by
  rw [stateAfter_append]
  rcases hlast : (added.filterMap (·.stateOf? c)).getLast? with _ | state <;> rw [hlast]
  · exact h
  · obtain ⟨e, -, he⟩ := List.mem_filterMap.1 (List.mem_of_getLast? hlast)
    cases e <;> simp [Entry.stateOf?] at he <;> simp [← he.2]

/-- The state of a context that was made is what has happened to it since. -/
theorem Path.stateAfter {allowed : Move σ → Prop} {first : Nat} {w w' : World σ}
    (h : Path allowed first w w') {c : ContextId} (made : c.number < w.store.fresh)
    {since added : List Entry} (start : (w.store.context c).state = stateAfter c since)
    (history : w'.store.history = w.store.history ++ added) :
    (w'.store.context c).state = Startup.stateAfter c (since ++ added) := by
  induction h generalizing added with
  | refl =>
    obtain rfl : added = [] := by simpa using history
    rw [start, List.append_nil]
  | @snoc m move path enabled _ _ ih =>
    obtain ⟨before, hbefore, -⟩ := path.history
    have hm := ih hbefore
    have taken := Nat.lt_of_lt_of_le made path.fresh_le
    rw [Move.apply_store, Move.history_applyStore, hbefore, List.append_assoc] at history
    rw [← List.append_cancel_left history, ← List.append_assoc, stateAfter_append, ← hm,
      Move.apply_store]
    exact state_applyStore enabled taken

/-! ## What is said of a closed context -/

/-- Once closed, closed ever after. -/
def StaysClosed (c : ContextId) (since : List Entry) : Prop :=
  ∀ h, h <+: since → ∀ n hooks, .closing n c hooks ∈ h → stateAfter c h = .closed

/-- The callback that an entry says a context called. -/
def Entry.callOf? (c : ContextId) : Entry → Option CallbackId
  | .called _ d callback => if d = c then some callback else none
  | _ => none

/-- The callbacks and hooks that a context called, in order. -/
def callsOf (c : ContextId) (h : List Entry) : List CallbackId := h.filterMap (·.callOf? c)

theorem callsOf_append (c : ContextId) (h₁ h₂ : List Entry) :
    callsOf c (h₁ ++ h₂) = callsOf c h₁ ++ callsOf c h₂ :=
  List.filterMap_append ..

/-- Every refresh that ended well after a closing also began after it: none was under way then. -/
def Undisturbed (c : ContextId) (since : List Entry) : Prop :=
  ∀ before between after n hooks m,
    since = before ++ .closing n c hooks :: between ++ .refreshed m c :: after →
    ∃ callbacks, .refreshing m c callbacks ∈ between

/-! ## The life of a context -/

/-- A context, its hooks and its turns since it was made. Its hooks are apart from its callbacks, and
none of them is called in a turn but a closing of its own since then. It is refreshed only as it was
made, and closed only where it is not. -/
structure LifeOf (c : ContextId) (since : List Entry) (w : World σ) : Prop where
  made : c.number < w.store.fresh
  state : (w.store.context c).state = stateAfter c since
  distinct : (w.store.context c).hooks.Nodup
  apart : ∀ k ∈ (w.store.context c).hooks, k ∉ (w.store.context c).callbacks ∧
    ∀ e ∈ w.store.history, ∀ t ∈ e.turn?, t.context = c → k ∈ t.callbacks →
      e ∈ since ∧ e = .closing t.number c t.callbacks
  closings : ∀ n hooks, .closing n c hooks ∈ since → hooks.Nodup
  refreshing : ∀ before n callbacks after, since = before ++ .refreshing n c callbacks :: after →
    stateAfter c before = .created
  closing : ∀ before n hooks after, since = before ++ .closing n c hooks :: after →
    stateAfter c before ≠ .closed

/-- A context that was just made has no turns and no hooks. -/
theorem LifeOf.start {c : ContextId} {move : Move σ} {m : World σ}
    (enabled : move.Enabled m.store) (made : move.entries m.store = [.madeContext c]) :
    LifeOf c [] (move.apply m) := by
  cases move <;> simp [Move.entries] at made
  case record e => subst made; exact enabled.elim
  case makeContext context =>
    subst made
    obtain ⟨hstate, -, hhooks⟩ := enabled
    have hcontext : ((Move.makeContext context).apply m).store.context ⟨m.store.fresh⟩ = context := by
      rw [Move.apply_store, Move.context_applyStore]
      simp
    refine ⟨?_, ?_, ?_, ?_, ?_, ?_, ?_⟩
    · simp [Move.numbers]
    · rw [hcontext, hstate]; rfl
    · rw [hcontext, hhooks]; exact List.nodup_nil
    · intro k hk
      rw [hcontext, hhooks] at hk
      cases hk
    · simp
    · intro before n ks after heq; simp at heq
    · intro before n ks after heq; simp at heq

section Step

variable {c : ContextId} {move : Move σ} {m : World σ} {since : List Entry}

theorem LifeOf.state_step (enabled : move.Enabled m.store) (h : LifeOf c since m) :
    ((move.apply m).store.context c).state = stateAfter c (since ++ move.entries m.store) := by
  rw [stateAfter_append, ← h.state, Move.apply_store]
  exact state_applyStore enabled h.made

/-- The hooks that are there after a move were there before, or one is new to all turns. -/
theorem LifeOf.apart_step (enabled : move.Enabled m.store) (turns : m.store.Turns)
    (h : LifeOf c since m) {k : CallbackId} (hk : k ∈ ((move.apply m).store.context c).hooks) :
    k ∉ ((move.apply m).store.context c).callbacks ∧
      ∀ e ∈ (move.apply m).store.history, ∀ t ∈ e.turn?, t.context = c → k ∈ t.callbacks →
        e ∈ since ++ move.entries m.store ∧ e = .closing t.number c t.callbacks := by
  rw [Move.apply_store] at *
  rw [Move.history_applyStore]
  have hold : k ∈ (m.store.context c).hooks → k ∉ ((move.applyStore m.store).context c).callbacks ∧
      ∀ e ∈ m.store.history ++ move.entries m.store, ∀ t ∈ e.turn?, t.context = c → k ∈ t.callbacks →
        e ∈ since ++ move.entries m.store ∧ e = .closing t.number c t.callbacks := by
    intro hk
    obtain ⟨hcallbacks, hturns⟩ := h.apart k hk
    refine ⟨fun hk' => ?_, fun e he t ht hcontext hkt => ?_⟩
    · rcases callbacks_applyStore enabled c hk' with hk' | ⟨hk', -⟩ | ⟨n, ks, hn, hk'⟩
      · exact hcallbacks hk'
      · have := turns.hooks c k hk
        omega
      · obtain ⟨-, heq⟩ := hturns _ hn ⟨n, c, ks⟩ rfl rfl hk'
        cases heq
    · rcases List.mem_append.1 he with he | he
      · obtain ⟨hsince, heq⟩ := hturns e he t ht hcontext hkt
        exact ⟨List.mem_append_left _ hsince, heq⟩
      · obtain ⟨-, -, -, ⟨-, hlist, -⟩ | ⟨heq, -, -⟩⟩ := turn_entries enabled he ht
        · rw [hlist, hcontext] at hkt
          exact absurd hkt hcallbacks
        · rw [hcontext] at heq
          exact ⟨List.mem_append_right _ he, heq⟩
  rcases hooks_applyStore enabled c with heq | ⟨heq, -⟩ | ⟨heq, -, hentries, hcallbacks⟩
  · rw [heq] at hk
    exact hold hk
  · rw [heq] at hk
    cases hk
  · rw [heq] at hk
    rcases List.mem_append.1 hk with hk | hk
    · exact hold hk
    · -- the new hook has a number that no callback of any turn has
      rw [List.mem_singleton] at hk
      subst hk
      rw [hcallbacks, hentries, List.append_nil]
      refine ⟨fun hk => Nat.lt_irrefl _ (turns.callbacks c _ hk), fun e he t ht _ hkt => ?_⟩
      exact absurd ((turns.numbered e he t ht).2 _ hkt) (Nat.lt_irrefl _)

theorem LifeOf.distinct_step (enabled : move.Enabled m.store) (turns : m.store.Turns)
    (h : LifeOf c since m) : ((move.apply m).store.context c).hooks.Nodup := by
  rw [Move.apply_store]
  rcases hooks_applyStore enabled c with heq | ⟨heq, -⟩ | ⟨heq, -⟩ <;> rw [heq]
  · exact h.distinct
  · exact List.nodup_nil
  · refine List.nodup_append.2 ⟨h.distinct, by simp, fun k hk j hj hkj => ?_⟩
    rw [List.mem_singleton] at hj
    subst hj hkj
    exact Nat.lt_irrefl _ (turns.hooks c _ hk)

/-- The turn that a move opens begins where the context's state allows it. -/
theorem LifeOf.opened {before after : List Entry} {e : Entry}
    (heq : since ++ move.entries m.store = before ++ e :: after) :
    (∃ old, since = before ++ e :: old) ∨ before = since ∧ e ∈ move.entries m.store := by
  rcases history_split heq with ⟨old, hold, -⟩ | ⟨left, rfl, hleft⟩
  · exact .inl ⟨old, hold⟩
  · obtain ⟨rfl, rfl⟩ := Move.entries_split hleft
    exact .inr ⟨List.append_nil since, by simp [hleft]⟩

theorem LifeOf.step (enabled : move.Enabled m.store) (turns : m.store.Turns) (h : LifeOf c since m) :
    LifeOf c (since ++ move.entries m.store) (move.apply m) := by
  refine ⟨?_, h.state_step enabled, h.distinct_step enabled turns,
    fun k => h.apart_step enabled turns, ?_, ?_, ?_⟩
  · have := h.made
    simp
    omega
  · intro n hooks hmem
    rcases List.mem_append.1 hmem with hmem | hmem
    · exact h.closings n hooks hmem
    · obtain ⟨-, -, -, ⟨heq, -⟩ | ⟨-, hlist, -⟩⟩ := turn_entries enabled hmem (t := ⟨n, c, hooks⟩) rfl
      · cases heq
      · simp only at hlist
        exact hlist ▸ h.distinct
  · intro before n callbacks after heq
    rcases LifeOf.opened heq with ⟨old, hold⟩ | ⟨rfl, hmem⟩
    · exact h.refreshing before n callbacks old hold
    · obtain ⟨-, -, -, ⟨-, -, hstate⟩ | ⟨heq, -⟩⟩ :=
        turn_entries enabled hmem (t := ⟨n, c, callbacks⟩) rfl
      · rw [← h.state]
        exact hstate
      · cases heq
  · intro before n hooks after heq
    rcases LifeOf.opened heq with ⟨old, hold⟩ | ⟨rfl, hmem⟩
    · exact h.closing before n hooks old hold
    · obtain ⟨-, -, -, ⟨heq, -⟩ | ⟨-, -, hstate⟩⟩ := turn_entries enabled hmem (t := ⟨n, c, hooks⟩) rfl
      · cases heq
      · rw [← h.state]
        exact hstate

end Step

/-! ## Staying closed -/

section Whole

variable {c : ContextId} {since : List Entry} {w : World σ}

theorem StaysClosed.undisturbed (h : StaysClosed c since) : Undisturbed c since := by
  intro before between after n hooks m heq
  have hprefix : before ++ .closing n c hooks :: between ++ [.refreshed m c] <+: since :=
    ⟨after, by simp [heq]⟩
  have hstate := h _ hprefix n hooks (by simp)
  rw [stateAfter_snoc] at hstate
  simp [Entry.stateOf?] at hstate

/-- A refresh that ends well does not begin in a context that was closed. -/
theorem LifeOf.staysClosed (h : LifeOf c since w) (undisturbed : Undisturbed c since) :
    StaysClosed c since := by
  rintro past ⟨future, rfl⟩ n hooks closed
  refine Decidable.byContradiction fun hstate => ?_
  obtain ⟨before, between, after, m, rfl⟩ := refreshed_of_not_closed closed hstate
  obtain ⟨callbacks, hmem⟩ := undisturbed before between (after ++ future) n hooks m (by simp)
  obtain ⟨early, late, rfl⟩ := List.append_of_mem hmem
  refine absurd (h.refreshing (before ++ .closing n c hooks :: early) m callbacks
    (late ++ .refreshed m c :: (after ++ future)) (by simp)) ?_
  have closed : Entry.closing n c hooks ∈ before ++ .closing n c hooks :: early := by simp
  exact stateAfter_ne_created closed

/-- A context that stays closed is closed once. -/
theorem LifeOf.closing_unique (h : LifeOf c since w) (stays : StaysClosed c since) {n n' : Nat}
    {ks ks' : List CallbackId} (hn : .closing n c ks ∈ since) (hn' : .closing n' c ks' ∈ since) :
    Entry.closing n c ks = .closing n' c ks' := by
  have hlater : ∀ n n' ks ks' before after, since = before ++ .closing n' c ks' :: after →
      .closing n c ks ∉ before := by
    intro n n' ks ks' before after heq hmem
    refine h.closing before n' ks' after heq ?_
    exact stays before ⟨_, heq.symm⟩ n ks hmem
  obtain ⟨before, after, heq⟩ := List.append_of_mem hn
  have hmem : Entry.closing n' c ks' ∈ before ++ .closing n c ks :: after := heq ▸ hn'
  rcases List.mem_append.1 hmem with hmem | hmem
  · exact absurd hmem (hlater _ _ _ _ before after heq)
  rcases List.mem_cons.1 hmem with hmem | hmem
  · exact hmem.symm
  · obtain ⟨early, late, rfl⟩ := List.append_of_mem hmem
    refine absurd ?_ (hlater n n' ks ks' (before ++ .closing n c ks :: early) late (by simp [heq]))
    simp

theorem count_callsOf_le {n : Nat} {k : CallbackId} :
    ∀ {h : List Entry}, (∀ m, .called m c k ∈ h → m = n) →
      (callsOf c h).count k ≤ (calledIn n h).count k
  | [], _ => Nat.le_refl _
  | e :: h, hone => by
    have ih : (callsOf c h).count k ≤ (calledIn n h).count k :=
      count_callsOf_le fun m hm => hone m (List.mem_cons_of_mem _ hm)
    have hhead : ((e.callOf? c).toList).count k ≤ ((e.calledIn? n).toList).count k := by
      cases e <;> try exact Nat.le_refl _
      rename_i m d j
      by_cases hd : d = c <;> by_cases hj : j = k <;> simp [Entry.callOf?, Entry.calledIn?, hd, hj]
      subst hd hj
      have hm : m = n := hone m (List.mem_cons_self ..)
      simp [hm]
    have hcalls : callsOf c (e :: h) = (e.callOf? c).toList ++ callsOf c h := by
      simp only [callsOf, List.filterMap_cons]
      cases e.callOf? c <;> rfl
    have hcalled : calledIn n (e :: h) = (e.calledIn? n).toList ++ calledIn n h := by
      simp only [calledIn, List.filterMap_cons]
      cases e.calledIn? n <;> rfl
    rw [hcalls, hcalled, List.count_append, List.count_append]
    exact Nat.add_le_add hhead ih

/-- A context that stays closed calls each hook at most once. -/
theorem LifeOf.hook_once (h : LifeOf c since w) (turns : w.store.Turns) {before : List Entry}
    (history : w.store.history = before ++ since) (stays : StaysClosed c since) {k : CallbackId}
    (hk : k ∈ (w.store.context c).hooks) : (callsOf c since).count k ≤ 1 := by
  -- every call of the hook belongs to a closing
  have hclosing : ∀ m, Entry.called m c k ∈ since → ∃ ks, .closing m c ks ∈ since := by
    intro m hm
    obtain ⟨e, he, t, ht, rfl, hcontext, hkt⟩ := turns.called m c k (by simp [history, hm])
    obtain ⟨hsince, heq⟩ := (h.apart k hk).2 e he t ht hcontext hkt
    exact ⟨t.callbacks, heq ▸ hsince⟩
  by_cases hcalled : ∃ n, Entry.called n c k ∈ since
  case neg =>
    have hnone : k ∉ callsOf c since := by
      intro hmem
      obtain ⟨e, he, hek⟩ := List.mem_filterMap.1 hmem
      cases e <;> simp [Entry.callOf?] at hek
      obtain ⟨rfl, rfl⟩ := hek
      exact hcalled ⟨_, he⟩
    rw [List.count_eq_zero.2 hnone]
    exact Nat.zero_le _
  obtain ⟨n, hn⟩ := hcalled
  obtain ⟨ks, hks⟩ := hclosing n hn
  have hone : ∀ m, Entry.called m c k ∈ since → m = n := by
    intro m hm
    obtain ⟨ks', hks'⟩ := hclosing m hm
    have := h.closing_unique stays hks' hks
    injection this
  obtain ⟨early, late, heq⟩ := List.append_of_mem hks
  have hwhole : w.store.history = (before ++ early) ++ .closing n c ks :: late := by
    simp [history, heq]
  obtain ⟨hearly, hlate⟩ := turns.runs _ _ _ hwhole ⟨n, c, ks⟩ rfl
  have hsince : calledIn n since = calledIn n late := by
    rw [calledIn_append] at hearly
    rw [heq, calledIn_append, (List.append_eq_nil_iff.1 hearly).2, List.nil_append]
    exact calledIn_opening (t := ⟨n, c, ks⟩) rfl n late
  calc (callsOf c since).count k
      ≤ (calledIn n since).count k := count_callsOf_le hone
    _ = (calledIn n late).count k := by rw [hsince]
    _ ≤ ks.count k := hlate.sublist.count_le k
    _ ≤ 1 := List.nodup_iff_count.1 (h.closings n ks hks) k

end Whole

/-! ## The exact condition -/

/-- In every world on the way, what has happened to a context since it was made decides its state. A
closed one is not active, publishes nothing and is left as it is; and once closed it stays closed and
calls each hook at most once exactly if no refresh that was under way at a closing ended well. -/
theorem closed_for_good_iff {w₀ w : World σ} (reached : Reaches w₀ w) (new : w₀.store = {})
    {c : ContextId} {before since : List Entry}
    (made : w.store.history = before ++ .madeContext c :: since) :
    (∀ m past, Path Discipline.free.allowed w₀.store.fresh w₀ m →
      m.store.history = before ++ .madeContext c :: past →
      (m.store.context c).state = stateAfter c past) ∧
    (∀ (call : Caller σ) (m : World σ) (e : Event), (m.store.context c).hosted = none →
      (m.store.context c).state = .closed → (m.store.context c).isActive = false ∧
        publish call c e m = (.ok (.error .contextUnavailable), m)) ∧
    ((StaysClosed c since ∧ ∀ k ∈ (w.store.context c).hooks, (callsOf c since).count k ≤ 1) ↔
      Undisturbed c since) := by
  have turns : ∀ {m : World σ}, Path Discipline.free.allowed w₀.store.fresh w₀ m → m.store.Turns := by
    intro m path
    refine path.invariant (I := fun m => m.store.Turns) (fun move m enabled _ _ h => ?_) ?_
    · rw [Move.apply_store]
      exact h.step enabled
    · rw [new]
      exact .empty
  have life : ∀ {m : World σ} {past : List Entry}, Path Discipline.free.allowed w₀.store.fresh w₀ m →
      m.store.history = before ++ .madeContext c :: past → LifeOf c past m := by
    intro m past path history
    have history' : m.store.history = w₀.store.history ++ before ++ .madeContext c :: past := by
      rw [history, new]
      rfl
    exact path.since (fun _ _ enabled => LifeOf.start enabled)
      (fun _ _ _ path enabled => LifeOf.step enabled (turns path)) history'
  refine ⟨fun m past path history => (life path history).state, ?_, fun h => h.1.undisturbed, fun h => ?_⟩
  · intro call m e own closed
    constructor
    · simp [Context.isActive, own, closed]
    · exact publish_closed own closed
  · have lived := life reached.path made
    have stays := lived.staysClosed h
    have whole : w.store.history = before ++ [.madeContext c] ++ since := by simp [made]
    exact ⟨stays, fun k hk => lived.hook_once (turns reached.path) whole stays hk⟩

/-- A context that is closed twice after its refresh, and once more by its hook. -/
def closedTwice : Program Unit :=
  .newContext "" ⟨0⟩ fun c =>
  .onClose c (.refresh c fun _ => .close c .done) <|
  .refresh c fun _ => .close c <| .close c .done

theorem closed_for_good_iff_twice :
    ∃ since, StaysClosed ⟨0⟩ since ∧ (callsOf ⟨0⟩ since).count ⟨1⟩ = 1 := by
  let early : List Entry :=
    [.logged .info "Refreshing application context ''", .refreshing 2 ⟨0⟩ [], .refreshed 2 ⟨0⟩]
  let late : List Entry :=
    [.closing 3 ⟨0⟩ [⟨1⟩], .logged .info "Closing application context ''", .called 3 ⟨0⟩ ⟨1⟩]
  have made : (Program.execute 3 closedTwice { memory := () }).2.store.history =
      [] ++ .madeContext ⟨0⟩ :: (early ++ late) := rfl
  have undisturbed : Undisturbed ⟨0⟩ (early ++ late) := by
    intro before between after n hooks m heq
    have hsplit : early ++ late =
        before ++ .closing n ⟨0⟩ hooks :: (between ++ .refreshed m ⟨0⟩ :: after) := by
      rw [heq, List.append_assoc, List.cons_append]
    rcases history_split hsplit with ⟨old, hold, -⟩ | ⟨left, -, hleft⟩
    · have hmem : Entry.closing n ⟨0⟩ hooks ∈ early := by rw [hold]; simp
      simp [early] at hmem
    · have hmem : Entry.refreshed m ⟨0⟩ ∈ late := by rw [hleft]; simp
      simp [late] at hmem
  have whole := closed_for_good_iff (.program .start 3 closedTwice) rfl made
  exact ⟨early ++ late, (whole.2.2.2 undisturbed).1, rfl⟩

/-- A context that is closed while it is refreshed. -/
def closedInRefresh : Program Unit :=
  .newContext "" ⟨0⟩ fun c => .onRefresh c (.close c .done) <| .refresh c fun _ => .done

/-- The refresh goes on after the closing and makes the context active, and it publishes again. -/
theorem closing_undone :
    let w := (Program.execute 2 closedInRefresh { memory := () }).2
    let e : Event := .withContext .started { name := "" } [] ⟨0⟩
    (∃ since, w.store.history = .madeContext ⟨0⟩ :: since ∧ .closing 3 ⟨0⟩ [] ∈ since ∧
      ¬ StaysClosed ⟨0⟩ since) ∧
    (w.store.context ⟨0⟩).hosted = none ∧ (w.store.context ⟨0⟩).isActive = true ∧
    publish (Program.execute 2) ⟨0⟩ e w = (.ok (.ok ()), w) := by
  intro w e
  obtain ⟨since, made, closed, active⟩ : ∃ since,
      w.store.history = .madeContext ⟨0⟩ :: since ∧ .closing 3 ⟨0⟩ [] ∈ since ∧
      stateAfter ⟨0⟩ since = .active :=
    ⟨_, rfl, .tail _ (.tail _ (.tail _ (.tail _ (.head _)))), rfl⟩
  refine ⟨⟨since, made, closed, fun stays => ?_⟩, rfl, rfl, rfl⟩
  have := stays since (List.prefix_refl _) 3 [] closed
  rw [active] at this
  cases this

end Startup
