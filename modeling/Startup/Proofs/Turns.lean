/-
Turns. Every refresh and every closing of a context has a number of its own and a list of callbacks,
and every callback that is called belongs to one of them, in the order of its list. A callback has a
number of its own as well, so that one registered later is in no earlier list.
-/
import Startup.Proofs.Execution

namespace Startup

variable {σ : Type}

/-! ## Entries that open a turn -/

structure Turn where
  number : Nat
  context : ContextId
  callbacks : List CallbackId

/-- The turn that an entry opens. -/
def Entry.turn? : Entry → Option Turn
  | .refreshing t c ks | .closing t c ks => some ⟨t, c, ks⟩
  | _ => none

theorem calledIn_opening {e : Entry} {t : Turn} (ht : t ∈ e.turn?) (n : Nat) (h : List Entry) :
    calledIn n (e :: h) = calledIn n h := by
  cases e <;> first | rfl | cases ht

/-- The callbacks called in a turn are none before it begins, and then the first of its list. -/
def Turn.Runs (t : Turn) (before since : List Entry) : Prop :=
  calledIn t.number before = [] ∧ calledIn t.number since <+: t.callbacks

/-- The turns of a store. Each has a number of its own, which was fresh when it began, as were those
of its callbacks; every call belongs to a turn, and a turn calls the first of its callbacks. -/
structure Store.Turns (s : Store) : Prop where
  numbered : ∀ e ∈ s.history, ∀ t ∈ e.turn?, t.number < s.fresh ∧ ∀ k ∈ t.callbacks, k.number < s.fresh
  distinct : ∀ e ∈ s.history, ∀ e' ∈ s.history, ∀ t ∈ e.turn?, ∀ t' ∈ e'.turn?,
    t.number = t'.number → e = e'
  called : ∀ n c k, Entry.called n c k ∈ s.history →
    ∃ e ∈ s.history, ∃ t ∈ e.turn?, t.number = n ∧ t.context = c ∧ k ∈ t.callbacks
  runs : ∀ before e since, s.history = before ++ e :: since → ∀ t ∈ e.turn?, t.Runs before since
  callbacks : ∀ c, ∀ k ∈ (s.context c).callbacks, k.number < s.fresh
  hooks : ∀ c, ∀ k ∈ (s.context c).hooks, k.number < s.fresh

/-- Nothing is called in a turn that has not begun. -/
theorem Store.Turns.calledIn_new {s : Store} (h : s.Turns) {n : Nat} (hn : s.fresh ≤ n) :
    calledIn n s.history = [] := by
  refine List.filterMap_eq_nil_iff.2 fun e he => ?_
  cases e <;> try rfl
  case called m c k =>
    obtain ⟨opening, hopening, t, ht, rfl, -, -⟩ := h.called m c k he
    have := (h.numbered opening hopening t ht).1
    simp [Entry.calledIn?]
    omega

/-- What a turn owes tells what it has called. -/
theorem Store.Owes.turn {s : Store} {n : Nat} {c : ContextId} {left : List CallbackId}
    (h : s.Owes n c left) : ∃ before e since, s.history = before ++ e :: since ∧
      e.turn? = some ⟨n, c, calledIn n since ++ left⟩ := by
  obtain ⟨before, opening, since, hhistory, rfl | rfl⟩ := h <;>
    exact ⟨before, _, since, hhistory, rfl⟩

/-! ## Moves keep the turns -/

/-- A move that opens a turn takes the next number for it. -/
theorem turn_entries {move : Move σ} {s : Store} (enabled : move.Enabled s) {e : Entry}
    (he : e ∈ move.entries s) {t : Turn} (ht : t ∈ e.turn?) :
    move.entries s = [e] ∧ move.numbers = 1 ∧ t.number = s.fresh ∧
      (e = .refreshing t.number t.context t.callbacks ∧
          t.callbacks = (s.context t.context).callbacks ∧ (s.context t.context).state = .created ∨
        e = .closing t.number t.context t.callbacks ∧
          t.callbacks = (s.context t.context).hooks ∧ (s.context t.context).state ≠ .closed) := by
  cases move <;> simp [Move.entries] at he <;> subst he
  case record => cases e <;> first | exact enabled.elim | cases ht
  case beginRefresh c =>
    obtain rfl := Option.some.inj ht
    exact ⟨rfl, rfl, rfl, .inl ⟨rfl, rfl, enabled.2⟩⟩
  case beginClosing c =>
    obtain rfl := Option.some.inj ht
    exact ⟨rfl, rfl, rfl, .inr ⟨rfl, rfl, enabled.2⟩⟩
  all_goals cases ht

/-- A move that calls a callback is the call of one that a turn owes. -/
theorem called_entries {move : Move σ} {s : Store} (enabled : move.Enabled s) {n : Nat}
    {c : ContextId} {k : CallbackId} (h : Entry.called n c k ∈ move.entries s) :
    ∃ rest, s.Owes n c (k :: rest) ∧ move.entries s = [.called n c k] := by
  cases move <;> simp [Move.entries] at h
  case record e => subst h; exact enabled.elim
  case call m d j =>
    obtain ⟨rfl, rfl, rfl⟩ := h
    obtain ⟨rest, howes⟩ := enabled
    exact ⟨rest, howes, rfl⟩

/-- Callbacks of a context come from where they were, or are new. -/
theorem callbacks_applyStore {move : Move σ} {s : Store} (enabled : move.Enabled s) (c : ContextId)
    {k : CallbackId} (hk : k ∈ ((move.applyStore s).context c).callbacks) :
    k ∈ (s.context c).callbacks ∨ k.number = s.fresh ∧ move.numbers = 1 ∨
      ∃ n ks, Entry.refreshing n c ks ∈ s.history ∧ k ∈ ks := by
  rw [Move.context_applyStore] at hk
  cases move <;> try exact .inl hk
  case makeContext context =>
    dsimp only at hk
    split at hk
    · rw [enabled.2.1] at hk; cases hk
    · exact .inl hk
  case onRefresh d code =>
    dsimp only at hk
    split at hk
    · rename_i hd
      subst hd
      rcases List.mem_append.1 hk with hk | hk
      · exact .inl hk
      · rw [List.mem_singleton.1 hk]
        exact .inr (.inl ⟨rfl, rfl⟩)
    · exact .inl hk
  case restore n d ks | activate n d ks =>
    dsimp only at hk
    split at hk
    · rename_i hd
      subst hd
      rcases List.mem_append.1 hk with hk | hk
      · exact .inr (.inr ⟨n, ks, enabled.begun, hk⟩)
      · exact .inl hk
    · exact .inl hk
  all_goals
    dsimp only at hk
    split at hk <;> simp_all

/-- Hooks of a context are those it had and at most a new one behind them. -/
theorem hooks_applyStore {move : Move σ} {s : Store} (enabled : move.Enabled s) (c : ContextId) :
    ((move.applyStore s).context c).hooks = (s.context c).hooks ∨
      ((move.applyStore s).context c).hooks = [] ∧ c = ⟨s.fresh⟩ ∨
      ((move.applyStore s).context c).hooks = (s.context c).hooks ++ [⟨s.fresh⟩] ∧ move.numbers = 1 ∧
        move.entries s = [] ∧ ((move.applyStore s).context c).callbacks = (s.context c).callbacks := by
  rw [Move.context_applyStore]
  cases move <;> try exact .inl rfl
  case makeContext context =>
    dsimp only
    split
    · exact .inr (.inl ⟨enabled.2.2, ‹_›⟩)
    · exact .inl rfl
  case onClose d code =>
    dsimp only
    split
    · rename_i hd
      subst hd
      exact .inr (.inr ⟨rfl, rfl, rfl, rfl⟩)
    · exact .inl rfl
  all_goals
    dsimp only
    split <;> simp_all

/-- What is called in a turn grows by the next of its list. -/
theorem Store.Turns.runs_step {s : Store} (h : s.Turns) {move : Move σ} (enabled : move.Enabled s)
    {before since : List Entry} {e : Entry} (heq : s.history = before ++ e :: since) {t : Turn}
    (ht : t ∈ e.turn?) : t.Runs before (since ++ move.entries s) := by
  obtain ⟨hbefore, hsince⟩ := h.runs before e since heq t ht
  refine ⟨hbefore, ?_⟩
  rw [calledIn_append]
  by_cases hnew : calledIn t.number (move.entries s) = []
  · rwa [hnew, List.append_nil]
  -- the move is a call of this turn, and the turn owes it
  obtain ⟨k, hk⟩ := List.exists_mem_of_ne_nil _ hnew
  obtain ⟨called, hcalled, hk⟩ := List.mem_filterMap.1 hk
  obtain ⟨c, rfl⟩ : ∃ c, called = .called t.number c k := by
    cases called <;> simp [Entry.calledIn?] at hk
    exact ⟨_, by rw [hk.1, hk.2]⟩
  obtain ⟨rest, howes, hentries⟩ := called_entries enabled hcalled
  obtain ⟨before', e', since', heq', ht'⟩ := howes.turn
  have hmem : e ∈ s.history := by simp [heq]
  have hmem' : e' ∈ s.history := by simp [heq']
  obtain rfl := h.distinct e hmem e' hmem' t ht _ ht' rfl
  obtain ⟨hbefore', -⟩ := h.runs before' e since' heq' _ ht'
  have hsame : calledIn t.number since = calledIn t.number since' := by
    have := congrArg (calledIn t.number) (heq.symm.trans heq')
    simpa [calledIn_append, calledIn_opening ht, hbefore, hbefore'] using this
  have hlist : t.callbacks = calledIn t.number since' ++ k :: rest := by
    have := Option.some.inj (ht.symm.trans ht')
    rw [this]
  rw [hsame, hentries, hlist]
  exact ⟨rest, by simp [calledIn, Entry.calledIn?]⟩

section Step

variable {s : Store} {move : Move σ} (enabled : move.Enabled s) (h : s.Turns)

include enabled h

theorem Store.Turns.callbacks_step (c : ContextId) :
    ∀ k ∈ ((move.applyStore s).context c).callbacks, k.number < (move.applyStore s).fresh := by
  intro k hk
  rw [Move.fresh_applyStore]
  rcases callbacks_applyStore enabled c hk with hk | ⟨hk, hone⟩ | ⟨n, ks, hn, hk⟩
  · have := h.callbacks c k hk
    omega
  · omega
  · have := (h.numbered _ hn ⟨n, c, ks⟩ rfl).2 k hk
    omega

theorem Store.Turns.hooks_step (c : ContextId) :
    ∀ k ∈ ((move.applyStore s).context c).hooks, k.number < (move.applyStore s).fresh := by
  intro k hk
  rw [Move.fresh_applyStore]
  rcases hooks_applyStore enabled c with heq | ⟨heq, -⟩ | ⟨heq, hone, -, -⟩ <;> rw [heq] at hk
  · have := h.hooks c k hk
    omega
  · cases hk
  · rcases List.mem_append.1 hk with hk | hk
    · have := h.hooks c k hk
      omega
    · rw [List.mem_singleton.1 hk, hone]
      exact Nat.lt_succ_self _

theorem Store.Turns.numbered_step :
    ∀ e ∈ s.history ++ move.entries s, ∀ t ∈ e.turn?,
      t.number < s.fresh + move.numbers ∧ ∀ k ∈ t.callbacks, k.number < s.fresh + move.numbers := by
  intro e he t ht
  rcases List.mem_append.1 he with he | he
  · obtain ⟨hn, hks⟩ := h.numbered e he t ht
    exact ⟨by omega, fun k hk => by have := hks k hk; omega⟩
  · obtain ⟨-, hone, hn, hlist⟩ := turn_entries enabled he ht
    refine ⟨by omega, fun k hk => ?_⟩
    rcases hlist with ⟨-, hlist, -⟩ | ⟨-, hlist, -⟩ <;> rw [hlist] at hk
    · have := h.callbacks _ k hk
      omega
    · have := h.hooks _ k hk
      omega

/-- A turn that a move opens has a number that no earlier one has. -/
theorem Store.Turns.distinct_step :
    ∀ e ∈ s.history ++ move.entries s, ∀ e' ∈ s.history ++ move.entries s, ∀ t ∈ e.turn?,
      ∀ t' ∈ e'.turn?, t.number = t'.number → e = e' := by
  intro e he e' he' t ht t' ht' hnumber
  rcases List.mem_append.1 he with he | he <;> rcases List.mem_append.1 he' with he' | he'
  · exact h.distinct e he e' he' t ht t' ht' hnumber
  · have := (h.numbered e he t ht).1
    obtain ⟨-, -, hn, -⟩ := turn_entries enabled he' ht'
    omega
  · have := (h.numbered e' he' t' ht').1
    obtain ⟨-, -, hn, -⟩ := turn_entries enabled he ht
    omega
  · obtain ⟨hone, -⟩ := turn_entries enabled he ht
    rw [hone] at he'
    exact (List.mem_singleton.1 he').symm

theorem Store.Turns.called_step (n : Nat) (c : ContextId) (k : CallbackId)
    (hk : .called n c k ∈ s.history ++ move.entries s) :
    ∃ e ∈ s.history ++ move.entries s, ∃ t ∈ e.turn?,
      t.number = n ∧ t.context = c ∧ k ∈ t.callbacks := by
  rcases List.mem_append.1 hk with hk | hk
  · obtain ⟨e, he, rest⟩ := h.called n c k hk
    exact ⟨e, List.mem_append_left _ he, rest⟩
  · obtain ⟨rest, howes, -⟩ := called_entries enabled hk
    obtain ⟨before, e, since, heq, ht⟩ := howes.turn
    exact ⟨e, by simp [heq], _, ht, rfl, rfl, by simp⟩

theorem Store.Turns.step : (move.applyStore s).Turns := by
  refine ⟨?_, ?_, ?_, ?_, h.callbacks_step enabled, h.hooks_step enabled⟩ <;>
    rw [Move.history_applyStore]
  · exact h.numbered_step enabled
  · exact h.distinct_step enabled
  · exact h.called_step enabled
  · intro before e since heq t ht
    rcases history_split heq with ⟨old, hold, rfl⟩ | ⟨left, rfl, hleft⟩
    · exact h.runs_step enabled hold ht
    · obtain ⟨-, -, hn, -⟩ := turn_entries enabled (by simp [hleft]) ht
      obtain ⟨rfl, rfl⟩ := Move.entries_split hleft
      rw [List.append_nil]
      exact ⟨h.calledIn_new (by omega), List.nil_prefix⟩

end Step

theorem Path.turns {allowed : Move σ → Prop} {first : Nat} {w w' : World σ}
    (h : Path allowed first w w') (start : w.store.Turns) : w'.store.Turns := by
  refine h.invariant (I := fun m => m.store.Turns) (fun move m enabled _ _ hm => ?_) start
  rw [Move.apply_store]
  exact hm.step enabled

/-- Where nothing has been made yet, there is no turn. -/
theorem Store.Turns.empty : ({} : Store).Turns := by
  have hcallbacks (c : ContextId) : (({} : Store).context c).callbacks = [] := rfl
  have hhooks (c : ContextId) : (({} : Store).context c).hooks = [] := rfl
  constructor <;> simp [Store.history, hcallbacks, hhooks]

theorem World.Arises.turns {w : World σ} (h : w.Arises) : w.store.Turns := by
  obtain ⟨w₀, new, path⟩ := h
  exact path.turns (new ▸ .empty)

end Startup
