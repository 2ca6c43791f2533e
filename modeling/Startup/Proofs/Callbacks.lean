/-
The callbacks of a context. A refresh takes them from the context and puts them back when it ends, so
that at any time the context has those which were registered and which no refresh holds. Refreshes may
be nested; one that is stopped for good never puts back what it took.
-/
import Startup.Proofs.Turns

namespace Startup

variable {σ : Type}

/-! ## What a history says of callbacks -/

/-- The callback that an entry says was registered with a context. -/
def Entry.registered? (c : ContextId) : Entry → Option CallbackId
  | .registered d callback => if d = c then some callback else none
  | _ => none

/-- The callbacks registered with a context, in order. -/
def registeredIn (c : ContextId) (h : List Entry) : List CallbackId := h.filterMap (·.registered? c)

/-- The callbacks that a refresh of a context took, unless it is among these. -/
def Entry.takenBut (c : ContextId) (ended : List Nat) : Entry → List CallbackId
  | .refreshing turn d callbacks => if d = c ∧ turn ∉ ended then callbacks else []
  | _ => []

/-- The callbacks of a context that refreshes took which have not ended. -/
def heldIn (c : ContextId) (h : List Entry) : List CallbackId :=
  h.flatMap (·.takenBut c (endedIn c h))

/-- The callbacks of a context that had these, after what has happened since. -/
def callbacksAfter (c : ContextId) (callbacks : List CallbackId) (h : List Entry) : List CallbackId :=
  (callbacks ++ registeredIn c h).filter (· ∉ heldIn c h)

section History

variable {c : ContextId} {callbacks taken : List CallbackId} {k : CallbackId} {turn : Nat}
  {h before after : List Entry} {e : Entry}

theorem registeredIn_append (c : ContextId) (h₁ h₂ : List Entry) :
    registeredIn c (h₁ ++ h₂) = registeredIn c h₁ ++ registeredIn c h₂ :=
  List.filterMap_append ..

theorem mem_heldIn : k ∈ heldIn c h ↔
    ∃ turn taken, .refreshing turn c taken ∈ h ∧ turn ∉ endedIn c h ∧ k ∈ taken := by
  constructor
  · intro hk
    obtain ⟨e, he, hk⟩ := List.mem_flatMap.1 hk
    cases e with
    | refreshing turn d taken =>
      simp only [Entry.takenBut] at hk
      split at hk
      · rename_i hturn
        exact ⟨turn, taken, hturn.1 ▸ he, hturn.2, hk⟩
      · cases hk
    | _ => cases hk
  · rintro ⟨turn, taken, he, hended, hk⟩
    exact List.mem_flatMap.2 ⟨_, he, by simpa [Entry.takenBut, hended] using hk⟩

theorem mem_callbacksAfter :
    k ∈ callbacksAfter c callbacks h ↔ k ∈ callbacks ++ registeredIn c h ∧ k ∉ heldIn c h := by
  simp only [callbacksAfter, List.mem_filter, decide_eq_true_eq]

/-- An entry that says nothing of the callbacks of a context. -/
def Entry.IsAside (c : ContextId) : Entry → Prop
  | .registered d _ | .refreshing _ d _ | .refreshed _ d | .refreshFailed _ d => d ≠ c
  | _ => True

theorem Entry.IsAside.registered (aside : e.IsAside c) : e.registered? c = none := by
  cases e <;> first | rfl | exact if_neg aside

theorem Entry.IsAside.ended (aside : e.IsAside c) : e.ended? c = none := by
  cases e <;> first | rfl | exact if_neg aside

theorem not_begun_aside {more : List Entry} (aside : ∀ e ∈ more, e.IsAside c) (turn : Nat)
    (taken : List CallbackId) : .refreshing turn c taken ∉ more :=
  fun hmem => aside _ hmem rfl

theorem registeredIn_aside {more : List Entry} (aside : ∀ e ∈ more, e.IsAside c) :
    registeredIn c more = [] :=
  List.filterMap_eq_nil_iff.2 fun e he => (aside e he).registered

theorem endedIn_aside {more : List Entry} (aside : ∀ e ∈ more, e.IsAside c) : endedIn c more = [] :=
  List.filterMap_eq_nil_iff.2 fun e he => (aside e he).ended

/-- Where no refresh begins or ends, what is held stays so. -/
theorem mem_heldIn_more {more : List Entry} (hended : endedIn c more = [])
    (begun : ∀ turn taken, .refreshing turn c taken ∉ more) :
    k ∈ heldIn c (h ++ more) ↔ k ∈ heldIn c h := by
  simp only [mem_heldIn, endedIn_append, hended, List.append_nil, List.mem_append]
  constructor
  · rintro ⟨turn, taken, hmem | hmem, rest⟩
    · exact ⟨turn, taken, hmem, rest⟩
    · exact absurd hmem (begun turn taken)
  · rintro ⟨turn, taken, hmem, rest⟩
    exact ⟨turn, taken, .inl hmem, rest⟩

theorem callbacksAfter_aside {more : List Entry} (aside : ∀ e ∈ more, e.IsAside c) :
    callbacksAfter c callbacks (h ++ more) = callbacksAfter c callbacks h := by
  unfold callbacksAfter
  simp only [registeredIn_append, registeredIn_aside aside, List.append_nil,
    mem_heldIn_more (endedIn_aside aside) (not_begun_aside aside)]

theorem Entry.registered_of_ended (he : e.ended? c = some turn) : e.registered? c = none := by
  rcases Entry.ended_iff.1 he with rfl | rfl <;> rfl

theorem Entry.ne_refreshing_of_ended (he : e.ended? c = some turn) (t : Nat) (ks : List CallbackId) :
    e ≠ .refreshing t c ks := by
  rcases Entry.ended_iff.1 he with rfl | rfl <;> nofun

/-- The end of a refresh gives back what it took, and no more. -/
theorem held_ended (he : e.ended? c = some turn) :
    k ∈ heldIn c (h ++ [e]) ↔
      ∃ t ks, .refreshing t c ks ∈ h ∧ t ∉ endedIn c h ∧ t ≠ turn ∧ k ∈ ks := by
  have hended : endedIn c (h ++ [e]) = endedIn c h ++ [turn] := by simp [endedIn, he]
  simp only [mem_heldIn, hended, List.mem_append, List.mem_singleton, not_or]
  constructor
  · rintro ⟨t, ks, hmem | rfl, ⟨hended, hne⟩, hk⟩
    · exact ⟨t, ks, hmem, hended, hne, hk⟩
    · exact absurd rfl (Entry.ne_refreshing_of_ended he t ks)
  · rintro ⟨t, ks, hmem, hended, hne, hk⟩
    exact ⟨t, ks, .inl hmem, ⟨hended, hne⟩, hk⟩

/-- A new callback is put behind the others. -/
theorem callbacksAfter_registered (new : k ∉ heldIn c h) :
    callbacksAfter c callbacks (h ++ [.registered c k]) = callbacksAfter c callbacks h ++ [k] := by
  have hregistered : registeredIn c (h ++ [.registered c k]) = registeredIn c h ++ [k] := by
    simp [registeredIn, Entry.registered?]
  have hheld (j : CallbackId) : j ∈ heldIn c (h ++ [.registered c k]) ↔ j ∈ heldIn c h :=
    mem_heldIn_more rfl (by simp)
  simp [callbacksAfter, hregistered, hheld, new, ← List.append_assoc]

/-- A refresh takes all the callbacks that there are. -/
theorem callbacksAfter_refreshing (fresh : turn ∉ endedIn c h) :
    callbacksAfter c callbacks
      (h ++ [.refreshing turn c (callbacksAfter c callbacks h)]) = [] := by
  rw [List.eq_nil_iff_forall_not_mem]
  intro k hk
  have hended : endedIn c (h ++ [.refreshing turn c (callbacksAfter c callbacks h)]) = endedIn c h := by
    simp [endedIn, Entry.ended?]
  have hregistered : registeredIn c (h ++ [.refreshing turn c (callbacksAfter c callbacks h)]) =
      registeredIn c h := by simp [registeredIn, Entry.registered?]
  obtain ⟨hk, hheld⟩ := mem_callbacksAfter.1 hk
  rw [hregistered] at hk
  refine hheld (mem_heldIn.2 ?_)
  rw [hended]
  by_cases held : k ∈ heldIn c h
  · obtain ⟨turn', taken, hmem, rest⟩ := mem_heldIn.1 held
    exact ⟨turn', taken, List.mem_append_left _ hmem, rest⟩
  · exact ⟨turn, _, by simp, fresh, mem_callbacksAfter.2 ⟨hk, held⟩⟩

/-! ## Nested refreshes -/

/-- Every refresh of a context that a history tells of has a lower number. -/
structure TurnsBelow (n : Nat) (c : ContextId) (h : List Entry) : Prop where
  begun : ∀ turn taken, .refreshing turn c taken ∈ h → turn < n
  ended : ∀ turn ∈ endedIn c h, turn < n

/-- Every refresh of a context that had these callbacks took all that there were, and has a higher
number than those before it. -/
def TakesAll (c : ContextId) (callbacks : List CallbackId) (h : List Entry) : Prop :=
  ∀ before turn taken after, h = before ++ .refreshing turn c taken :: after →
    taken = callbacksAfter c callbacks before ∧ TurnsBelow turn c before

theorem TakesAll.of_append {more : List Entry} (takes : TakesAll c callbacks (h ++ more)) :
    TakesAll c callbacks h := by
  rintro before turn taken after rfl
  exact takes before turn taken (after ++ more) (by simp)

theorem endedIn_refreshing (before after : List Entry) :
    endedIn c (before ++ .refreshing turn c taken :: after) = endedIn c before ++ endedIn c after := by
  simp [endedIn, Entry.ended?]

theorem registeredIn_refreshing (before after : List Entry) :
    registeredIn c (before ++ .refreshing turn c taken :: after) =
      registeredIn c before ++ registeredIn c after := by
  simp [registeredIn, Entry.registered?]

section Nested

variable (takes : TakesAll c callbacks (before ++ .refreshing turn c taken :: after))

include takes

/-- What a refresh took was there before. -/
theorem TakesAll.mem_early (hk : k ∈ taken) : k ∈ callbacks ++ registeredIn c before := by
  rw [(takes before turn taken after rfl).1] at hk
  exact (mem_callbacksAfter.1 hk).1

/-- While a refresh is under way, all callbacks from before it are held. -/
theorem TakesAll.held_early (nested : ∀ t ∈ endedIn c after, turn < t)
    (hk : k ∈ callbacks ++ registeredIn c before) :
    k ∈ heldIn c (before ++ .refreshing turn c taken :: after) := by
  obtain ⟨rfl, below⟩ := takes before turn taken after rfl
  rw [mem_heldIn]
  simp only [endedIn_refreshing, List.mem_append, not_or]
  -- what an earlier refresh holds is still held; the rest was there to be taken by this one
  by_cases held : k ∈ heldIn c before
  · obtain ⟨t, taken, hmem, hended, hk⟩ := mem_heldIn.1 held
    have lt : t < turn := below.begun t taken hmem
    exact ⟨t, taken, .inl hmem, ⟨hended, fun h => Nat.lt_asymm lt (nested t h)⟩, hk⟩
  · refine ⟨turn, _, .inr (List.mem_cons_self ..), ⟨fun h => ?_, fun h => ?_⟩,
      mem_callbacksAfter.2 ⟨hk, held⟩⟩
    · exact Nat.lt_irrefl turn (below.ended turn h)
    · exact Nat.lt_irrefl turn (nested turn h)

/-- A refresh nested in another has a higher number. -/
theorem TakesAll.lt_nested {t : Nat} {ks : List CallbackId} (hmem : .refreshing t c ks ∈ after) :
    turn < t := by
  obtain ⟨first, last, rfl⟩ := List.append_of_mem hmem
  exact (takes (before ++ .refreshing turn c taken :: first) t ks last (by simp)).2.begun turn taken
    (by simp)

/-- A refresh nested in another takes none of the callbacks from before that one. -/
theorem TakesAll.not_early (nested : ∀ t ∈ endedIn c after, turn < t) {t : Nat}
    {ks : List CallbackId} (hmem : .refreshing t c ks ∈ after) (hk : k ∈ ks) :
    k ∉ callbacks ++ registeredIn c before := by
  intro early
  obtain ⟨first, last, rfl⟩ := List.append_of_mem hmem
  have whole : before ++ .refreshing turn c taken :: (first ++ .refreshing t c ks :: last) =
      (before ++ .refreshing turn c taken :: first) ++ .refreshing t c ks :: last := by simp
  have all : TakesAll c callbacks (before ++ .refreshing turn c taken :: first) :=
    (whole ▸ takes).of_append
  -- when the nested refresh began, the outer one was under way and held all of these
  have nested' : ∀ u ∈ endedIn c first, turn < u := fun u hu =>
    nested u (by rw [endedIn_refreshing]; exact List.mem_append_left _ hu)
  rw [(takes _ t ks last whole).1] at hk
  exact (mem_callbacksAfter.1 hk).2 (all.held_early nested' early)

/-- What was registered since a refresh began is held by those that began since. -/
theorem TakesAll.held_late (new : k ∉ callbacks ++ registeredIn c before) :
    k ∈ heldIn c (before ++ .refreshing turn c taken :: after) ↔ k ∈ heldIn c after := by
  simp only [mem_heldIn, endedIn_refreshing, List.mem_append, List.mem_cons, not_or]
  constructor
  · rintro ⟨t, ks, hmem | heq | hmem, ⟨-, hended⟩, hk⟩
    · -- what was taken before was registered before
      obtain ⟨first, last, rfl⟩ := List.append_of_mem hmem
      have early : k ∈ callbacks ++ registeredIn c first := by
        rw [(takes first t ks (last ++ .refreshing turn c taken :: after) (by simp)).1] at hk
        exact (mem_callbacksAfter.1 hk).1
      rw [registeredIn_refreshing, ← List.append_assoc] at new
      exact absurd (List.mem_append_left _ early) new
    · cases heq
      exact absurd (takes.mem_early hk) new
    · exact ⟨t, ks, hmem, hended, hk⟩
  · rintro ⟨t, ks, hmem, hended, hk⟩
    refine ⟨t, ks, .inr (.inr hmem), ⟨fun h => ?_, hended⟩, hk⟩
    have early : t < turn := (takes before turn taken after rfl).2.ended t h
    exact Nat.lt_asymm early (takes.lt_nested hmem)

/-- While a refresh is under way, the context has those callbacks alone that were registered since. -/
theorem TakesAll.callbacksAfter_underWay (nested : ∀ t ∈ endedIn c after, turn < t)
    (new : ∀ k ∈ registeredIn c after, k ∉ callbacks ++ registeredIn c before) :
    callbacksAfter c callbacks (before ++ .refreshing turn c taken :: after) =
      callbacksAfter c [] after := by
  unfold callbacksAfter
  rw [registeredIn_refreshing, ← List.append_assoc, List.filter_append, List.nil_append]
  have early : (callbacks ++ registeredIn c before).filter
      (· ∉ heldIn c (before ++ .refreshing turn c taken :: after)) = [] := by
    refine List.filter_eq_nil_iff.2 fun k hk => ?_
    simpa using takes.held_early nested hk
  rw [early, List.nil_append]
  refine List.filter_congr fun k hk => ?_
  simp only [takes.held_late (new k hk)]

/-- A callback from before a refresh that has ended is held by those from before it. -/
theorem TakesAll.held_early_ended (nested : ∀ t ∈ endedIn c after, turn < t)
    (he : e.ended? c = some turn) (hk : k ∈ callbacks ++ registeredIn c before) :
    k ∈ heldIn c (before ++ .refreshing turn c taken :: after ++ [e]) ↔ k ∈ heldIn c before := by
  rw [held_ended he, mem_heldIn]
  simp only [endedIn_refreshing, List.mem_append, List.mem_cons, not_or]
  constructor
  · rintro ⟨t, ks, hmem | heq | hmem, ⟨hended, -⟩, hne, hks⟩
    · exact ⟨t, ks, hmem, hended, hks⟩
    · cases heq
      exact absurd rfl hne
    · exact absurd hk (takes.not_early nested hmem hks)
  · rintro ⟨t, ks, hmem, hended, hks⟩
    have lt : t < turn := (takes before turn taken after rfl).2.begun t ks hmem
    exact ⟨t, ks, .inl hmem, ⟨hended, fun h => Nat.lt_asymm lt (nested t h)⟩, Nat.ne_of_lt lt, hks⟩

/-- A callback registered since a refresh began is held, once that has ended, by those that began since. -/
theorem TakesAll.held_late_ended (he : e.ended? c = some turn)
    (new : k ∉ callbacks ++ registeredIn c before) :
    k ∈ heldIn c (before ++ .refreshing turn c taken :: after ++ [e]) ↔ k ∈ heldIn c after := by
  rw [held_ended he, ← takes.held_late new, mem_heldIn]
  refine exists_congr fun t => exists_congr fun ks => ?_
  constructor
  · rintro ⟨hmem, hended, -, hk⟩
    exact ⟨hmem, hended, hk⟩
  · rintro ⟨hmem, hended, hk⟩
    refine ⟨hmem, hended, ?_, hk⟩
    rintro rfl
    -- the refresh took what was there before
    rcases List.mem_append.1 hmem with hmem | hmem
    · exact Nat.lt_irrefl t ((takes before t taken after rfl).2.begun t ks hmem)
    rcases List.mem_cons.1 hmem with heq | hmem
    · cases heq
      exact new (takes.mem_early hk)
    · exact Nat.lt_irrefl t (takes.lt_nested hmem)

/-- A refresh that ends puts what it took before that which was registered since. -/
theorem TakesAll.callbacksAfter_ended (nested : ∀ t ∈ endedIn c after, turn < t)
    (new : ∀ k ∈ registeredIn c after, k ∉ callbacks ++ registeredIn c before)
    (he : e.ended? c = some turn) :
    callbacksAfter c callbacks (before ++ .refreshing turn c taken :: after ++ [e]) =
      taken ++ callbacksAfter c [] after := by
  have hall : registeredIn c (before ++ .refreshing turn c taken :: after ++ [e]) =
      registeredIn c before ++ registeredIn c after := by
    rw [registeredIn_append, registeredIn_refreshing]
    simp [registeredIn, Entry.registered_of_ended he]
  have early : (callbacks ++ registeredIn c before).filter
      (· ∉ heldIn c (before ++ .refreshing turn c taken :: after ++ [e])) = taken := by
    refine Eq.trans (List.filter_congr fun k hk => ?_) (takes before turn taken after rfl).1.symm
    simp only [takes.held_early_ended nested he hk]
  have late : (registeredIn c after).filter
      (· ∉ heldIn c (before ++ .refreshing turn c taken :: after ++ [e])) =
      callbacksAfter c [] after := by
    refine List.filter_congr fun k hk => ?_
    simp only [takes.held_late_ended he (new k hk)]
  rw [callbacksAfter, hall, ← List.append_assoc, List.filter_append, early, late]

/-- The end of a refresh does not count for what is nested in it. -/
theorem TakesAll.callbacksAfter_nested (he : e.ended? c = some turn) :
    callbacksAfter c [] (after ++ [e]) = callbacksAfter c [] after := by
  have held (k : CallbackId) : k ∈ heldIn c (after ++ [e]) ↔ k ∈ heldIn c after := by
    rw [held_ended he, mem_heldIn]
    refine exists_congr fun t => exists_congr fun ks => ?_
    constructor
    · rintro ⟨hmem, hended, -, hk⟩
      exact ⟨hmem, hended, hk⟩
    · rintro ⟨hmem, hended, hk⟩
      exact ⟨hmem, hended, (Nat.ne_of_lt (takes.lt_nested hmem)).symm, hk⟩
  simp [callbacksAfter, held, registeredIn, Entry.registered_of_ended he]

end Nested

end History

/-! ## Moves and callbacks -/

/-- What a move does to the callbacks of a context: nothing, unless it registers one, or begins or
ends a refresh of the context. -/
theorem callbacks_move {move : Move σ} {s : Store} (enabled : move.Enabled s) {c : ContextId}
    (made : c.number < s.fresh) :
    ((∀ e ∈ move.entries s, e.IsAside c) ∧
        ((move.applyStore s).context c).callbacks = (s.context c).callbacks) ∨
      (move.entries s = [.registered c ⟨s.fresh⟩] ∧ move.numbers = 1 ∧
        ((move.applyStore s).context c).callbacks = (s.context c).callbacks ++ [⟨s.fresh⟩]) ∨
      (move.entries s = [.refreshing s.fresh c (s.context c).callbacks] ∧ move.numbers = 1 ∧
        ((move.applyStore s).context c).callbacks = []) ∨
      ∃ turn taken e, move.entries s = [e] ∧ move.turn? = some turn ∧ s.UnderWay turn c taken ∧
        e.ended? c = some turn ∧ ((move.applyStore s).context c).callbacks =
          taken ++ (s.context c).callbacks := by
  rw [Move.context_applyStore]
  cases move with
  | onRefresh d code =>
    by_cases hd : d = c
    · subst hd
      exact .inr (.inl ⟨rfl, rfl, by simp⟩)
    · exact .inl ⟨by simpa [Move.entries, Entry.IsAside] using hd, by simp [Ne.symm hd]⟩
  | beginRefresh d =>
    by_cases hd : d = c
    · subst hd
      exact .inr (.inr (.inl ⟨rfl, rfl, by simp⟩))
    · exact .inl ⟨by simpa [Move.entries, Entry.IsAside] using hd, by simp [Ne.symm hd]⟩
  | restore turn d taken | activate turn d taken =>
    by_cases hd : d = c
    · subst hd
      exact .inr (.inr (.inr ⟨turn, taken, _, rfl, rfl, enabled, if_pos rfl, by simp⟩))
    · exact .inl ⟨by simpa [Move.entries, Entry.IsAside] using hd, by simp [Ne.symm hd]⟩
  | makeContext context =>
    -- the context was made before, so that the new one has another number
    have other : c ≠ ⟨s.fresh⟩ := ContextId.ne_next made
    exact .inl ⟨by simp [Move.entries, Entry.IsAside], by simp [other]⟩
  | record e =>
    -- what code records by itself says nothing of refreshes and registrations
    refine .inl ⟨?_, rfl⟩
    cases e <;> simp_all [Move.entries, Entry.IsAside, Move.Enabled, Entry.IsPlain]
  | onClose d code | beginClosing d =>
    refine .inl ⟨by simp [Move.entries, Entry.IsAside], ?_⟩
    dsimp only
    split <;> simp_all
  | _ => exact .inl ⟨by simp [Move.entries, Entry.IsAside], rfl⟩

/-- A context that had these callbacks, after what has happened since. -/
structure CallbacksOf (c : ContextId) (callbacks : List CallbackId) (h : List Entry) (s : Store) :
    Prop where
  made : c.number < s.fresh
  numbered : ∀ k ∈ callbacks ++ registeredIn c h, k.number < s.fresh
  below : TurnsBelow s.fresh c h
  distinct : (registeredIn c h).Nodup
  apart : ∀ k ∈ registeredIn c h, k ∉ callbacks
  takes : TakesAll c callbacks h
  /-- A refresh that has ended began since. -/
  began : ∀ before e after turn, h = before ++ e :: after → e.ended? c = some turn →
    ∃ taken, .refreshing turn c taken ∈ before
  now : (s.context c).callbacks = callbacksAfter c callbacks h

section Step

variable {c : ContextId} {callbacks taken : List CallbackId} {h : List Entry} {s : Store}

/-- What was registered since a refresh began was not there before. -/
theorem CallbacksOf.new {before after : List Entry} {turn : Nat} (of : CallbacksOf c callbacks h s)
    (heq : h = before ++ .refreshing turn c taken :: after) :
    ∀ k ∈ registeredIn c after, k ∉ callbacks ++ registeredIn c before := by
  intro k late early
  have distinct := of.distinct
  have apart := of.apart k
  rw [heq, registeredIn_refreshing] at distinct apart
  rcases List.mem_append.1 early with early | early
  · exact apart (List.mem_append_right _ late) early
  · exact (List.nodup_append.1 distinct).2.2 k early k late rfl

/-- Nothing is held that was never there. -/
theorem TakesAll.held_subset {k : CallbackId} (takes : TakesAll c callbacks h) (hk : k ∈ heldIn c h) :
    k ∈ callbacks ++ registeredIn c h := by
  obtain ⟨turn, taken, hmem, -, hin⟩ := mem_heldIn.1 hk
  obtain ⟨before, after, rfl⟩ := List.append_of_mem hmem
  have early := takes.mem_early hin
  rw [registeredIn_refreshing, ← List.append_assoc]
  exact List.mem_append_left _ early

theorem TurnsBelow.more {n m : Nat} {more : List Entry} (below : TurnsBelow n c h) (le : n ≤ m)
    (next : TurnsBelow m c more) : TurnsBelow m c (h ++ more) where
  begun turn taken hmem := by
    rcases List.mem_append.1 hmem with hmem | hmem
    · exact Nat.lt_of_lt_of_le (below.begun turn taken hmem) le
    · exact next.begun turn taken hmem
  ended turn hmem := by
    rw [endedIn_append] at hmem
    rcases List.mem_append.1 hmem with hmem | hmem
    · exact Nat.lt_of_lt_of_le (below.ended turn hmem) le
    · exact next.ended turn hmem

theorem TakesAll.more {more : List Entry} (takes : TakesAll c callbacks h)
    (begun : ∀ turn taken, .refreshing turn c taken ∉ more) : TakesAll c callbacks (h ++ more) := by
  intro before turn taken after heq
  rcases history_split heq with ⟨old, hold, -⟩ | ⟨left, -, hleft⟩
  · exact takes before turn taken old hold
  · exact absurd (by simp [hleft]) (begun turn taken)

variable {s' : Store} (of : CallbacksOf c callbacks h s) (le : s.fresh ≤ s'.fresh)

include of

theorem CallbacksOf.began_more {more : List Entry} (hended : endedIn c more = []) :
    ∀ before e after turn, h ++ more = before ++ e :: after → e.ended? c = some turn →
      ∃ taken, .refreshing turn c taken ∈ before := by
  intro before e after turn heq he
  rcases history_split heq with ⟨old, hold, -⟩ | ⟨left, -, hleft⟩
  · exact of.began before e old turn hold he
  · have hmem : turn ∈ endedIn c more := List.mem_filterMap.2 ⟨e, by simp [hleft], he⟩
    rw [hended] at hmem
    cases hmem

include le

/-- Where nothing is registered, it suffices to look at the refreshes. -/
theorem CallbacksOf.more {more : List Entry} (none : registeredIn c more = [])
    (below : TurnsBelow s'.fresh c more) (takes : TakesAll c callbacks (h ++ more))
    (began : ∀ before e after turn, h ++ more = before ++ e :: after → e.ended? c = some turn →
      ∃ taken, .refreshing turn c taken ∈ before)
    (now : (s'.context c).callbacks = callbacksAfter c callbacks (h ++ more)) :
    CallbacksOf c callbacks (h ++ more) s' := by
  have hregistered : registeredIn c (h ++ more) = registeredIn c h := by
    rw [registeredIn_append, none, List.append_nil]
  exact {
    made := Nat.lt_of_lt_of_le of.made le
    numbered := fun k hk => Nat.lt_of_lt_of_le (of.numbered k (hregistered ▸ hk)) le
    below := of.below.more le below
    distinct := hregistered ▸ of.distinct
    apart := hregistered ▸ of.apart
    takes := takes
    began := began
    now := now }

theorem CallbacksOf.goesAside {more : List Entry} (aside : ∀ e ∈ more, e.IsAside c)
    (same : (s'.context c).callbacks = (s.context c).callbacks) :
    CallbacksOf c callbacks (h ++ more) s' := by
  refine of.more le (registeredIn_aside aside) ⟨fun turn taken hmem => ?_, ?_⟩
    (of.takes.more (not_begun_aside aside)) (of.began_more (endedIn_aside aside)) ?_
  · exact absurd hmem (not_begun_aside aside turn taken)
  · simp [endedIn_aside aside]
  · rw [same, of.now, callbacksAfter_aside aside]

omit le in
/-- A callback with the next number is registered. -/
theorem CallbacksOf.registers (fresh : s'.fresh = s.fresh + 1)
    (grown : (s'.context c).callbacks = (s.context c).callbacks ++ [⟨s.fresh⟩]) :
    CallbacksOf c callbacks (h ++ [.registered c ⟨s.fresh⟩]) s' := by
  have unknown : ⟨s.fresh⟩ ∉ callbacks ++ registeredIn c h := fun hmem =>
    Nat.lt_irrefl _ (of.numbered _ hmem)
  have hregistered : registeredIn c (h ++ [.registered c ⟨s.fresh⟩]) =
      registeredIn c h ++ [⟨s.fresh⟩] := by
    simp [registeredIn, Entry.registered?]
  have le : s.fresh ≤ s'.fresh := by omega
  refine ⟨Nat.lt_of_lt_of_le of.made le, ?_, of.below.more le ⟨by simp, by simp [endedIn, Entry.ended?]⟩,
    ?_, ?_, of.takes.more (by simp), of.began_more rfl, ?_⟩
  · intro k hk
    rw [hregistered, ← List.append_assoc] at hk
    rcases List.mem_append.1 hk with hk | hk
    · exact Nat.lt_of_lt_of_le (of.numbered k hk) le
    · rw [List.mem_singleton.1 hk, fresh]
      exact Nat.lt_succ_self _
  · rw [hregistered, List.nodup_append]
    refine ⟨of.distinct, by simp, ?_⟩
    rintro k hk _ hnew rfl
    rw [List.mem_singleton.1 hnew] at hk
    exact unknown (List.mem_append_right _ hk)
  · intro k hk
    rw [hregistered] at hk
    rcases List.mem_append.1 hk with hk | hk
    · exact of.apart k hk
    · rw [List.mem_singleton.1 hk]
      exact fun hmem => unknown (List.mem_append_left _ hmem)
  · rw [grown, of.now, callbacksAfter_registered fun held => unknown (of.takes.held_subset held)]

omit le in
/-- A refresh with the next number takes the callbacks. -/
theorem CallbacksOf.begins (fresh : s'.fresh = s.fresh + 1) (taken : (s'.context c).callbacks = []) :
    CallbacksOf c callbacks (h ++ [.refreshing s.fresh c (s.context c).callbacks]) s' := by
  have le : s.fresh ≤ s'.fresh := by omega
  refine of.more le rfl ⟨?_, by simp [endedIn, Entry.ended?]⟩ ?_ (of.began_more rfl) ?_
  · intro turn taken hmem
    cases List.mem_singleton.1 hmem
    omega
  · intro before turn taken after heq
    rcases history_last heq with ⟨old, hold, -⟩ | ⟨rfl, heq, -⟩
    · exact of.takes before turn taken old hold
    · -- the refresh is the one that begins
      cases heq
      exact ⟨of.now, of.below⟩
  · rw [taken, of.now, callbacksAfter_refreshing]
    exact fun hmem => Nat.lt_irrefl _ (of.below.ended _ hmem)

/-- A refresh ends and puts back what it took. -/
theorem CallbacksOf.ends {before after : List Entry} {turn : Nat} {e : Entry}
    (heq : h = before ++ .refreshing turn c taken :: after) (nested : ∀ t ∈ endedIn c after, turn < t)
    (he : e.ended? c = some turn)
    (back : (s'.context c).callbacks = taken ++ (s.context c).callbacks) :
    CallbacksOf c callbacks (h ++ [e]) s' := by
  have new := of.new heq
  subst heq
  have lt : turn < s.fresh := of.below.begun turn taken (by simp)
  have none_begun (t : Nat) (ks : List CallbackId) : .refreshing t c ks ∉ [e] := fun hmem =>
    Entry.ne_refreshing_of_ended he t ks (List.mem_singleton.1 hmem).symm
  refine of.more le (by simp [registeredIn, Entry.registered_of_ended he]) ⟨?_, ?_⟩
    (of.takes.more none_begun) ?_ ?_
  · exact fun t ks hmem => absurd hmem (none_begun t ks)
  · simpa [endedIn, he] using Nat.lt_of_lt_of_le lt le
  · intro before' e' after' t hsplit ht
    rcases history_last hsplit with ⟨old, hold, -⟩ | ⟨rfl, rfl, -⟩
    · exact of.began before' e' old t hold ht
    · obtain rfl := Option.some.inj (he.symm.trans ht)
      exact ⟨taken, by simp⟩
  · rw [back, of.now, of.takes.callbacksAfter_underWay nested new,
      of.takes.callbacksAfter_ended nested new he]

end Step

/-- Every move keeps it, as long as a refresh that ends has begun since. -/
theorem CallbacksOf.step {c : ContextId} {callbacks : List CallbackId} {h : List Entry} {s : Store}
    {move : Move σ} (of : CallbacksOf c callbacks h s) (enabled : move.Enabled s)
    (since : ∀ turn taken, move.turn? = some turn → s.UnderWay turn c taken →
      ∃ before after, h = before ++ .refreshing turn c taken :: after ∧
        ∀ t ∈ endedIn c after, turn < t) :
    CallbacksOf c callbacks (h ++ move.entries s) (move.applyStore s) := by
  have le : s.fresh ≤ (move.applyStore s).fresh := Nat.le_add_right ..
  have fresh (one : move.numbers = 1) : (move.applyStore s).fresh = s.fresh + 1 := by
    rw [Move.fresh_applyStore, one]
  rcases callbacks_move enabled of.made with ⟨aside, same⟩ | ⟨hentries, one, grown⟩ |
    ⟨hentries, one, taken⟩ | ⟨turn, taken, e, hentries, hturn, hunder, he, back⟩
  · exact of.goesAside le aside same
  · rw [hentries]
    exact of.registers (fresh one) grown
  · rw [hentries]
    exact of.begins (fresh one) taken
  · rw [hentries]
    obtain ⟨before, after, heq, nested⟩ := since turn taken hturn hunder
    exact of.ends le heq nested he back

/-- What becomes of the callbacks of a context on a path on which no earlier refresh ends. -/
theorem Path.callbacksOf {allowed : Move σ → Prop} {first : Nat} {w w' : World σ}
    (h : Path allowed first w w') (le : w.store.fresh ≤ first) (turns : w.store.Turns) {c : ContextId}
    (made : c.number < w.store.fresh) {added : List Entry}
    (history : w'.store.history = w.store.history ++ added) :
    CallbacksOf c (w.store.context c).callbacks added w'.store := by
  induction h generalizing added with
  | refl =>
    obtain rfl : added = [] := List.self_eq_append_right.1 history
    exact {
      made := made
      numbered := by simpa [registeredIn] using turns.callbacks c
      below := ⟨by simp, by simp [endedIn]⟩
      distinct := by simp [registeredIn]
      apart := by simp [registeredIn]
      takes := by simp [TakesAll]
      began := by simp
      now := by rw [callbacksAfter, List.filter_eq_self.2] <;> simp [registeredIn, heldIn] }
  | @snoc m move path enabled _ since ih =>
    obtain ⟨old, hold, -⟩ := path.history
    rw [Move.apply_store, Move.history_applyStore, hold, List.append_assoc] at history
    rw [← List.append_cancel_left history, Move.apply_store]
    refine (ih hold).step enabled fun turn taken hturn hunder => ?_
    obtain ⟨before, after, heq, nested⟩ := hunder
    have later : first ≤ turn := since turn hturn
    rw [hold] at heq
    rcases history_split heq with ⟨early, hearly, -⟩ | ⟨left, -, hleft⟩
    · -- it would have begun before the path
      have lt : turn < w.store.fresh :=
        (turns.numbered (.refreshing turn c taken) (by simp [hearly]) ⟨turn, c, taken⟩ rfl).1
      omega
    · exact ⟨left, after, hleft, nested⟩

end Startup
