/-
Paths of moves, and actions that keep to a discipline. A discipline says which moves are allowed and
which code may be there; an action keeps it if, in every world that holds such code only, it takes a
path of allowed moves. The turns that end on the path also begin on it.
-/
import Startup.Proofs.Move

namespace Startup

variable {σ : Type}

/-! ## Paths -/

/-- Allowed moves one after the other, none of a turn numbered below `first`. -/
inductive Path (allowed : Move σ → Prop) (first : Nat) : World σ → World σ → Prop where
  | refl (w : World σ) : Path allowed first w w
  | snoc {w m : World σ} (move : Move σ) (path : Path allowed first w m)
      (enabled : move.Enabled m.store) (ok : allowed move) (since : ∀ t ∈ move.turn?, first ≤ t) :
      Path allowed first w (move.apply m)

namespace Path

variable {allowed : Move σ → Prop} {first : Nat} {w m w' : World σ}

theorem single {move : Move σ} (enabled : move.Enabled w.store) (ok : allowed move)
    (since : ∀ t ∈ move.turn?, first ≤ t) : Path allowed first w (move.apply w) :=
  .snoc move (.refl w) enabled ok since

theorem weaken {allowed' : Move σ → Prop} {first' : Nat} (h : Path allowed first w w')
    (ok : ∀ move, allowed move → allowed' move) (le : first' ≤ first) :
    Path allowed' first' w w' := by
  induction h with
  | refl => exact .refl _
  | snoc move _ enabled hok since ih =>
    exact .snoc move ih enabled (ok move hok) fun t ht => Nat.le_trans le (since t ht)

theorem trans (h₁ : Path allowed first w m) (h₂ : Path allowed first m w') :
    Path allowed first w w' := by
  induction h₂ with
  | refl => exact h₁
  | snoc move _ enabled ok since ih => exact .snoc move ih enabled ok since

/-- What every move keeps, a path keeps. -/
theorem invariant {I : World σ → Prop} (h : Path allowed first w w')
    (keep : ∀ (move : Move σ) m, move.Enabled m.store → allowed move →
      (∀ t ∈ move.turn?, first ≤ t) → I m → I (move.apply m))
    (start : I w) : I w' := by
  induction h with
  | refl => exact start
  | snoc move _ enabled ok since ih => exact keep move _ enabled ok since ih

theorem fresh_le (h : Path allowed first w w') : w.store.fresh ≤ w'.store.fresh :=
  h.invariant (I := fun m => w.store.fresh ≤ m.store.fresh)
    (fun move m _ _ _ hm => by simp; omega) (Nat.le_refl _)

/-- A path that begins with new turns goes on behind another. -/
theorem onward (h₁ : Path allowed first w m) (le : first ≤ w.store.fresh)
    (h₂ : Path allowed m.store.fresh m w') : Path allowed first w w' :=
  h₁.trans (h₂.weaken (fun _ h => h) (Nat.le_trans le h₁.fresh_le))

/-- A path adds to the history, and calls nothing in an earlier turn. -/
theorem history (h : Path allowed first w w') :
    ∃ added, w'.store.history = w.store.history ++ added ∧ ∀ t < first, calledIn t added = [] := by
  induction h with
  | refl => exact ⟨[], by simp, fun _ _ => rfl⟩
  | @snoc m move _ enabled _ since ih =>
    obtain ⟨added, hadded, hcalled⟩ := ih
    refine ⟨added ++ move.entries m.store, by simp [hadded], fun t ht => ?_⟩
    have hturn : move.turn? ≠ some t := fun e => by
      have := since t (by simp [e]); omega
    rw [calledIn_append, hcalled t ht, Move.calledIn_entries enabled hturn, List.append_nil]

/-- A path of later turns leaves an earlier turn where it was. -/
theorem owes (h : Path allowed first w w') {turn : Nat} (lt : turn < first) {c : ContextId}
    {left : List CallbackId} (howes : w.store.Owes turn c left) : w'.store.Owes turn c left := by
  obtain ⟨before, opening, since, hhistory, hopening⟩ := howes
  obtain ⟨added, hadded, hcalled⟩ := h.history
  refine ⟨before, opening, since ++ added, by simp [hadded, hhistory], ?_⟩
  rwa [calledIn_append, hcalled turn lt, List.append_nil]

/-- A path ends no earlier refresh. -/
theorem ended (h : Path allowed first w w') {added : List Entry}
    (history : w'.store.history = w.store.history ++ added) {c : ContextId} :
    ∀ t ∈ endedIn c added, first ≤ t := by
  induction h generalizing added with
  | refl => simp [List.self_eq_append_right.1 history, endedIn]
  | @snoc m move path enabled _ since ih =>
    obtain ⟨old, hold, -⟩ := path.history
    rw [Move.apply_store, Move.history_applyStore, hold, List.append_assoc] at history
    rw [← List.append_cancel_left history, endedIn_append]
    intro t ht
    rcases List.mem_append.1 ht with ht | ht
    · exact ih hold t ht
    · exact since t (Move.ended_entries enabled ht)

/-- What holds right after an entry, and what every move keeps, holds of all that happened since. -/
theorem since {opening : Entry} {I : List Entry → World σ → Prop} (h : Path allowed first w w')
    (start : ∀ (move : Move σ) m, move.Enabled m.store → move.entries m.store = [opening] →
      I [] (move.apply m))
    (keep : ∀ (move : Move σ) m since, Path allowed first w m → move.Enabled m.store → I since m →
      I (since ++ move.entries m.store) (move.apply m))
    {before since : List Entry}
    (hopening : w'.store.history = w.store.history ++ before ++ opening :: since) : I since w' := by
  induction h generalizing before since with
  | refl =>
    have := congrArg List.length hopening
    simp at this
  | @snoc m move path enabled _ _ ih =>
    rw [Move.apply_store, Move.history_applyStore] at hopening
    rcases history_split hopening with ⟨old, hold, rfl⟩ | ⟨left, -, hleft⟩
    · exact keep move m old path enabled (ih hold)
    · obtain ⟨rfl, rfl⟩ := Move.entries_split hleft
      exact start move m enabled hleft

end Path

/-- A turn that has just begun owes all of its callbacks. -/
theorem Store.Owes.of_opening {s : Store} {turn : Nat} {c : ContextId} {callbacks : List CallbackId}
    {before : List Entry} {opening : Entry}
    (h : opening = .refreshing turn c callbacks ∨ opening = .closing turn c callbacks)
    (hhistory : s.history = before ++ [opening]) : s.Owes turn c callbacks :=
  ⟨before, opening, [], hhistory, h⟩

theorem Store.Owes.call {s : Store} {turn : Nat} {c : ContextId} {callback : CallbackId}
    {rest : List CallbackId} (h : s.Owes turn c (callback :: rest)) :
    ((Move.call turn c callback : Move σ).applyStore s).Owes turn c rest := by
  obtain ⟨before, opening, since, hhistory, hopening⟩ := h
  refine ⟨before, opening, since ++ [.called turn c callback], ?_, ?_⟩
  · simp [hhistory, Move.entries]
  · simpa [calledIn, Entry.calledIn?] using hopening

/-! ## Code -/

/-- All code of a listener is of the given kind. -/
structure ListenerCode.Obeys (code : Program σ → Prop) (c : ListenerCode σ) : Prop where
  onEvent : ∀ e, code (c.onEvent e)
  onBind : ∀ d, code (c.onBind d)

structure HostCode.Obeys (code : Program σ → Prop) (c : HostCode σ) : Prop where
  publish : ∀ e, code (c.publish e)
  isolated : ∀ e, code (c.isolated e)

/-- All code that a world holds is of the given kind. -/
structure World.Obeys (code : Program σ → Prop) (w : World σ) : Prop where
  listener : ∀ l, (w.listenerCode.get l).Obeys code
  callback : ∀ callback, code (w.callbackCode.get callback)
  handler : ∀ n l e fault, code (w.handlerCode.get n l e fault)
  host : ∀ c, (w.hostCode.get c).Obeys code
  defaults : ∀ d ∈ w.defaults, d.code.Obeys code

/-- All code that a move brings into the world is of the given kind. -/
def Move.Carries (code : Program σ → Prop) : Move σ → Prop
  | .makeListener _ c => c.Obeys code
  | .makeHandler c => ∀ l e fault, code (c l e fault)
  | .host _ c => c.Obeys code
  | .onRefresh _ p | .onClose _ p => code p
  | _ => True

theorem World.Obeys.apply {code : Program σ → Prop} {w : World σ} (h : w.Obeys code)
    {move : Move σ} (carries : move.Carries code) : (move.apply w).Obeys code := by
  obtain ⟨listener, callback, handler, host, defaults⟩ := h
  cases move with
  | makeListener l c =>
    refine ⟨fun k => ?_, callback, handler, host, defaults⟩
    simp only [Move.apply, Table.get_set]
    split
    · exact carries
    · exact listener k
  | makeHandler c =>
    refine ⟨listener, callback, fun n l e fault => ?_, host, defaults⟩
    simp only [Move.apply, Table.get_set]
    split
    · exact carries l e fault
    · exact handler n l e fault
  | host c code =>
    refine ⟨listener, callback, handler, fun d => ?_, defaults⟩
    simp only [Move.apply, Table.get_set]
    split
    · exact carries
    · exact host d
  | onRefresh c p | onClose c p =>
    refine ⟨listener, fun k => ?_, handler, host, defaults⟩
    simp only [Move.apply, Table.get_set]
    split
    · exact carries
    · exact callback k
  | _ => exact ⟨listener, callback, handler, host, defaults⟩

/-! ## Disciplines -/

/-- The moves that every discipline allows. -/
def Move.IsCommon : Move σ → Prop
  | .bind .. | .deliver .. | .setPolicy .. | .register .. | .clear _ | .enter .. => False
  | _ => True

/-- Announcing a phase needs these moves. -/
structure AllowsAnnouncing (allowed : Move σ → Prop) (p : Phase) : Prop where
  enter : ∀ a, allowed (.enter a p)
  deliver : ∀ l e, e.phase = p → allowed (.deliver l e)
  bind : p = .contextLoaded → ∀ l c, allowed (.bind l c)

/-- Reporting a failure through the early channel of an announcer needs these moves. -/
structure AllowsReporting (allowed : Move σ → Prop) (e : Event) : Prop where
  deliver : ∀ l, allowed (.deliver l e)
  register : ∀ a l, allowed (.register (.early a) l)
  setPolicy : ∀ a, allowed (.setPolicy (.early a) .logging)

/-- What the first operation of a program needs, and that the program goes on with code of the given
kind. -/
def Program.Admitted (code : Program σ → Prop) (allowed : Move σ → Prop) : Program σ → Prop
  | .finish _ | .panic _ => True
  | .observe next => ∀ s memory, code (next s memory)
  | .remember _ next | .note _ next | .retain _ next | .addSource _ _ next
  | .setProfiles _ _ next | .addListener _ _ next | .close _ next => code next
  | .newEnvironment _ next => ∀ e, code (next e)
  | .newOutput next => ∀ o, code (next o)
  | .newListener _ onEvent onBind next =>
    (∀ e, code (onEvent e)) ∧ (∀ c, code (onBind c)) ∧ ∀ l, code (next l)
  | .loadListeners next => ∀ ls, code (next ls)
  | .invoke l e next => allowed (.deliver l e) ∧ ∀ r, code (next r)
  | .newChannel next => ∀ n, code (next (.free n))
  | .register ch l next => allowed (.register ch l) ∧ code next
  | .removeListeners ch next => allowed (.clear ch) ∧ code next
  | .setHandler ch handler next =>
    (∀ l e fault, code (handler l e fault)) ∧ (∀ n, allowed (.setPolicy ch (.handler n))) ∧ code next
  | .logFailures ch next => allowed (.setPolicy ch .logging) ∧ code next
  | .removeHandler ch next => allowed (.setPolicy ch .failFast) ∧ code next
  | .multicast _ e next | .publish _ e next | .publishIsolated _ e next =>
    (∀ l, allowed (.deliver l e)) ∧ ∀ r, code (next r)
  | .newContext _ _ next | .newNumberedContext _ next => ∀ c, code (next c)
  | .newHostedContext _ _ _ onPublish onIsolated next =>
    (∀ e, code (onPublish e)) ∧ (∀ e, code (onIsolated e)) ∧ ∀ c, code (next c)
  | .onRefresh _ p next | .onClose _ p next => code p ∧ code next
  | .refresh _ next => ∀ r, code (next r)
  | .newAnnouncer _ _ next => ∀ a, code (next a)
  | .announce _ what next => AllowsAnnouncing allowed what.phase ∧ ∀ r, code (next r)
  | .announceFailure _ _ _ next =>
    (∀ a, allowed (.enter a .failed)) ∧ (∀ e, e.phase = .failed → AllowsReporting allowed e) ∧ code next
  | .reportFailure ch _ e next =>
    (∀ l, allowed (.deliver l e)) ∧ (∀ l, allowed (.register ch l)) ∧ allowed (.setPolicy ch .logging) ∧
      code next

/-- Code of a kind, and the moves that it keeps to. -/
structure Discipline (σ : Type) where
  code : Program σ → Prop
  allowed : Move σ → Prop
  carries : ∀ move, allowed move → move.Carries code
  common : ∀ move : Move σ, move.IsCommon → move.Carries code → allowed move
  admitted : ∀ p, code p → p.Admitted code allowed

/-- Every move and all code. -/
def Discipline.free : Discipline σ where
  code _ := True
  allowed _ := True
  carries move _ := by cases move <;> simp [Move.Carries] <;> constructor <;> simp
  common _ _ _ := trivial
  admitted p _ := by
    cases p <;> simp only [Program.Admitted, implies_true, and_self, and_true, true_and]
    · exact ⟨by simp, by simp, by simp⟩
    · exact fun _ _ => ⟨by simp, by simp, by simp⟩

theorem allowsAnnouncing_free (p : Phase) :
    AllowsAnnouncing (Discipline.free (σ := σ)).allowed p where
  enter _ := trivial
  deliver _ _ _ := trivial
  bind _ _ _ := trivial

theorem allowsReporting_free (e : Event) : AllowsReporting (Discipline.free (σ := σ)).allowed e where
  deliver _ := trivial
  register _ _ := trivial
  setPolicy _ := trivial

theorem Discipline.obeys_free (w : World σ) : w.Obeys Discipline.free.code where
  listener _ := ⟨fun _ => trivial, fun _ => trivial⟩
  callback _ := trivial
  handler _ _ _ _ := trivial
  host _ := ⟨fun _ => trivial, fun _ => trivial⟩
  defaults _ _ := ⟨fun _ => trivial, fun _ => trivial⟩

theorem Path.obeys {D : Discipline σ} {first : Nat} {w w' : World σ}
    (h : Path D.allowed first w w') (hw : w.Obeys D.code) : w'.Obeys D.code :=
  h.invariant (fun move _ _ ok _ hm => hm.apply (D.carries move ok)) hw

/-! ## Actions that keep a discipline -/

/-- In a world that holds allowed code only, the action takes a path of allowed moves. -/
def Discipline.Keeps {α : Type} (D : Discipline σ) (act : Action σ α) : Prop :=
  ∀ w : World σ, w.Obeys D.code → Path D.allowed w.store.fresh w (act w).2

@[simp] theorem Action.pure_apply {α : Type} (a : α) (w : World σ) :
    (pure a : Action σ α) w = (.ok a, w) := rfl

theorem Action.get_apply (w : World σ) : (get : Action σ (World σ)) w = (.ok w, w) := rfl

theorem Action.bind_apply {α β : Type} (act : Action σ α) (next : α → Action σ β) (w : World σ) :
    (act >>= next) w =
      match act w with
      | (.ok a, m) => next a m
      | (.error stop, m) => (.error stop, m) := by
  show ((ExceptT.bind act next : Action σ β) w) = _
  unfold ExceptT.bind ExceptT.mk
  show (ExceptT.bindCont next (act w).1) (act w).2 = _
  rcases act w with ⟨_ | _, m⟩ <;> rfl

theorem Action.getStore_bind_apply {β : Type} (next : Store → Action σ β) (w : World σ) :
    (getStore >>= next) w = next w.store w :=
  rfl

/-- What ends well has first steps that end well. -/
theorem Action.bind_ok {α β : Type} {act : Action σ α} {next : α → Action σ β} {w w' : World σ} {b : β}
    (h : (act >>= next) w = (.ok b, w')) : ∃ a m, act w = (.ok a, m) ∧ next a m = (.ok b, w') := by
  rw [Action.bind_apply] at h
  rcases hact : act w with ⟨stop | a, m⟩ <;> rw [hact] at h
  · cases h
  · exact ⟨a, m, rfl, h⟩

/-- What ends well is what goes on well behind first steps that end well. -/
theorem Action.bind_eq_ok {α β : Type} {act : Action σ α} {next : α → Action σ β} {w w' : World σ}
    {b : β} :
    (act >>= next) w = (.ok b, w') ↔ ∃ a m, act w = (.ok a, m) ∧ next a m = (.ok b, w') := by
  constructor
  · exact Action.bind_ok
  · rintro ⟨a, m, hact, hnext⟩
    rw [Action.bind_apply, hact]
    exact hnext

theorem Action.pure_eq_ok {α : Type} {a b : α} {w w' : World σ} :
    (pure a : Action σ α) w = (.ok b, w') ↔ b = a ∧ w' = w := by
  rw [Action.pure_apply, Prod.mk.injEq, Except.ok.injEq, eq_comm, eq_comm (a := w)]

/-- What is true of every result that an item can give is true of all that were given. -/
theorem Action.of_mem_mapM {α β : Type} {act : α → Action σ β} {P : β → Prop} :
    ∀ {xs : List α} {ys : List β} {w w' : World σ},
      (∀ x ∈ xs, ∀ m y m', act x m = (.ok y, m') → P y) → xs.mapM act w = (.ok ys, w') → ∀ y ∈ ys, P y
  | [], ys, w, w', _, h => by
    rw [List.mapM_nil] at h
    obtain ⟨rfl, -⟩ := Action.pure_eq_ok.1 h
    simp
  | x :: xs, ys, w, w', each, h => by
    rw [List.mapM_cons] at h
    obtain ⟨y, m, hfirst, h⟩ := Action.bind_eq_ok.1 h
    obtain ⟨rest, m', hrest, h⟩ := Action.bind_eq_ok.1 h
    obtain ⟨rfl, -⟩ := Action.pure_eq_ok.1 h
    refine List.forall_mem_cons.2 ⟨each x (List.mem_cons_self ..) w y m hfirst, ?_⟩
    exact of_mem_mapM (fun x hx => each x (List.mem_cons_of_mem _ hx)) hrest

/-- Catching a panic changes nothing in the world. -/
theorem Action.catching_snd (act : Action σ (Except Fault Unit)) (w : World σ) :
    (catching act w).2 = (act w).2 := by
  unfold catching
  rcases act w with ⟨(_ | _) | _, m⟩ <;> rfl

namespace Discipline

variable {D : Discipline σ} {α β : Type}

theorem keeps_pure (a : α) : D.Keeps (pure a) := fun w _ => .refl w

theorem keeps_throw (stop : Stop) : D.Keeps (throw stop : Action σ α) := fun w _ => .refl w

/-- What goes on needs to keep the discipline only with what it is given. -/
theorem keeps_bind_of {P : α → Prop} {act : Action σ α} {next : α → Action σ β} (h : D.Keeps act)
    (gives : ∀ w a m, act w = (.ok a, m) → P a) (hnext : ∀ a, P a → D.Keeps (next a)) :
    D.Keeps (act >>= next) := by
  intro w hw
  have path := h w hw
  rw [Action.bind_apply]
  rcases hact : act w with ⟨_ | a, m⟩ <;> rw [hact] at path
  · exact path
  · exact path.trans
      ((hnext a (gives w a m hact) m (path.obeys hw)).weaken (fun _ h => h) path.fresh_le)

theorem keeps_bind {act : Action σ α} {next : α → Action σ β} (h : D.Keeps act)
    (hnext : ∀ a, D.Keeps (next a)) : D.Keeps (act >>= next) :=
  keeps_bind_of (P := fun _ => True) h (fun _ _ _ _ => trivial) fun a _ => hnext a

theorem keeps_getStore_bind {next : Store → Action σ β} (h : ∀ s, D.Keeps (next s)) :
    D.Keeps (getStore >>= next) :=
  fun w hw => h w.store w hw

theorem keeps_get_bind {next : World σ → Action σ β}
    (h : ∀ w : World σ, w.Obeys D.code → D.Keeps (next w)) :
    D.Keeps ((get : Action σ (World σ)) >>= next) :=
  fun w hw => h w hw w hw

/-- An action that is one move. -/
theorem keeps_move {act : Action σ α} (h : ∀ w : World σ, ∃ (move : Move σ) (r : _),
    act w = (r, move.apply w) ∧ move.Enabled w.store ∧ D.allowed move ∧ move.turn? = none) :
    D.Keeps act := by
  intro w _
  obtain ⟨move, r, heq, enabled, ok, hturn⟩ := h w
  rw [heq]
  exact .single enabled ok (by simp [hturn])

/-- An action that goes on after one move. -/
theorem keeps_move_then {act : Action σ α} (h : ∀ w : World σ, ∃ (move : Move σ) (next : Action σ α),
    act w = next (move.apply w) ∧ move.Enabled w.store ∧ D.allowed move ∧ move.turn? = none ∧
      D.Keeps next) :
    D.Keeps act := by
  intro w hw
  obtain ⟨move, next, heq, enabled, ok, hturn, keeps⟩ := h w
  rw [heq]
  have path : Path D.allowed w.store.fresh w (move.apply w) := .single enabled ok (by simp [hturn])
  exact path.trans ((keeps _ (path.obeys hw)).weaken (fun _ h => h) path.fresh_le)

theorem keeps_mapM {act : α → Action σ β} (xs : List α) (h : ∀ a ∈ xs, D.Keeps (act a)) :
    D.Keeps (xs.mapM act) := by
  induction xs with
  | nil => exact keeps_pure []
  | cons a rest ih =>
    rw [List.mapM_cons]
    refine keeps_bind (h a (List.mem_cons_self ..)) fun b => ?_
    exact keeps_bind (ih fun x hx => h x (List.mem_cons_of_mem _ hx)) fun bs => keeps_pure _

end Discipline

end Startup
