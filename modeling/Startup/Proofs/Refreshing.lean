/-
Refreshing a context. A refresh goes through the callbacks that the context has, up to the first that
fails. Afterwards the context has these again, and behind them what was registered meanwhile, but for
what a refresh within took that was stopped for good. A refresh that fails leaves the context as it
was, unless one within it has ended well and the context has not been closed since.
-/
import Startup.Proofs.Callbacks
import Startup.Proofs.Closing
import Startup.Proofs.Quiet

namespace Startup

variable {σ : Type}

/-! ## One refresh -/

/-- The world in which a refresh of a context has begun. -/
def World.refreshing (w : World σ) (c : ContextId) : World σ :=
  (Move.beginRefresh c).apply ((Move.record (.logged .info
    ("Refreshing application context '" ++ (w.store.context c).name ++ "'"))).apply w)

/-- A refresh of a context went through these callbacks up to the first that failed, and ended. -/
def Refreshes (call : Caller σ) (c : ContextId) (callbacks : List CallbackId) (w : World σ)
    (legs : List (Leg σ CallbackId (Except Fault Unit))) (r : Except StartupError Unit)
    (w' : World σ) : Prop :=
  ∃ result m, Gone (Calls call w.store.fresh c) callbacks (w.refreshing c) legs result m ∧
    r = result.mapError .other ∧ w' = (Move.endRefresh w.store.fresh c callbacks result).apply m

section Refresh

variable {call : Caller σ} {c : ContextId} {w w' : World σ} {r : Except StartupError Unit}

theorem refresh_iff (own : (w.store.context c).hosted = none)
    (created : (w.store.context c).state = .created) :
    refresh call c w = (.ok r, w') ↔
      ∃ legs, Refreshes call c (w.store.context c).callbacks w legs r w' := by
  rw [refresh_created own created, Action.bind_eq_ok]
  constructor
  · rintro ⟨result, m, hrun, hend⟩
    obtain ⟨legs, gone⟩ := runCallbacks_iff.1 hrun
    rw [endRefresh_apply] at hend
    obtain ⟨hr, rfl⟩ := Prod.mk.inj hend
    exact ⟨legs, result, m, gone, (Except.ok.inj hr).symm, rfl⟩
  · rintro ⟨legs, result, m, gone, rfl, rfl⟩
    exact ⟨result, m, runCallbacks_iff.2 ⟨legs, gone⟩, endRefresh_apply ..⟩

/-- The entry that a refresh ends with. -/
def Entry.endOf (turn : Nat) (c : ContextId) : Except StartupError Unit → Entry
  | .ok _ => .refreshed turn c
  | .error _ => .refreshFailed turn c

theorem entries_endRefresh (turn : Nat) (c : ContextId) (callbacks : List CallbackId)
    (result : Except Fault Unit) (s : Store) :
    (Move.endRefresh (σ := σ) turn c callbacks result).entries s =
      [.endOf turn c (result.mapError .other)] := by
  cases result <;> rfl

theorem ended_endOf (turn : Nat) (c : ContextId) (r : Except StartupError Unit) :
    (Entry.endOf turn c r).ended? c = some turn := by
  cases r <;> exact if_pos rfl

/-- What a refresh adds to the history: its calls and what these bring about, and then its end. -/
theorem Refreshes.history (hcall : ∀ p, Discipline.free.code p → Discipline.free.Keeps (call p))
    {legs : List (Leg σ CallbackId (Except Fault Unit))}
    (h : Refreshes call c (w.store.context c).callbacks w legs r w') :
    ∃ added, w'.store.history = w.store.history ++ ([.logged .info
        ("Refreshing application context '" ++ (w.store.context c).name ++ "'")] ++
        .refreshing w.store.fresh c (w.store.context c).callbacks :: added ++
        [.endOf w.store.fresh c r]) ∧
      calledIn w.store.fresh added = legs.map (·.what) ∧ ∀ t ∈ endedIn c added, w.store.fresh < t := by
  obtain ⟨result, m, gone, rfl, rfl⟩ := h
  have lt : w.store.fresh < (w.refreshing c).store.fresh := Nat.lt_succ_self w.store.fresh
  obtain ⟨added, hadded, hcalled, nested⟩ :=
    Discipline.calls_course hcall (Discipline.obeys_free _) lt gone.course
  refine ⟨added, ?_, hcalled, nested c⟩
  have begun : (w.refreshing c).store.history = w.store.history ++ [.logged .info
      ("Refreshing application context '" ++ (w.store.context c).name ++ "'")] ++
      [.refreshing w.store.fresh c (w.store.context c).callbacks] := by
    simp only [World.refreshing, Move.apply_store, Move.history_applyStore]
    rfl
  rw [Move.apply_store, Move.history_applyStore, entries_endRefresh, hadded, begun]
  simp

/-- What a refresh that returns leaves behind. -/
theorem refresh_returned {depth : Nat} (arises : w.Arises) (made : c.number < w.store.fresh)
    (own : (w.store.context c).hosted = none) (created : (w.store.context c).state = .created)
    (returned : refresh (Program.execute depth) c w = (.ok r, w')) :
    Path Discipline.free.allowed w.store.fresh w w' ∧ ∃ legs added,
      Refreshes (Program.execute depth) c (w.store.context c).callbacks w legs r w' ∧
      calledIn w.store.fresh added = legs.map (·.what) ∧
      (∀ t ∈ endedIn c added, w.store.fresh < t) ∧
      ∃ entries, w'.store.history = w.store.history ++ entries ∧
        entries = [.logged .info
            ("Refreshing application context '" ++ (w.store.context c).name ++ "'")] ++
          .refreshing w.store.fresh c (w.store.context c).callbacks :: added ++
          [.endOf w.store.fresh c r] ∧
        CallbacksOf c (w.store.context c).callbacks entries w'.store := by
  obtain ⟨legs, refreshes⟩ := (refresh_iff own created).1 returned
  obtain ⟨added, history, called, nested⟩ := refreshes.history (Discipline.execute_free depth)
  have path := Discipline.keeps_refresh (Discipline.execute_free depth) c w (Discipline.obeys_free w)
  rw [returned] at path
  exact ⟨path, legs, added, refreshes, called, nested, _, history, rfl,
    path.callbacksOf (Nat.le_refl _) arises.turns made history⟩

end Refresh

/-! ## The callbacks afterwards -/

/-- A refresh that returns went through the callbacks of its context up to the first that failed, and
called nothing else. Afterwards the context has these callbacks and behind them what was registered
meanwhile, in this order, without what a refresh within took that was stopped before it ended; so it
has all of it exactly if there is no such callback. A later refresh begins with what is there then. -/
theorem refresh_keeps_callbacks {depth : Nat} {c : ContextId} {w w' : World σ}
    {r : Except StartupError Unit} (arises : w.Arises) (made : c.number < w.store.fresh)
    (own : (w.store.context c).hosted = none) (created : (w.store.context c).state = .created)
    (returned : refresh (Program.execute depth) c w = (.ok r, w')) :
    ∃ legs since,
      Refreshes (Program.execute depth) c (w.store.context c).callbacks w legs r w' ∧
      w'.store.history = w.store.history ++ .logged .info
          ("Refreshing application context '" ++ (w.store.context c).name ++ "'") ::
        .refreshing w.store.fresh c (w.store.context c).callbacks :: since ∧
      calledIn w.store.fresh since = legs.map (·.what) ∧
      (registeredIn c since).Nodup ∧
      (∀ k ∈ registeredIn c since, k ∉ (w.store.context c).callbacks) ∧
      (w'.store.context c).callbacks =
        (w.store.context c).callbacks ++ (registeredIn c since).filter (· ∉ heldIn c since) ∧
      ((w'.store.context c).callbacks = (w.store.context c).callbacks ++ registeredIn c since ↔
        ∀ k ∈ registeredIn c since, k ∉ heldIn c since) ∧
      ∀ depth' v v' s more, Path Discipline.free.allowed w'.store.fresh w' v →
        v.store.history = w'.store.history ++ more → (v.store.context c).state = .created →
        refresh (Program.execute depth') c v = (.ok s, v') →
        ∃ legs', Refreshes (Program.execute depth') c
          (callbacksAfter c (w'.store.context c).callbacks more) v legs' s v' := by
  obtain ⟨path, legs, added, refreshes, called, nested, _, history, rfl, of⟩ :=
    refresh_returned arises made own created returned
  generalize "Refreshing application context '" ++ (w.store.context c).name ++ "'" = text at history of ⊢
  have takes := of.takes.of_append
  have new : ∀ k ∈ registeredIn c (added ++ [.endOf w.store.fresh c r]),
      k ∉ (w.store.context c).callbacks ++ registeredIn c [.logged .info text] :=
    of.new (List.append_assoc ..)
  have ended := ended_endOf w.store.fresh c r
  -- the end of the refresh itself is among what happened, and it changes nothing of the rest
  have kept : (w'.store.context c).callbacks = (w.store.context c).callbacks ++
      (registeredIn c (added ++ [.endOf w.store.fresh c r])).filter
        (· ∉ heldIn c (added ++ [.endOf w.store.fresh c r])) := by
    have early := fun k hk => new k (by rw [registeredIn_append]; exact List.mem_append_left _ hk)
    rw [of.now, takes.callbacksAfter_ended nested early ended,
      ← takes.callbacksAfter_nested ended]
    rfl
  refine ⟨legs, added ++ [Entry.endOf w.store.fresh c r], refreshes, ?_, ?_, ?_, ?_, kept, ?_, ?_⟩
  · rw [history]
    simp
  · rw [calledIn_append, called]
    cases r <;> simp [calledIn, Entry.endOf, Entry.calledIn?]
  · have distinct : (registeredIn c ([.logged .info text] ++
        .refreshing w.store.fresh c (w.store.context c).callbacks ::
          (added ++ [.endOf w.store.fresh c r]))).Nodup := by simpa using of.distinct
    rw [registeredIn_refreshing] at distinct
    exact (List.nodup_append.1 distinct).2.1
  · exact fun k hk hmem => new k hk (List.mem_append_left _ hmem)
  · rw [kept, List.append_right_inj, List.filter_eq_self]
    simp
  · -- what becomes of the callbacks afterwards is the invariant again, from here on
    intro depth' v v' s more later hmore created' returned'
    have made' : c.number < w'.store.fresh := Nat.lt_of_lt_of_le made path.fresh_le
    have own' : (v.store.context c).hosted = none := by
      rw [later.hosted made', path.hosted made, own]
    have of' := later.callbacksOf (Nat.le_refl _) (arises.onward path).turns made' hmore
    rw [← of'.now]
    exact (refresh_iff own' created').1 returned'

/-- What happened since a refresh began is all of the history behind its first two entries. -/
theorem since_unique {h since since' : List Entry} {text text' start start' : Entry}
    (heq : h ++ text :: start :: since = h ++ text' :: start' :: since') : since = since' := by
  obtain ⟨-, rest⟩ := List.cons.inj (List.append_cancel_left heq)
  exact (List.cons.inj rest).2

/-- A context with a callback that registers another one, refreshes the context and then fails. -/
def refreshedWithin : World Unit :=
  (Program.execute 1 (
    .newContext "" ⟨0⟩ fun c =>
    .onRefresh c (.onRefresh c .done <| .refresh c fun _ => .finish (.error (.text ""))) .done)
    { memory := () }).2

theorem refreshedWithin_arises : refreshedWithin.Arises :=
  (Reaches.program .start 1 _).arises rfl

/-- The refresh within ends well, and the one around it fails. -/
theorem refreshedWithin_refresh : ∃ e w',
    refresh (Program.execute 3) ⟨0⟩ refreshedWithin = (.ok (.error e), w') ∧
      w'.store.history = refreshedWithin.store.history ++
        [.logged .info "Refreshing application context ''", .refreshing 2 ⟨0⟩ [⟨1⟩], .called 2 ⟨0⟩ ⟨1⟩,
          .registered ⟨0⟩ ⟨3⟩, .logged .info "Refreshing application context ''",
          .refreshing 4 ⟨0⟩ [⟨3⟩], .called 4 ⟨0⟩ ⟨3⟩, .refreshed 4 ⟨0⟩, .refreshFailed 2 ⟨0⟩] :=
  ⟨_, _, rfl, rfl⟩

theorem refresh_keeps_callbacks_within : ∃ legs since w' e,
    Refreshes (Program.execute 3) ⟨0⟩ [⟨1⟩] refreshedWithin legs (.error e) w' ∧
      legs.map (·.what) = [⟨1⟩] ∧ registeredIn ⟨0⟩ since = [⟨3⟩] ∧
      (w'.store.context ⟨0⟩).callbacks = [⟨1⟩] ++ registeredIn ⟨0⟩ since := by
  obtain ⟨e, w', returned, history⟩ := refreshedWithin_refresh
  obtain ⟨legs, since, refreshes, history', called, -, -, kept, all, -⟩ :=
    refresh_keeps_callbacks refreshedWithin_arises (by decide) rfl rfl returned
  obtain rfl := since_unique (history'.symm.trans history)
  exact ⟨legs, _, w', e, refreshes, called.symm, rfl, all.2 (by decide)⟩

/-- A context with a callback that registers another one, which panics, and tells a listener, which
refreshes the context. -/
def stoppedWithin : World Unit :=
  (Program.execute 1 (
    .newContext "" ⟨0⟩ fun c =>
    .newListener {} (fun _ => .refresh c fun _ => .done) (fun _ => .done) fun l =>
    .newChannel fun ch =>
    .register ch l <|
    .onRefresh c (.onRefresh c (.panic .other) <|
      .multicast ch (.starting { name := "" } []) fun _ => .done) .done) { memory := () }).2

/-- The delivery catches the panic, and the callback that the refresh within took is lost. -/
theorem refresh_loses_callback : ∃ since w',
    refresh (Program.execute 4) ⟨0⟩ stoppedWithin = (.ok (.ok ()), w') ∧
      (stoppedWithin.store.context ⟨0⟩).state = .created ∧
      w'.store.history = stoppedWithin.store.history ++ since ∧ registeredIn ⟨0⟩ since = [⟨5⟩] ∧
      (stoppedWithin.store.context ⟨0⟩).callbacks = [⟨3⟩] ∧ (w'.store.context ⟨0⟩).callbacks = [⟨3⟩] := by
  refine ⟨[.logged .info "Refreshing application context ''", .refreshing 4 ⟨0⟩ [⟨3⟩],
    .called 4 ⟨0⟩ ⟨3⟩, .registered ⟨0⟩ ⟨5⟩, .delivered ⟨1⟩ (.starting { name := "" } []),
    .logged .info "Refreshing application context ''", .refreshing 6 ⟨0⟩ [⟨5⟩],
    .called 6 ⟨0⟩ ⟨5⟩, .logged .error ("Listener 'AnonymousListener' failed while handling " ++
      "STARTING event: Listener panicked: unknown panic payload"), .refreshed 4 ⟨0⟩],
    _, rfl, rfl, rfl, rfl, rfl, rfl⟩

/-! ## Refreshes that fail -/

/-- In the meantime a refresh of a context began and ended well, and the context has not been closed
since. -/
def Revived (c : ContextId) (since : List Entry) : Prop :=
  ∃ before turn taken between after,
    since = before ++ .refreshing turn c taken :: between ++ .refreshed turn c :: after ∧
      ∀ n hooks, .closing n c hooks ∉ after

/-- A refresh that fails leaves its context active exactly if another one within it has ended well and
the context has not been closed since. -/
theorem failed_refresh_active_iff {depth : Nat} {c : ContextId} {w w' : World σ} {e : StartupError}
    (arises : w.Arises) (made : c.number < w.store.fresh)
    (own : (w.store.context c).hosted = none) (created : (w.store.context c).state = .created)
    (failed : refresh (Program.execute depth) c w = (.ok (.error e), w')) :
    ∃ since,
      w'.store.history = w.store.history ++ .logged .info
          ("Refreshing application context '" ++ (w.store.context c).name ++ "'") ::
        .refreshing w.store.fresh c (w.store.context c).callbacks :: since ∧
      ((w'.store.context c).state = .active ↔ Revived c since) := by
  obtain ⟨path, legs, added, -, -, nested, _, history, rfl, of⟩ :=
    refresh_returned arises made own created failed
  generalize "Refreshing application context '" ++ (w.store.context c).name ++ "'" = text at history of ⊢
  have start : (w.store.context c).state = stateAfter c [] := created
  have state : (w'.store.context c).state = stateAfter c (added ++ [.refreshFailed w.store.fresh c]) :=
    (path.stateAfter made start history).trans rfl
  refine ⟨added ++ [.refreshFailed w.store.fresh c], by rw [history]; simp [Entry.endOf], ?_⟩
  rw [state, stateAfter_active_iff]
  constructor
  · rintro ⟨before, turn, after, heq, unclosed⟩
    -- what has ended well has begun, and within
    have began : ∃ taken, .refreshing turn c taken ∈
        .logged .info text :: .refreshing w.store.fresh c (w.store.context c).callbacks :: before := by
      refine of.began _ (.refreshed turn c) after turn ?_ (if_pos rfl)
      simp [Entry.endOf, heq]
    obtain ⟨taken, hmem⟩ := began
    have within : .refreshing turn c taken ∈ before := by
      rcases List.mem_cons.1 hmem with hlog | hmem
      · cases hlog
      rcases List.mem_cons.1 hmem with hself | hmem
      · -- the refresh itself has failed
        obtain rfl : turn = w.store.fresh := by injection hself
        have hended : .refreshed w.store.fresh c ∈ added := by
          have : Entry.refreshed w.store.fresh c ∈ added ++ [.refreshFailed w.store.fresh c] := by
            simp [heq]
          simpa using this
        have later := nested w.store.fresh (List.mem_filterMap.2 ⟨_, hended, if_pos rfl⟩)
        exact absurd later (Nat.lt_irrefl _)
      · exact hmem
    obtain ⟨first, between, rfl⟩ := List.append_of_mem within
    exact ⟨first, turn, taken, between, after, heq, unclosed⟩
  · rintro ⟨before, turn, taken, between, after, heq, unclosed⟩
    exact ⟨before ++ .refreshing turn c taken :: between, turn, after, heq, unclosed⟩

/-- A context with a callback that refreshes the context, closes it and then fails. -/
def closedWithin : World Unit :=
  (Program.execute 1 (
    .newContext "" ⟨0⟩ fun c =>
    .onRefresh c (.refresh c fun _ => .close c <| .finish (.error (.text ""))) .done)
    { memory := () }).2

/-- What the refresh within has made active stays so where the callback only fails, and not where it
closes the context before. -/
theorem failed_refresh_active_iff_within :
    (∃ e w', refresh (Program.execute 3) ⟨0⟩ refreshedWithin = (.ok (.error e), w') ∧
      (w'.store.context ⟨0⟩).state = .active) ∧
    ∃ e w', refresh (Program.execute 3) ⟨0⟩ closedWithin = (.ok (.error e), w') ∧
      (w'.store.context ⟨0⟩).state ≠ .active := by
  constructor
  · obtain ⟨e, w', failed, history⟩ := refreshedWithin_refresh
    obtain ⟨since, history', active⟩ :=
      failed_refresh_active_iff refreshedWithin_arises (by decide) rfl rfl failed
    obtain rfl := since_unique (history'.symm.trans history)
    exact ⟨e, w', failed, active.2 ⟨[.called 2 ⟨0⟩ ⟨1⟩, .registered ⟨0⟩ ⟨3⟩,
      .logged .info "Refreshing application context ''"], 4, [⟨3⟩], [.called 4 ⟨0⟩ ⟨3⟩],
      [.refreshFailed 2 ⟨0⟩], rfl, by simp⟩⟩
  · let revived : List Entry := [.called 2 ⟨0⟩ ⟨1⟩, .logged .info "Refreshing application context ''",
      .refreshing 3 ⟨0⟩ [], .refreshed 3 ⟨0⟩]
    let closed : List Entry := [.closing 4 ⟨0⟩ [], .logged .info "Closing application context ''",
      .refreshFailed 2 ⟨0⟩]
    obtain ⟨e, w', failed, history⟩ : ∃ e w',
        refresh (Program.execute 3) ⟨0⟩ closedWithin = (.ok (.error e), w') ∧
        w'.store.history = closedWithin.store.history ++
          .logged .info "Refreshing application context ''" :: .refreshing 2 ⟨0⟩ [⟨1⟩] ::
            (revived ++ closed) :=
      ⟨_, _, rfl, rfl⟩
    have arises : closedWithin.Arises := (Reaches.program .start 1 _).arises rfl
    obtain ⟨since, history', active⟩ := failed_refresh_active_iff arises (by decide) rfl rfl failed
    obtain rfl := since_unique (history'.symm.trans history)
    refine ⟨e, w', failed, fun h => ?_⟩
    obtain ⟨before, turn, taken, between, after, heq, unclosed⟩ := active.1 h
    have hsplit : revived ++ closed =
        (before ++ .refreshing turn ⟨0⟩ taken :: between) ++ .refreshed turn ⟨0⟩ :: after := by
      rw [heq, List.append_assoc, List.cons_append]
    rcases history_split hsplit with ⟨old, -, rfl⟩ | ⟨left, -, hleft⟩
    · exact unclosed 4 [] (by simp [closed])
    · have hmem : Entry.refreshed turn ⟨0⟩ ∈ closed := by rw [hleft]; simp
      simp [closed] at hmem

/-- After a refresh that failed the context is active, as one within ended well. -/
theorem failed_refresh_active : ∃ e w',
    refresh (Program.execute 3) ⟨0⟩ refreshedWithin = (.ok (.error e), w') ∧
      (refreshedWithin.store.context ⟨0⟩).hosted = none ∧
      (refreshedWithin.store.context ⟨0⟩).state = .created ∧
      (w'.store.context ⟨0⟩).state = .active :=
  ⟨_, _, rfl, rfl, rfl, rfl⟩

end Startup
