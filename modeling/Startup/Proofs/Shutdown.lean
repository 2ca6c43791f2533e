/-
Closing a context. The context becomes closed, and then its hooks run one after the other, each once
and whether or not those before it failed; a failure is logged. While they run the context is not
refreshed, publishes nothing and is not closed again, and it is closed when they have run.
-/
import Startup.Proofs.ErrorExit
import Startup.Proofs.Handoff

namespace Startup

variable {σ : Type}

/-! ## Closed contexts -/

/-- A context is closed: it is not active, and to refresh it, to publish through it or to close it
again changes nothing. -/
structure World.Shut (w : World σ) (c : ContextId) : Prop where
  state : (w.store.context c).state = .closed
  inactive : (w.store.context c).isActive = false
  refresh : ∀ call : Caller σ, refresh call c w = (.ok (.error (.other (.text ("Context '" ++
    (w.store.context c).name ++ "' cannot be refreshed in state " ++ ContextState.closed.name)))), w)
  publish : ∀ (call : Caller σ) e, publish call c e w = (.ok (.error .contextUnavailable), w)
  close : ∀ call : Caller σ, close call c w = (.ok (), w)

theorem World.shut_of_closed {c : ContextId} {w : World σ} (own : (w.store.context c).hosted = none)
    (closed : (w.store.context c).state = .closed) : w.Shut c where
  state := closed
  inactive := by simp [Context.isActive, own, closed]
  refresh call := by
    rw [refresh_refused own (by simp [closed]), closed]
  publish call e := publish_closed own closed
  close call := close_idle (.inr closed)

/-- While no refresh or closing from before goes on, a closed context begins none and calls nothing. -/
theorem Path.calls_nothing {allowed : Move σ → Prop} {first : Nat} {w w' : World σ}
    (h : Path allowed first w w') (le : w.store.fresh ≤ first) (turns : w.store.Turns) {c : ContextId}
    (made : c.number < w.store.fresh) (closed : (w.store.context c).state = .closed)
    {added : List Entry} (history : w'.store.history = w.store.history ++ added) :
    callsOf c added = [] ∧ ∀ e ∈ added, ∀ t ∈ e.turn?, t.context ≠ c := by
  induction h generalizing added with
  | refl =>
    obtain rfl : added = [] := List.self_eq_append_right.1 history
    exact ⟨rfl, by simp⟩
  | @snoc m move path enabled _ since ih =>
    obtain ⟨old, hold, -⟩ := path.history
    obtain ⟨nothing, unopened⟩ := ih hold
    rw [Move.apply_store, Move.history_applyStore, hold, List.append_assoc] at history
    rw [← List.append_cancel_left history]
    have early : ∀ e ∈ w.store.history, ∀ t ∈ e.turn?, t.number < first := fun e he t ht =>
      Nat.lt_of_lt_of_le (turns.numbered e he t ht).1 le
    have still : (m.store.context c).state = .closed :=
      path.stays_closed made closed fun turn callbacks hmem => early _ hmem ⟨turn, c, callbacks⟩ rfl
    -- a turn of the context begins only where it is not closed
    have begins : ∀ e ∈ move.entries m.store, ∀ t ∈ e.turn?, t.context ≠ c := by
      rintro e he t ht rfl
      obtain ⟨-, -, -, ⟨-, -, state⟩ | ⟨-, -, state⟩⟩ := turn_entries enabled he ht
      · rw [still] at state
        cases state
      · exact state still
    have calls : callsOf c (move.entries m.store) = [] := by
      refine List.filterMap_eq_nil_iff.2 fun e he => ?_
      cases e <;> try rfl
      rename_i n d k
      refine if_neg ?_
      rintro rfl
      -- the turn of the call would have begun before the path, or on it
      obtain ⟨rest, howes, -⟩ := called_entries enabled he
      have own : move.turn? = some n := by
        by_contra other
        have none := Move.calledIn_entries enabled other
        have hk : k ∈ calledIn n (move.entries m.store) :=
          List.mem_filterMap.2 ⟨_, he, if_pos rfl⟩
        rw [none] at hk
        cases hk
      obtain ⟨before, opening, after, heq, hopening⟩ := howes.turn
      have hmem : opening ∈ w.store.history ++ old := by rw [← hold, heq]; simp
      rcases List.mem_append.1 hmem with hmem | hmem
      · have lt := early opening hmem _ hopening
        exact Nat.lt_irrefl _ (Nat.lt_of_lt_of_le lt (since n own))
      · exact unopened opening hmem _ hopening rfl
    refine ⟨?_, fun e he => ?_⟩
    · rw [callsOf_append, nothing, calls, List.append_nil]
    · rcases List.mem_append.1 he with he | he
      · exact unopened e he
      · exact begins e he

/-! ## The hooks -/

/-- A failure of a hook is logged. -/
def World.afterHook (w : World σ) : Except Fault Unit → World σ
  | .ok () => w
  | .error fault =>
    (Move.record (.logged .error ("Shutdown hook failed: " ++ fault.chainMessage))).apply w

theorem World.afterHook_goes (w : World σ) (r : Except Fault Unit) (c : ContextId) :
    Path Discipline.free.allowed w.store.fresh w (w.afterHook r) ∧
      ∃ more, (w.afterHook r).store.history = w.store.history ++ more ∧ callsOf c more = [] := by
  rcases r with fault | _
  · let logged := Move.record (σ := σ) (.logged .error ("Shutdown hook failed: " ++ fault.chainMessage))
    have path : Path Discipline.free.allowed w.store.fresh w (logged.apply w) :=
      .single trivial trivial (by simp [logged, Move.turn?])
    exact ⟨path, logged.entries w.store, Move.history_applyStore .. , rfl⟩
  · exact ⟨.refl w, [], by simp [World.afterHook], rfl⟩

/-- A hook was called by a closing, and its failure was logged. -/
def RunsHook (call : Caller σ) (turn : Nat) (c : ContextId) (hook : CallbackId) (w : World σ)
    (r : Except Fault Unit) (w' : World σ) : Prop :=
  ∃ m, Calls call turn c hook w r m ∧ w' = m.afterHook r

/-- A hook of a closing did not return. -/
def StopsAt (call : Caller σ) (turn : Nat) (c : ContextId) (hook : CallbackId) (w : World σ)
    (stop : Stop) (w' : World σ) : Prop :=
  callBack call turn c hook w = (.error stop, w')

/-- Hooks run one after the other to the end, or to one that does not return. -/
theorem runHooks_goes {call : Caller σ} {turn : Nat} {c : ContextId} {w' : World σ}
    {r : Except Stop Unit} :
    ∀ {hooks : List CallbackId} {w : World σ}, runHooks call turn c hooks w = (r, w') →
      ∃ legs m, Course (RunsHook call turn c) w legs m ∧
        (r = .ok () ∧ legs.map (·.what) = hooks ∧ w' = m ∨
          ∃ hook rest stop, r = .error stop ∧ hooks = legs.map (·.what) ++ hook :: rest ∧
            StopsAt call turn c hook m stop w')
  | [], w, h => by
    obtain ⟨rfl, rfl⟩ := Prod.mk.inj h
    exact ⟨[], w, rfl, .inl ⟨rfl, rfl, rfl⟩⟩
  | hook :: rest, w, h => by
    unfold runHooks at h
    rw [Action.bind_apply] at h
    rcases hact : callBack call turn c hook w with ⟨stop | result, m⟩ <;> rw [hact] at h
    · obtain ⟨rfl, rfl⟩ := Prod.mk.inj h
      exact ⟨[], w, rfl, .inr ⟨hook, rest, stop, rfl, rfl, hact⟩⟩
    · have hrest : runHooks call turn c rest (m.afterHook result) = (r, w') := by
        rcases result with fault | _ <;> exact h
      obtain ⟨legs, n, course, outcome⟩ := runHooks_goes hrest
      refine ⟨⟨hook, w, result, m.afterHook result⟩ :: legs, n,
        ⟨rfl, ⟨m, hact, rfl⟩, course⟩, ?_⟩
      rcases outcome with ⟨hr, hwhat, hend⟩ | ⟨k, left, stop, hr, hwhat, hstop⟩
      · exact .inl ⟨hr, by simp [hwhat], hend⟩
      · exact .inr ⟨k, left, stop, hr, by simp [hwhat], hstop⟩

section Hooks

variable {call : Caller σ} (hcall : ∀ p, Discipline.free.code p → Discipline.free.Keeps (call p))
  {turn : Nat} {c : ContextId} {hook : CallbackId} {rest : List CallbackId} {w w' : World σ}

include hcall

/-- A hook of a closed context is the one callback that the context calls meanwhile. -/
theorem callBack_goes {r : Except Stop (Except Fault Unit)}
    (h : callBack call turn c hook w = (r, w')) (turns : w.store.Turns)
    (made : c.number < w.store.fresh) (closed : (w.store.context c).state = .closed)
    (lt : turn < w.store.fresh) (owes : w.store.Owes turn c (hook :: rest)) :
    Path Discipline.free.allowed turn w w' ∧ w'.store.Owes turn c rest ∧
      ∃ added, w'.store.history = w.store.history ++ added ∧ callsOf c added = [hook] := by
  obtain ⟨path, owed⟩ := Discipline.path_callBack hcall (Discipline.obeys_free w) owes lt
  rw [h] at path owed
  refine ⟨path, owed, ?_⟩
  let m := (Move.call turn c hook).apply w
  have after := hcall (m.callbackCode.get hook) trivial m (Discipline.obeys_free m)
  have heq : call (m.callbackCode.get hook) m = (r, w') := h
  rw [heq] at after
  obtain ⟨added, hadded, -⟩ := after.history
  have mturns : m.store.Turns := by
    have enabled : (Move.call (σ := σ) turn c hook).Enabled w.store := ⟨rest, owes⟩
    simpa [m] using turns.step enabled
  have mclosed : (m.store.context c).state = .closed := by
    rw [Move.apply_store, Move.context_applyStore]
    exact closed
  obtain ⟨nothing, -⟩ := after.calls_nothing (Nat.le_refl _) mturns made mclosed hadded
  refine ⟨[.called turn c hook] ++ added, ?_, ?_⟩
  · rw [hadded, Move.apply_store, Move.history_applyStore]
    simp [Move.entries]
  · rw [callsOf_append, nothing]
    simp [callsOf, Entry.callOf?]

/-- Hooks of a closing that ran one after the other are all that the context called meanwhile. -/
theorem hooks_course {b : World σ} {left : List CallbackId} (turns : b.store.Turns)
    (made : c.number < b.store.fresh) (closed : (b.store.context c).state = .closed)
    (past : ∀ t callbacks, .refreshing t c callbacks ∈ b.store.history → t < turn)
    (lt : turn < b.store.fresh) :
    ∀ {legs : List (Leg σ CallbackId (Except Fault Unit))} {w : World σ},
      Path Discipline.free.allowed turn b w →
      w.store.Owes turn c (legs.map (·.what) ++ left) → Course (RunsHook call turn c) w legs w' →
      Path Discipline.free.allowed turn b w' ∧ w'.store.Owes turn c left ∧
        (∀ leg ∈ legs, Path Discipline.free.allowed turn b leg.start ∧
          Path Discipline.free.allowed turn b leg.finish) ∧
        ∃ added, w'.store.history = w.store.history ++ added ∧ callsOf c added = legs.map (·.what)
  | [], w, path, owes, hcourse => by
    obtain rfl : w' = w := hcourse
    exact ⟨path, owes, by simp, [], by simp, rfl⟩
  | leg :: legs, w, path, owes, hcourse => by
    obtain ⟨rfl, ⟨m, hcalls, hfinish⟩, hrest⟩ := hcourse
    have le := path.fresh_le
    -- the context is still closed here, as no refresh from before the closing has ended since
    obtain ⟨called, owed, added, hadded, hcall'⟩ := callBack_goes hcall hcalls (path.turns turns)
      (Nat.lt_of_lt_of_le made le) (path.stays_closed made closed past) (Nat.lt_of_lt_of_le lt le) owes
    obtain ⟨log, more, hmore, hnone⟩ := m.afterHook_goes leg.result c
    rw [← hfinish] at log hmore
    have later : turn < m.store.fresh :=
      Nat.lt_of_lt_of_le lt (Nat.le_trans le called.fresh_le)
    have reached := (path.trans called).trans (log.weaken (fun _ h => h) (Nat.le_of_lt later))
    obtain ⟨whole, owed', between, adds, hadds, hcalled⟩ :=
      hooks_course turns made closed past lt reached (log.owes later owed) hrest
    refine ⟨whole, owed', ?_, added ++ more ++ adds, ?_, ?_⟩
    · intro l hl
      rcases List.mem_cons.1 hl with rfl | hl
      · exact ⟨path, reached⟩
      · exact between l hl
    · rw [hadds, hmore, hadded]
      simp
    · rw [callsOf_append, callsOf_append, hcall', hnone, hcalled]
      rfl

end Hooks

/-! ## Hooks that mind their context -/

/-- Code that looks around, keeps a memory and makes records, and refreshes, publishes through and
closes this context and no other. -/
def Program.Minds (c : ContextId) : Program σ → Prop
  | .finish _ => True
  | .observe next => ∀ s memory, (next s memory).Minds c
  | .remember _ next | .note _ next => next.Minds c
  | .refresh d next | .publish d _ next => d = c ∧ ∀ r, (next r).Minds c
  | .close d next => d = c ∧ next.Minds c
  | _ => False

/-- In a closed context such code ends, and it changes nothing but the memory and the journal. -/
theorem Program.Minds.run {call : Caller σ} {c : ContextId} {p : Program σ} (h : p.Minds c)
    (w : World σ) (own : (w.store.context c).hosted = none)
    (closed : (w.store.context c).state = .closed) :
    ∃ r m, p.run call w = (.ok r, m) ∧ Jotted w m := by
  have shut := World.shut_of_closed own closed
  induction p generalizing w with
  | finish result => exact ⟨result, w, rfl, [], by simp⟩
  | observe next ih => exact ih w.store w.memory (h _ _) w own closed shut
  | remember memory next ih =>
    have same : World.Shut { w with memory } c := World.shut_of_closed own closed
    obtain ⟨r, m, hrun, texts, hm⟩ := ih h { w with memory } own closed same
    exact ⟨r, m, hrun, texts, hm⟩
  | note text next ih =>
    let noted := (Move.record (.noted text)).apply w
    have same : noted.Shut c := World.shut_of_closed own closed
    obtain ⟨r, m, hrun, texts, hm⟩ := ih h noted own closed same
    refine ⟨r, m, hrun, text :: texts, hm.trans ?_⟩
    simp [noted, Move.apply, Move.applyStore, Move.change, Move.entries, Move.numbers]
  | refresh d next ih =>
    obtain ⟨rfl, hnext⟩ := h
    obtain ⟨r, m, hrun, hm⟩ := ih _ (hnext _) w own closed shut
    refine ⟨r, m, ?_, hm⟩
    unfold Program.run
    rw [Action.bind_apply, shut.refresh]
    exact hrun
  | publish d e next ih =>
    obtain ⟨rfl, hnext⟩ := h
    obtain ⟨r, m, hrun, hm⟩ := ih _ (hnext _) w own closed shut
    refine ⟨r, m, ?_, hm⟩
    unfold Program.run
    rw [Action.bind_apply, shut.publish]
    exact hrun
  | close d next ih =>
    obtain ⟨rfl, hnext⟩ := h
    obtain ⟨r, m, hrun, hm⟩ := ih hnext w own closed shut
    refine ⟨r, m, ?_, hm⟩
    unfold Program.run
    rw [Action.bind_apply, shut.close]
    exact hrun
  | _ => exact h.elim

/-- What a hook that minds its context leaves as it was. -/
def World.Undisturbed (c : ContextId) (w m : World σ) : Prop :=
  m.callbackCode = w.callbackCode ∧ m.store.context c = w.store.context c

theorem World.undisturbed_afterHook (w : World σ) (r : Except Fault Unit) (c : ContextId) :
    World.Undisturbed c w (w.afterHook r) := by
  cases r <;> exact ⟨rfl, rfl⟩

/-- A hook that minds its closed context returns. -/
theorem callBack_minds {depth turn : Nat} {c : ContextId} {hook : CallbackId} {w : World σ}
    (minds : (w.callbackCode.get hook).Minds c) (own : (w.store.context c).hosted = none)
    (closed : (w.store.context c).state = .closed) :
    ∃ r m, callBack (Program.execute (depth + 1)) turn c hook w = (.ok r, m) ∧
      World.Undisturbed c w m := by
  let called := (Move.call turn c hook).apply w
  have start : callBack (Program.execute (depth + 1)) turn c hook w =
      (w.callbackCode.get hook).run (Program.execute depth) called := rfl
  obtain ⟨r, m, hrun, texts, hm⟩ := Program.Minds.run minds called own closed
  refine ⟨r, m, start.trans hrun, ?_⟩
  rw [hm]
  exact ⟨rfl, rfl⟩

theorem minding_course {depth turn : Nat} {c : ContextId} {w' : World σ} :
    ∀ {legs : List (Leg σ CallbackId (Except Fault Unit))} {w : World σ},
      (w.store.context c).hosted = none → (w.store.context c).state = .closed →
      (∀ leg ∈ legs, (w.callbackCode.get leg.what).Minds c) →
      Course (RunsHook (Program.execute (depth + 1)) turn c) w legs w' → World.Undisturbed c w w'
  | [], w, _, _, _, hcourse => by
    obtain rfl : w' = w := hcourse
    exact ⟨rfl, rfl⟩
  | leg :: legs, w, own, closed, minds, hcourse => by
    obtain ⟨rfl, ⟨m, hcalls, hfinish⟩, hrest⟩ := hcourse
    obtain ⟨r, n, hcallBack, code, context⟩ : ∃ r n,
        callBack (Program.execute (depth + 1)) turn c leg.what leg.start = (.ok r, n) ∧
          World.Undisturbed c leg.start n :=
      callBack_minds (minds leg (List.mem_cons_self ..)) own closed
    obtain ⟨-, rfl⟩ := Prod.mk.inj (hcalls.symm.trans hcallBack)
    obtain ⟨code', context'⟩ := m.undisturbed_afterHook leg.result c
    rw [← hfinish] at code' context'
    have same := context'.trans context
    obtain ⟨restCode, restContext⟩ := minding_course (by rw [same, own]) (by rw [same, closed])
      (fun l hl => by rw [code', code]; exact minds l (List.mem_cons_of_mem _ hl)) hrest
    exact ⟨restCode.trans (code'.trans code), restContext.trans same⟩

/-! ## One closing -/

/-- The world in which the closing of a context has begun. -/
def World.closing (w : World σ) (c : ContextId) : World σ :=
  (Move.record (.logged .info
    ("Closing application context '" ++ (w.store.context c).name ++ "'"))).apply
    ((Move.beginClosing c).apply w)

section Closing

variable {c : ContextId} {w : World σ}

theorem World.context_closing :
    (w.closing c).store.context c = { w.store.context c with state := .closed } := by
  rw [World.closing, Move.apply_store, Move.context_applyStore, Move.apply_store,
    Move.context_applyStore]
  simp only [if_pos]

theorem World.history_closing : (w.closing c).store.history = w.store.history ++
    [.closing w.store.fresh c (w.store.context c).hooks,
      .logged .info ("Closing application context '" ++ (w.store.context c).name ++ "'")] := by
  simp [World.closing, Move.entries]

theorem path_closing (own : (w.store.context c).hosted = none)
    (unclosed : (w.store.context c).state ≠ .closed) :
    Path Discipline.free.allowed w.store.fresh w (w.closing c) := by
  have begun : Path Discipline.free.allowed w.store.fresh w ((Move.beginClosing c).apply w) :=
    .single ⟨own, unclosed⟩ trivial (by simp [Move.turn?])
  exact .snoc _ begun trivial trivial (by simp [Move.turn?])

/-- A refresh of the context that has begun by then began before the closing. -/
theorem World.refreshing_closing (turns : w.store.Turns) (t : Nat) (callbacks : List CallbackId)
    (hmem : .refreshing t c callbacks ∈ (w.closing c).store.history) : t < w.store.fresh := by
  rw [World.history_closing] at hmem
  rcases List.mem_append.1 hmem with hmem | hmem
  · exact (turns.numbered _ hmem ⟨t, c, callbacks⟩ rfl).1
  · simp at hmem

/-- A world that comes about from when the closing of a context has begun, while no refresh from before
it goes on. -/
def World.SinceClosing (w : World σ) (c : ContextId) (m : World σ) : Prop :=
  Path Discipline.free.allowed w.store.fresh (w.closing c) m

theorem World.SinceClosing.shut (turns : w.store.Turns) (made : c.number < w.store.fresh)
    (own : (w.store.context c).hosted = none) {m : World σ} (path : w.SinceClosing c m) :
    m.Shut c := by
  have made' : c.number < (w.closing c).store.fresh := Nat.lt_of_lt_of_le made (Nat.le_add_right ..)
  refine World.shut_of_closed ?_ (path.stays_closed made' ?_ (w.refreshing_closing turns))
  · rw [Path.hosted path made', World.context_closing]
    exact own
  · rw [World.context_closing]

/-- Hooks that mind their context return, and so does the closing. -/
theorem closing_returns {depth : Nat} {m w' : World σ} {hook : CallbackId} {stop : Stop}
    {legs : List (Leg σ CallbackId (Except Fault Unit))}
    (own : (w.store.context c).hosted = none)
    (course : Course (RunsHook (Program.execute (depth + 1)) w.store.fresh c) (w.closing c) legs m)
    (minds : ∀ k ∈ legs.map (·.what) ++ [hook], (w.callbackCode.get k).Minds c) :
    ¬ StopsAt (Program.execute (depth + 1)) w.store.fresh c hook m stop w' := by
  intro stops
  have own' : ((w.closing c).store.context c).hosted = none := by
    rw [World.context_closing]
    exact own
  have closed' : ((w.closing c).store.context c).state = .closed := by rw [World.context_closing]
  obtain ⟨code, context⟩ := minding_course own' closed'
    (fun leg hleg => minds leg.what (List.mem_append_left _ (List.mem_map_of_mem hleg))) course
  have mind : (m.callbackCode.get hook).Minds c := by
    rw [code]
    exact minds hook (by simp)
  obtain ⟨r, n, hcallBack, -⟩ : ∃ r n,
      callBack (Program.execute (depth + 1)) w.store.fresh c hook m = (.ok r, n) ∧
        World.Undisturbed c m n :=
    callBack_minds mind (by rw [context, own']) (by rw [context, closed'])
  cases stops.symm.trans hcallBack

end Closing

/-- A context that is not closed becomes closed, and then its hooks are called in the order in which
they were registered, each once, and the context calls nothing else; every failure is logged once.
The closing ends behind the last hook, unless a hook does not return, as those do that mind the
context. In every world from then on the context is closed, and refreshing it, publishing through it
and closing it again change nothing, while no refresh from before the closing goes on. -/
theorem close_runs_hooks {depth : Nat} {c : ContextId} {w w' : World σ} {r : Except Stop Unit}
    (arises : w.Arises) (made : c.number < w.store.fresh) (own : (w.store.context c).hosted = none)
    (unclosed : (w.store.context c).state ≠ .closed)
    (closes : close (Program.execute depth) c w = (r, w')) :
    ∃ legs m since,
      w'.store.history = w.store.history ++
        .closing w.store.fresh c (w.store.context c).hooks :: .logged .info
          ("Closing application context '" ++ (w.store.context c).name ++ "'") :: since ∧
      Course (RunsHook (Program.execute depth) w.store.fresh c) (w.closing c) legs m ∧
      (r = .ok () ∧ legs.map (·.what) = (w.store.context c).hooks ∧
          callsOf c since = (w.store.context c).hooks ∧ w' = m ∨
        ∃ hook rest stop, r = .error stop ∧
          (w.store.context c).hooks = legs.map (·.what) ++ hook :: rest ∧
          callsOf c since = legs.map (·.what) ++ [hook] ∧
          StopsAt (Program.execute depth) w.store.fresh c hook m stop w') ∧
      (0 < depth → (∀ hook ∈ (w.store.context c).hooks, (w.callbackCode.get hook).Minds c) →
        r = .ok ()) ∧
      (∀ leg ∈ legs, w.SinceClosing c leg.start ∧ w.SinceClosing c leg.finish) ∧
      w.SinceClosing c w' ∧ ∀ v, w.SinceClosing c v → v.Shut c := by
  have turns := arises.turns
  have path := path_closing own unclosed
  have made' : c.number < (w.closing c).store.fresh := Nat.lt_of_lt_of_le made path.fresh_le
  have lt : w.store.fresh < (w.closing c).store.fresh := Nat.lt_succ_self w.store.fresh
  have closed' : ((w.closing c).store.context c).state = .closed := by rw [World.context_closing]
  have past (t : Nat) (callbacks : List CallbackId)
      (hmem : .refreshing t c callbacks ∈ (w.closing c).store.history) : t < w.store.fresh :=
    w.refreshing_closing turns t callbacks hmem
  rw [close_apply own unclosed] at closes
  obtain ⟨legs, m, course, outcome⟩ := runHooks_goes closes
  have owes : ∃ left, (w.store.context c).hooks = legs.map (·.what) ++ left := by
    rcases outcome with ⟨-, hwhat, -⟩ | ⟨hook, rest, _, -, hhooks, -⟩
    · exact ⟨[], by simp [hwhat]⟩
    · exact ⟨hook :: rest, hhooks⟩
  obtain ⟨left, hleft⟩ := owes
  have opened : (w.closing c).store.Owes w.store.fresh c (legs.map (·.what) ++ left) := by
    rw [← hleft]
    exact ⟨w.store.history, _, [.logged .info _], World.history_closing, .inr rfl⟩
  obtain ⟨reached, owed, between, added, hadded, hcalls⟩ :=
    hooks_course (Discipline.execute_free depth) (path.turns turns) made' closed' past lt (.refl _)
      opened course
  have history : m.store.history = w.store.history ++
      .closing w.store.fresh c (w.store.context c).hooks :: .logged .info
        ("Closing application context '" ++ (w.store.context c).name ++ "'") :: added := by
    rw [hadded, World.history_closing]
    simp
  have shut (v : World σ) (since : w.SinceClosing c v) : v.Shut c := since.shut turns made own
  rcases outcome with ⟨rfl, hwhat, rfl⟩ | ⟨hook, rest, stop, rfl, hhooks, stops⟩
  · exact ⟨legs, w', added, history, course, .inl ⟨rfl, hwhat, hcalls.trans hwhat, rfl⟩,
      fun _ _ => rfl, between, reached, shut⟩
  · -- the last call is that of the hook that does not return
    obtain rfl : left = hook :: rest := List.append_cancel_left (hleft.symm.trans hhooks)
    obtain ⟨last, -, more, hmore, hcall⟩ := callBack_goes (Discipline.execute_free depth) stops
      (reached.turns (path.turns turns)) (Nat.lt_of_lt_of_le made' reached.fresh_le)
      (reached.stays_closed made' closed' past) (Nat.lt_of_lt_of_le lt reached.fresh_le) owed
    refine ⟨legs, m, added ++ more, ?_, course, .inr ⟨hook, rest, stop, rfl, hhooks, ?_, stops⟩, ?_,
      between, reached.trans last, shut⟩
    · rw [hmore, history]
      simp
    · rw [callsOf_append, hcalls, hcall]
    · intro deep minds
      obtain ⟨depth, rfl⟩ := Nat.exists_eq_add_of_lt deep
      refine absurd stops (closing_returns own course fun k hk => minds k ?_)
      rw [hhooks]
      rcases List.mem_append.1 hk with hk | hk
      · exact List.mem_append_left _ hk
      · exact List.mem_append_right _ (by simp [List.mem_singleton.1 hk])

/-- A context with a hook that refreshes, publishes through and closes it, and another one that
fails. -/
def hooked : World Unit :=
  (Program.execute 1 (
    .newContext "" ⟨0⟩ fun c =>
    .onClose c (.refresh c fun _ => .publish c (.starting { name := "" } []) fun _ => .close c .done) <|
    .onClose c (.finish (.error (.text ""))) .done) { memory := () }).2

theorem close_runs_hooks_hooked : ∃ legs m since w',
    close (Program.execute 1) ⟨0⟩ hooked = (.ok (), w') ∧
      Course (RunsHook (Program.execute 1) 3 ⟨0⟩) (hooked.closing ⟨0⟩) legs m ∧
      legs.map (·.what) = [⟨1⟩, ⟨2⟩] ∧ callsOf ⟨0⟩ since = [⟨1⟩, ⟨2⟩] ∧ w'.Shut ⟨0⟩ := by
  have arises : hooked.Arises := (Reaches.program .start 1 _).arises rfl
  have hooks : (hooked.store.context ⟨0⟩).hooks = [⟨1⟩, ⟨2⟩] := rfl
  have first : (hooked.callbackCode.get ⟨1⟩).Minds ⟨0⟩ := by
    show Program.Minds ⟨0⟩ (.refresh ⟨0⟩ fun _ =>
      .publish ⟨0⟩ (.starting { name := "" } []) fun _ => .close ⟨0⟩ .done)
    exact ⟨rfl, fun _ => ⟨rfl, fun _ => ⟨rfl, trivial⟩⟩⟩
  have second : (hooked.callbackCode.get ⟨2⟩).Minds ⟨0⟩ := trivial
  rcases hclose : close (Program.execute 1) ⟨0⟩ hooked with ⟨r, w'⟩
  obtain ⟨legs, m, since, -, course, outcome, returns, -, reached, shut⟩ :=
    close_runs_hooks arises (by decide) rfl (by decide) hclose
  rw [hooks] at returns outcome
  obtain rfl := returns (by decide) (by simp [first, second])
  rcases outcome with ⟨-, hwhat, hcalls, rfl⟩ | ⟨_, _, _, herror, -⟩
  · exact ⟨legs, w', since, w', rfl, course, hwhat, hcalls, shut w' reached⟩
  · cases herror

end Startup
