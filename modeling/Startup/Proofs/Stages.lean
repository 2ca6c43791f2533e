/-
The stages of a run. From each stage the next steps of a run lead to a later one, in which the
listeners of the application have heard of one phase more; wherever a step fails or is stopped, they
have heard of the first phases and of nothing else. So a whole run tells each listener of the first
ordinary phases that it listens to, of all of them if it ends well, and otherwise perhaps of the failure.
-/
import Startup.Proofs.Hearing

namespace Startup

variable {σ : Type}

/-! ## Leading from stage to stage -/

/-- A stage is about what has happened so far and the world that it has led to. -/
abbrev Stage (σ : Type) := List Entry → World σ → Prop

/-- From one stage an action leads to that of its result, and where it is stopped, what has happened is
bounded. -/
def Leads {α : Type} (bound : List Entry → Prop) (I : Stage σ) (Q : α → Stage σ) (act : Action σ α) :
    Prop :=
  ∀ since w, I since w → ∃ added, (act w).2.store.history = w.store.history ++ added ∧
    match (act w).1 with
    | .ok a => Q a (since ++ added) (act w).2
    | .error _ => bound (since ++ added)

/-- The stage behind what did not fail; behind a failure what has happened is bounded. -/
def OnOk {α ε : Type} (bound : List Entry → Prop) (I : Stage σ) : Except ε α → Stage σ
  | .ok _, since, w => I since w
  | .error _, since, _ => bound since

/-- A stage lasts while nothing is announced, and what has happened by then is bounded. -/
structure Steady (bound : List Entry → Prop) (I : Stage σ) : Prop where
  lasts : ∀ {first since added} {w w' : World σ}, I since w →
    Path Discipline.silent.allowed first w w' → w'.store.history = w.store.history ++ added →
    I (since ++ added) w'
  bounded : ∀ {since} {w : World σ}, I since w → bound since
  obeys : ∀ {since} {w : World σ}, I since w → w.Obeys Program.Quiet

/-- Steps behind others are taken if none of these fails. -/
theorem Application.performAll_append {more : List (Task σ)} :
    ∀ tasks : List (Task σ), performAll (tasks ++ more) = performAll tasks >>= fun
      | .ok () => performAll more
      | .error e => pure (.error e)
  | [] => rfl
  | (step, act) :: rest => by
    show (perform step act >>= _ : Action σ _) = (perform step act >>= _) >>= _
    rw [bind_assoc]
    refine bind_congr fun r => ?_
    rcases r with e | _
    · rfl
    · exact performAll_append rest

namespace Leads

variable {α β ε : Type} {bound : List Entry → Prop} {I I₁ I₂ : Stage σ} {Q : α → Stage σ}
  {R : β → Stage σ}

theorem pure {a : α} (h : ∀ since w, I since w → Q a since w) : Leads bound I Q (Pure.pure a) := by
  intro since w hI
  refine ⟨[], by simp, ?_⟩
  simpa using h since w hI

theorem bind {act : Action σ α} {next : α → Action σ β} (h : Leads bound I Q act)
    (hnext : ∀ a, Leads bound (Q a) R (next a)) : Leads bound I R (act >>= next) := by
  intro since w hI
  obtain ⟨added, history, reached⟩ := h since w hI
  rw [Action.bind_apply]
  rcases hact : act w with ⟨stop | a, m⟩ <;> rw [hact] at history reached
  · exact ⟨added, history, reached⟩
  · obtain ⟨more, history', reached'⟩ := hnext a _ m reached
    refine ⟨added ++ more, ?_, ?_⟩
    · rw [history', history, List.append_assoc]
    · rw [← List.append_assoc]
      exact reached'

/-- An action that announces nothing stays at its stage. -/
theorem silent {act : Action σ α} (steady : Steady bound I) (keeps : Discipline.silent.Keeps act) :
    Leads bound I (fun _ => I) act := by
  intro since w hI
  have path := keeps w (steady.obeys hI)
  obtain ⟨added, history, -⟩ := path.history
  have hI' := steady.lasts hI path history
  refine ⟨added, history, ?_⟩
  split
  · exact hI'
  · exact steady.bounded hI'

theorem imp {act : Action σ α} {Q' : α → Stage σ} (h : Leads bound I Q act)
    (imp : ∀ a since w, Q a since w → Q' a since w) : Leads bound I Q' act := by
  intro since w hI
  obtain ⟨added, history, reached⟩ := h since w hI
  refine ⟨added, history, ?_⟩
  rcases hact : (act w).1 with stop | a <;> rw [hact] at reached
  · exact reached
  · exact imp _ _ _ reached

/-- Code of the application as a step: it announces nothing, whether it fails or not. -/
theorem silent_step {act : Action σ (Except ε α)} (steady : Steady bound I)
    (keeps : Discipline.silent.Keeps act) : Leads bound I (OnOk bound I) act :=
  (silent steady keeps).imp fun r _ _ hI => by
    cases r with
    | error e => exact steady.bounded hI
    | ok a => exact hI

theorem perform {act : Action σ α} (steady : Steady bound I) (step : RunStep)
    (h : Leads bound I Q act) : Leads bound I Q (Application.perform step act) :=
  (silent steady (Discipline.keeps_record (e := .stepped step) trivial)).bind fun _ => h

theorem performAll_nil : Leads bound I (OnOk bound I) (Application.performAll (σ := σ) []) :=
  pure fun _ _ hI => hI

theorem performAll_cons {step : RunStep} {act : Action σ (Except StartupError Unit)}
    {rest : List (Application.Task σ)} (steady : Steady bound I)
    (h : Leads bound I (OnOk bound I₁) act)
    (hrest : Leads bound I₁ (OnOk bound I₂) (Application.performAll rest)) :
    Leads bound I (OnOk bound I₂) (Application.performAll ((step, act) :: rest)) := by
  unfold Application.performAll
  refine (h.perform steady step).bind ?_
  rintro (e | _)
  · exact pure fun _ _ bounded => bounded
  · exact hrest

theorem performAll_single {act : Action σ (Except StartupError Unit)} (step : RunStep)
    (steady : Steady bound I) (h : Leads bound I (OnOk bound I₁) act) :
    Leads bound I (OnOk bound I₁) (Application.performAll [(step, act)]) :=
  performAll_cons steady h performAll_nil

theorem performAll_append {tasks more : List (Application.Task σ)}
    (h : Leads bound I (OnOk bound I₁) (Application.performAll tasks))
    (hmore : Leads bound I₁ (OnOk bound I₂) (Application.performAll more)) :
    Leads bound I (OnOk bound I₂) (Application.performAll (tasks ++ more)) := by
  rw [Application.performAll_append]
  refine h.bind ?_
  rintro (e | _)
  · exact pure fun _ _ bounded => bounded
  · exact hmore

/-- Steps that announce nothing stay at their stage. -/
theorem performAll_silent (steady : Steady bound I) :
    ∀ {tasks : List (Application.Task σ)}, (∀ t ∈ tasks, Discipline.silent.Keeps t.2) →
      Leads bound I (OnOk bound I) (Application.performAll tasks)
  | [], _ => performAll_nil
  | _ :: _, h => performAll_cons steady (silent_step steady (h _ (List.mem_cons_self ..)))
    (performAll_silent steady fun t ht => h t (List.mem_cons_of_mem _ ht))

/-- Where what comes of an action that ends well is known, and what has happened is bounded anyway. -/
theorem of_outcome {D : Discipline σ} {act : Action σ (Except ε Unit)} (keeps : D.Keeps act)
    (obeys : ∀ since w, I since w → w.Obeys D.code)
    (h : ∀ since w added, I since w → Path D.allowed w.store.fresh w (act w).2 →
      (act w).2.store.history = w.store.history ++ added →
      bound (since ++ added) ∧ ((act w).1 = .ok (.ok ()) → I₁ (since ++ added) (act w).2)) :
    Leads bound I (OnOk bound I₁) act := by
  intro since w hI
  have path := keeps w (obeys since w hI)
  obtain ⟨added, history, -⟩ := path.history
  obtain ⟨bounded, ended⟩ := h since w added hI path history
  refine ⟨added, history, ?_⟩
  rcases hact : (act w).1 with stop | e | _
  · exact bounded
  · exact bounded
  · exact ended hact

end Leads

/-! ## The stages of a run -/

/-- What quiet code and the announcing of phases leave as it is. -/
structure Lasting (rest : Stage σ) : Prop where
  path : ∀ {P : Phase → Prop} {first since added} {w w' : World σ}, rest since w →
    Path (Discipline.quiet P).allowed first w w' → w'.store.history = w.store.history ++ added →
    rest (since ++ added) w'

/-- The listeners have heard of these phases, and something else lasts. -/
def Heard (a : AnnouncerId) (ls : List ListenerId) (listens : ListenerId → Phase → Bool)
    (ps : List Phase) (rest : Stage σ) : Stage σ := fun since w =>
  Told a ls listens ps since w ∧ rest since w

/-- The next context is one that was not made yet. -/
def Unstarted (n : Nat) : Stage σ := fun _ w => w.store.Distinct n ∧ n ≤ w.store.fresh

theorem lasting_unstarted (n : Nat) : Lasting (Unstarted (σ := σ) n) where
  path := fun ⟨distinct, le⟩ path _ => ⟨path.distinct distinct, Nat.le_trans le path.fresh_le⟩

theorem lasting_held (ls : List ListenerId) (c : ContextId) (loaded refreshed : Prop) :
    Lasting (Held (σ := σ) ls c loaded refreshed) where
  path held path history := held.path path history

section Stages

variable (a : AnnouncerId) (ls : List ListenerId) (listens : ListenerId → Phase → Bool)
  (ps : List Phase) {rest : Stage σ} (c : ContextId) (loaded refreshed : Prop)

theorem Lasting.steady (lasting : Lasting rest) :
    Steady (Within ls listens) (Heard a ls listens ps rest) where
  lasts h path history := ⟨h.1.silent path history, lasting.path h.2 path history⟩
  bounded h := h.1.within
  obeys h := h.1.stands.obeys

variable {call : Caller σ} (hcall : ∀ p : Program σ, p.Quiet → Discipline.silent.Keeps (call p))

include hcall

theorem leads_announce_early (distinct : ls.Nodup) (lasting : Lasting rest) (what : Announcement)
    (next : Phase.expectedAfter ps.getLast? = some what.phase) (early : what.phase.isEarly = true) :
    Leads (Within ls listens) (Heard a ls listens ps rest)
      (OnOk (Within ls listens) (Heard a ls listens (ps ++ [what.phase]) rest))
      (announce call a what) := by
  refine .of_outcome (keeps_announce_while hcall a what) (fun _ _ h => h.1.stands.obeys)
    fun since w added h path history => ?_
  obtain ⟨within, ended⟩ := h.1.announced_early hcall distinct next early history
  exact ⟨within, fun ok => ⟨ended ok, lasting.path h.2 path history⟩⟩

theorem leads_announce_late (what : Announcement)
    (next : Phase.expectedAfter ps.getLast? = some what.phase)
    (late : what = .started c ∨ what = .running c) :
    Leads (Within ls listens) (Heard a ls listens ps (Held ls c True True))
      (OnOk (Within ls listens) (Heard a ls listens (ps ++ [what.phase]) (Held ls c True True)))
      (announce call a what) := by
  refine .of_outcome (keeps_announce_while hcall a what) (fun _ _ h => h.1.stands.obeys)
    fun since w added h path history => ?_
  obtain ⟨within, ended⟩ := h.1.announced_late hcall h.2 next late history
  exact ⟨within, fun ok => ⟨ended ok, h.2.path path history⟩⟩

theorem leads_announce_loaded (distinct : ls.Nodup)
    (next : Phase.expectedAfter ps.getLast? = some .contextLoaded) :
    Leads (Within ls listens) (Heard a ls listens ps (Held ls c loaded refreshed))
      (OnOk (Within ls listens)
        (Heard a ls listens (ps ++ [.contextLoaded]) (Held ls c True refreshed)))
      (announce call a (.contextLoaded c)) := by
  refine .of_outcome (keeps_announce_while hcall a (.contextLoaded c))
    (fun _ _ h => h.1.stands.obeys) fun since w added h path history => ?_
  obtain ⟨within, ended⟩ := h.1.announced_loaded hcall distinct h.2 next history
  refine ⟨within, fun ok => ?_⟩
  obtain ⟨told, joined⟩ := ended ok
  exact ⟨told, { h.2.path path history with joined := fun _ => joined }⟩

/-- A context that has been refreshed well is active by then. -/
theorem leads_refresh :
    Leads (Within ls listens) (Heard a ls listens ps (Held ls c loaded refreshed))
      (OnOk (Within ls listens) (Heard a ls listens ps (Held ls c loaded True)))
      (refresh call c) := by
  have keeps : Discipline.silent.Keeps (refresh call c) := Discipline.keeps_refresh hcall c
  have steady := (lasting_held (σ := σ) ls c loaded refreshed).steady a ls listens ps
  refine .of_outcome keeps (fun _ _ => steady.obeys) fun since w added h path history => ?_
  have stays := steady.lasts h path history
  refine ⟨steady.bounded stays, fun ok => ⟨stays.1, { stays.2 with renewed := fun _ => ?_ }⟩⟩
  rw [refresh_ok h.2.own (Prod.ext ok rfl)]
  decide

omit hcall in
theorem leads_createContext (app : Application σ) (env : EnvironmentId) {n : Nat} :
    Leads (Within ls listens) (Heard a ls listens ps (Unstarted n))
      (fun c => Heard a ls listens ps (Held ls c False False)) (app.createContext env) := by
  intro since w h
  obtain ⟨w', hcreate, fresh, own, state, history⟩ := app.createContext_apply env w
  have keeps : Discipline.silent.Keeps (app.createContext env) := Discipline.keeps_createContext env
  have path := keeps w h.1.stands.obeys
  rw [hcreate] at path ⊢
  have distinct := path.distinct h.2.1
  refine ⟨_, history, h.1.silent path history, ?_⟩
  refine ⟨by simp [fresh], own, ⟨distinct.unmade, fun d hd => ?_⟩, False.elim, ?_, False.elim⟩
  · exact distinct.distinct d (Nat.le_trans h.2.2 hd)
  · rw [state]
    exact ⟨since ++ [.stepped .createContext], [], by simp, rfl⟩

end Stages

/-! ## From the first step to the last -/

namespace Application

section Attempt

variable {call : Caller σ} (hcall : ∀ p : Program σ, p.Quiet → Discipline.silent.Keeps (call p))
  (a : AnnouncerId) {ls : List ListenerId} (listens : ListenerId → Phase → Bool) {app : Application σ}

include hcall

/-- The steps before the context is made tell of the first two phases. -/
theorem leads_environment (distinct : ls.Nodup) (n : Nat) :
    Leads (Within ls listens) (Heard a ls listens [] (Unstarted n))
      (OnOk (Within ls listens)
        (Heard a ls listens [.starting, .environmentPrepared] (Unstarted n)))
      (app.environment call [.announcer a]) := by
  have lasting := lasting_unstarted (σ := σ) n
  have steady (ps : List Phase) := lasting.steady a ls listens ps
  have starting := leads_announce_early a ls listens [] hcall distinct lasting .starting rfl rfl
  have preparing := Leads.silent_step (steady [.starting]) (Discipline.keeps_prepare app.layers)
  unfold environment
  refine (Leads.performAll_single (.starting 0) (steady _) starting).bind ?_
  rintro (e | _)
  · exact .pure fun _ _ bounded => bounded
  refine (preparing.perform (steady _) .prepareEnvironment).bind ?_
  rintro (e | env)
  · exact .pure fun _ _ bounded => bounded
  have prepared := leads_announce_early a ls listens [.starting] hcall distinct lasting
    (.environmentPrepared env) rfl rfl
  refine (Leads.performAll_single (.environmentPrepared 0) (steady _) prepared).bind ?_
  rintro (e | _)
  · exact .pure fun _ _ bounded => bounded
  · exact .pure fun _ _ heard => heard

/-- The steps behind it tell of all others. -/
theorem leads_tasks (distinct : ls.Nodup) (happ : app.Obeys Program.Quiet) (args : List String)
    (c : ContextId) :
    Leads (Within ls listens)
      (Heard a ls listens [.starting, .environmentPrepared] (Held ls c False False))
      (OnOk (Within ls listens) (Heard a ls listens Phase.ordinary (Held ls c True True)))
      (performAll (app.tasks call [.announcer a] args c)) := by
  have steady (ps : List Phase) (loaded refreshed : Prop) :=
    (lasting_held (σ := σ) ls c loaded refreshed).steady a ls listens ps
  have hinitializers : ∀ p ∈ app.initializers.map (· c), Program.Quiet p := by
    simpa using fun p hp => happ.initializer p hp c
  have hrunners : ∀ p ∈ app.runners.map (· c args), Program.Quiet p := by
    simpa using fun p hp => happ.runner p hp c args
  have initializing := Leads.performAll_silent (steady [.starting, .environmentPrepared] False False)
    (Discipline.keeps_calling hcall .initializer hinitializers)
  have prepared := leads_announce_early a ls listens [.starting, .environmentPrepared] hcall distinct
    (lasting_held ls c False False) (.contextPrepared c) rfl rfl
  have loaded := leads_announce_loaded a ls listens
    [.starting, .environmentPrepared, .contextPrepared] c False False hcall distinct rfl
  have refreshing := leads_refresh a ls listens
    [.starting, .environmentPrepared, .contextPrepared, .contextLoaded] c True False hcall
  have started := leads_announce_late a ls listens
    [.starting, .environmentPrepared, .contextPrepared, .contextLoaded] c hcall (.started c) rfl
    (.inl rfl)
  have calling := Leads.performAll_silent
    (steady [.starting, .environmentPrepared, .contextPrepared, .contextLoaded, .started] True True)
    (Discipline.keeps_calling hcall .runner hrunners)
  have running := leads_announce_late a ls listens
    [.starting, .environmentPrepared, .contextPrepared, .contextLoaded, .started] c hcall (.running c)
    rfl (.inr rfl)
  have untilLoaded := (initializing.performAll_append
    (prepared.performAll_single (.contextPrepared 0) (steady _ _ _))).performAll_append
    (loaded.performAll_single (.contextLoaded 0) (steady _ _ _))
  have untilStarted := (untilLoaded.performAll_append
    (refreshing.performAll_single .refresh (steady _ _ _))).performAll_append
    (started.performAll_single (.started 0) (steady _ _ _))
  exact (untilStarted.performAll_append calling).performAll_append
    (running.performAll_single (.running 0) (steady _ _ _))

/-- An attempt that ends with its context has told of every ordinary phase. -/
theorem leads_attempt (distinct : ls.Nodup) (happ : app.Obeys Program.Quiet) (args : List String)
    (n : Nat) :
    Leads (Within ls listens) (Heard a ls listens [] (Unstarted n))
      (OnOk (Within ls listens) (Told a ls listens Phase.ordinary))
      (app.attempt call [.announcer a] args) := by
  unfold attempt
  refine (leads_environment hcall a listens distinct n).bind ?_
  rintro (e | env)
  · exact .pure fun _ _ bounded => bounded
  refine (leads_createContext a ls listens _ app env).bind fun c => ?_
  refine (leads_tasks hcall a listens distinct happ args c).bind ?_
  rintro (e | _)
  · exact .pure fun _ _ bounded => bounded
  · exact .pure fun _ _ heard => heard.1

end Attempt

/-! ## Whole runs -/

/-- A run that has made its announcer has told nobody of anything yet. -/
theorem Opened.heard {app : Application σ} {d : Descriptor} {a : AnnouncerId} {w w₁ : World σ}
    (opened : app.Opened d a w w₁) (quiet : w.Obeys Program.Quiet) (unmade : w.store.Unmade)
    {opening : List Entry} (history : w₁.store.history = w.store.history ++ opening) :
    Heard a d.listeners (fun l => (w₁.store.listener l).supports) [] (Unstarted w.store.fresh) opening
      w₁ := by
  have none (q : Phase) : receivers q opening = [] :=
    (Receives.of_path opened.path fun h => h).receivers_eq history
  have stands : Stands a d.listeners (fun l => (w₁.store.listener l).supports) w₁ :=
    { obeys := opened.path.obeys quiet
      made := opened.made
      numbered := opened.numbered
      application := by rw [opened.application]
      early := opened.early
      supports := fun _ _ _ => rfl }
  refine ⟨⟨stands, opened.last, List.nil_prefix, fun l _ => ?_, fun q _ => none q, fun p _ => ?_⟩,
    ?_, ?_⟩
  · rw [heardBy_of_receivers (p := .failed) fun q _ => none q, none]
    rfl
  · exact .none (none p)
  · exact opened.path.distinct unmade.distinct
  · exact opened.path.fresh_le

/-- Whatever becomes of the failure, nothing else is told of. -/
theorem keeps_fail_within {call : Caller σ}
    (hcall : ∀ p : Program σ, p.Quiet → Discipline.silent.Keeps (call p)) (a : AnnouncerId)
    (c : Option ContextId) (e : StartupError) :
    (Discipline.within (· = .failed)).Keeps (fail call [.announcer a] c e) :=
  Discipline.keeps_fail (keeps_within hcall _) (Observer.obeys_announcer a) (fun _ => trivial)
    (fun _ he => ⟨fun _ => he, fun _ _ => trivial, fun _ => trivial⟩) c e

/-- When a run has failed, a listener hears of the failure at most once, behind what it has heard. -/
theorem Broken.heard {call : Caller σ}
    (hcall : ∀ p : Program σ, p.Quiet → Discipline.silent.Keeps (call p)) {d : Descriptor}
    {a : AnnouncerId} {c : Option ContextId} {listens : ListenerId → Phase → Bool}
    {since : List Entry} {m : World σ} (broken : Broken d a c m) (e : StartupError)
    (obeys : m.Obeys Program.Quiet) (within : Within d.listeners listens since)
    (supports : ∀ l ∈ d.listeners, ∀ p, (m.store.listener l).supports p = listens l p) :
    ∃ added, (fail call [.announcer a] c e m).2.store.history = m.store.history ++ added ∧
      (∀ l ∈ d.listeners, ∃ failure, heardBy l (since ++ added) = heardBy l since ++ failure ∧
        failure <+: [Phase.failed].filter (listens l)) ∧
      ∀ p, p = .started ∨ p = .running → BeginsActive p (since ++ added) := by
  obtain ⟨heard, hprefix, ⟨added, history, rfl⟩, -⟩ :=
    hands_fail hcall e obeys broken.own broken.first
  have others (q : Phase) (hq : q ≠ .failed) : receivers q added = [] := by
    have untold : Receives q [] m (fail call [.announcer a] c e m).2 :=
      .of_undelivered (keeps_fail_within hcall a c e m obeys)
        fun _ _ failure he => hq (he.symm.trans failure)
    exact untold.receivers_eq history
  refine ⟨added, history, fun l hl =>
    ⟨List.replicate ((receivers .failed added).count l) .failed, ?_, ?_⟩, fun p hp => ?_⟩
  · rw [heardBy_append, heardBy_of_receivers others]
  · have called := hprefix.sublist.count_le l
    have le : (receivers .failed added).count l ≤ if listens l .failed then 1 else 0 := by
      rw [← supports l hl]
      exact Nat.le_trans called (count_supporting_le broken.once)
    have filtered : [Phase.failed].filter (listens l) =
        List.replicate (if listens l .failed then 1 else 0) .failed := by
      by_cases listen : listens l .failed = true <;> simp [listen]
    rw [filtered]
    exact replicate_prefix le _
  · exact (within.begins p hp).append_none (others p (by rcases hp with rfl | rfl <;> decide))

theorem describe_of_opening {call : Caller σ} {app : Application σ} {args : List String}
    {d : Descriptor} {observers : List (Observer σ)} {w m : World σ}
    (h : app.opening call args w = (.ok (d, observers), m)) : ∃ m', app.describe w = (.ok d, m') := by
  obtain ⟨d', m', hdescribe, h⟩ := Action.bind_eq_ok.1 h
  obtain ⟨observers', _, -, h⟩ := Action.bind_eq_ok.1 h
  obtain ⟨_, _, -, h⟩ := Action.bind_eq_ok.1 h
  obtain ⟨rfl, -⟩ := Prod.mk.inj (Action.pure_eq_ok.1 h).1
  exact ⟨m', hdescribe⟩

/-- What a listener has heard of a run, which may have ended well: the first ordinary phases that it
listens to, or all of them, and the failure at most where the run has not ended well. -/
def Hearing (listens : Phase → Bool) (well : Prop) (heard : List Phase) : Prop :=
  ∃ ordinary failure, heard = ordinary ++ failure ∧
    ordinary <+: Phase.ordinary.filter listens ∧ failure <+: [Phase.failed].filter listens ∧
    (well → ordinary = Phase.ordinary.filter listens ∧ failure = [])

/-- From the opening to the end of a run, whatever that is. -/
theorem conclude_heard {call : Caller σ}
    (hcall : ∀ p : Program σ, p.Quiet → Discipline.silent.Keeps (call p)) {app : Application σ}
    {args : List String} {d : Descriptor} {a : AnnouncerId} {w w₁ : World σ}
    (opened : app.Opened d a w w₁) (happ : app.Obeys Program.Quiet) (quiet : w.Obeys Program.Quiet)
    (unmade : w.store.Unmade) {r : Except Stop (Except StartupError ContextId)} {w' : World σ}
    (h : (app.attempt call [.announcer a] args >>= conclude call [.announcer a]) w₁ = (r, w')) :
    ∃ added, w'.store.history = w.store.history ++ added ∧
      (∀ l ∈ d.listeners, Hearing (w'.store.listener l).supports (∃ c, r = .ok (.ok c))
        (heardBy l added)) ∧
      ∀ p, p = .started ∨ p = .running → BeginsActive p added := by
  obtain ⟨opening, hopening, -⟩ := opened.path.history
  obtain ⟨added, history, reached⟩ :=
    leads_attempt hcall a _ opened.distinct happ args w.store.fresh opening w₁
      (opened.heard quiet unmade hopening)
  have grown : (app.attempt call [.announcer a] args w₁).2.store.history =
      w.store.history ++ (opening ++ added) := by
    rw [history, hopening, List.append_assoc]
  have obeys := opened.path.obeys quiet
  have attempted := keeps_attempt_ordinary hcall happ a args w₁ obeys
  have same (l : ListenerId) (hl : l ∈ d.listeners) :
      ((app.attempt call [.announcer a] args w₁).2.store.listener l).supports =
        (w₁.store.listener l).supports :=
    funext fun p => attempted.supports (opened.numbered l hl) p
  rw [Action.bind_apply] at h
  rcases hattempt : app.attempt call [.announcer a] args w₁ with ⟨stop | ⟨c, e⟩ | c, m⟩ <;>
    rw [hattempt] at h reached grown attempted same
  · -- stopped in the middle of a step: nobody is told
    obtain ⟨rfl, rfl⟩ := Prod.mk.inj h
    refine ⟨_, grown, fun l hl => ⟨_, [], (List.append_nil _).symm, ?_, List.nil_prefix, by simp⟩,
      reached.begins⟩
    rw [same l hl]
    exact reached.heard l hl
  · -- a step has failed: the failure comes behind what was heard
    have broken := opened.broken hcall happ quiet unmade hattempt
    have obeys' := attempted.obeys obeys
    have ending := keeps_fail_within hcall a c e m obeys'
    obtain ⟨rfl, unended⟩ := conclude_error h
    obtain ⟨more, hmore, heard, begins⟩ := broken.heard hcall e obeys' reached
      fun l hl => attempted.supports (opened.numbered l hl)
    refine ⟨opening ++ added ++ more, ?_, fun l hl => ?_, begins⟩
    · rw [hmore, grown, List.append_assoc]
    · obtain ⟨failure, hheard, hfailure⟩ := heard l hl
      have numbered := Nat.lt_of_lt_of_le (opened.numbered l hl) attempted.fresh_le
      have kept : ((fail call [.announcer a] c e m).2.store.listener l).supports =
          (m.store.listener l).supports := funext fun p => ending.supports numbered p
      rw [kept, same l hl]
      exact ⟨_, failure, hheard, reached.heard l hl, hfailure, fun ⟨d, ok⟩ => absurd ok (unended d)⟩
  · obtain ⟨rfl, rfl⟩ := Prod.mk.inj h
    refine ⟨_, grown, fun l hl => ?_, reached.begins⟩
    rw [same l hl]
    exact ⟨_, [], (List.append_nil _).symm, reached.within.heard l hl, List.nil_prefix,
      fun _ => ⟨reached.heard l hl, rfl⟩⟩

/-- In whatever way a run with quiet code ends, each listener of the application has heard of the first
ordinary phases that it listens to, each once and in their order, and then perhaps of one failure; if
it ends well, of all of them and of no failure. When the context begins to tell that it has started, or
that it is running, it is active. -/
theorem run_heard (app : Application σ) (args : List String) (depth : Nat) {w w' : World σ}
    {r : Except Stop (Except StartupError ContextId)} (quiet : w.Obeys Program.Quiet)
    (happ : app.Obeys Program.Quiet) (alone : app.observers = []) (distinct : app.listeners.Nodup)
    (made : ∀ l ∈ app.listeners, l.number < w.store.fresh) (unmade : w.store.Unmade)
    (h : app.run (Program.execute depth) args w = (r, w')) :
    ∃ d m added, app.describe (app.logged w) = (.ok d, m) ∧ (∀ l ∈ app.listeners, l ∈ d.listeners) ∧
      w'.store.history = w.store.history ++ added ∧
      (∀ l ∈ d.listeners, Hearing (w'.store.listener l).supports (∃ c, r = .ok (.ok c))
        (heardBy l added)) ∧
      ∀ p, p = .started ∨ p = .running → BeginsActive p added := by
  have hcall : ∀ p : Program σ, p.Quiet → Discipline.silent.Keeps (Program.execute depth p) :=
    fun p hp => Discipline.keeps_execute (D := Discipline.silent) depth p hp
  have logged := quiet.logged app
  rw [← app.store_logged w] at made unmade ⊢
  by_cases ready : app.logging = none ∨ w.logRefusal = none
  · rw [run_eq_opening ready] at h
    generalize app.logged w = w₀ at h logged made unmade ⊢
    obtain ⟨d, a, w₁, hopening, opened⟩ :=
      opening_opened (Program.execute depth) args logged alone distinct made
    obtain ⟨m, hdescribe⟩ := describe_of_opening hopening
    rw [Action.bind_apply, hopening] at h
    obtain ⟨added, history, heard, begins⟩ := conclude_heard hcall opened happ logged unmade h
    exact ⟨d, m, added, hdescribe, opened.has, history, heard, begins⟩
  · -- the log is refused, and the run ends before it begins
    obtain ⟨asked, refused⟩ := not_or.1 ready
    obtain ⟨settings, asked⟩ := Option.ne_none_iff_exists'.1 asked
    obtain ⟨reason, refused⟩ := Option.ne_none_iff_exists'.1 refused
    rw [run_refused asked refused] at h
    obtain ⟨rfl, rfl⟩ := Prod.mk.inj h
    obtain ⟨d, m, hdescribe, has, -⟩ := describe_apply (app.logged w) distinct made
    exact ⟨d, m, [], hdescribe, has, (List.append_nil _).symm,
      fun l _ => ⟨[], [], rfl, List.nil_prefix, List.nil_prefix, by simp⟩, fun p _ => .none rfl⟩

theorem exists_of_isOk {r : Except Stop (Except StartupError ContextId) × World Unit}
    (h : r.1.toOption.any (·.isOk) = true) : ∃ c w', r = (.ok (.ok c), w') := by
  rcases r with ⟨_ | _ | c, w'⟩
  · cases h
  · cases h
  · exact ⟨c, w', rfl⟩

/-- An application that sets up its log, with a listener that fails only on a failure. -/
def patient : Application Unit := { prepared fun _ => .done with logging := some {} }

theorem run_heard_patient : ∃ c w', patient.run (Program.execute 2) [] oneListener =
    (.ok (.ok c), w') ∧ heardBy ⟨0⟩ w'.store.history = Phase.ordinary := by
  have quiet : patient.Obeys Program.Quiet := by
    constructor <;> simp [patient, prepared, Program.Quiet, Program.done]
  have well : (patient.run (Program.execute 2) [] oneListener).1.toOption.any (·.isOk) = true := by
    decide +kernel
  have listens : ∀ p ∈ Phase.ordinary,
      ((patient.run (Program.execute 2) [] oneListener).2.store.listener ⟨0⟩).supports p = true := by
    decide +kernel
  obtain ⟨c, w', ended⟩ := exists_of_isOk well
  obtain ⟨d, m, added, -, has, history, heard, -⟩ :=
    run_heard patient [] 2 oneListener_quiet quiet rfl (by decide) (by decide)
      (fun _ _ => ⟨rfl, rfl⟩) ended
  obtain ⟨ordinary, failure, hheard, -, -, all⟩ := heard ⟨0⟩ (has _ (List.mem_singleton_self _))
  obtain ⟨rfl, rfl⟩ := all ⟨c, rfl⟩
  refine ⟨c, w', ended, ?_⟩
  rw [ended] at listens
  have since : w'.store.history = added := history
  rw [since, hheard, List.append_nil]
  exact List.filter_eq_self.2 listens

end Application

end Startup
