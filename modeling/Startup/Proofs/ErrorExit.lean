/-
The error exit of a run. A run that made its observers and then ends with an error tells all of them one
cause, the error of the step that failed; its announcer publishes the failure with this cause, and no
other failure. Only then it closes the context, which is closed when the run has ended. The error that
it ends with says what the cause says, and is the cause itself unless that is kept by an event.
-/
import Startup.Proofs.Closing
import Startup.Proofs.Conduct
import Startup.Proofs.Protocol

namespace Startup

variable {σ : Type}

/-! ## Closed contexts -/

/-- A closed context stays closed as long as no refresh from before goes on. -/
theorem Path.stays_closed {allowed : Move σ → Prop} {first : Nat} {w w' : World σ}
    (h : Path allowed first w w') {c : ContextId} (made : c.number < w.store.fresh)
    (closed : (w.store.context c).state = .closed)
    (past : ∀ turn callbacks, .refreshing turn c callbacks ∈ w.store.history → turn < first) :
    (w'.store.context c).state = .closed := by
  have kept : c.number < w'.store.fresh ∧ (w'.store.context c).state = .closed ∧
      ∀ turn callbacks, .refreshing turn c callbacks ∈ w'.store.history → turn < first := by
    refine h.invariant (I := fun m => c.number < m.store.fresh ∧ (m.store.context c).state = .closed ∧
        ∀ turn callbacks, .refreshing turn c callbacks ∈ m.store.history → turn < first) ?_
      ⟨made, closed, past⟩
    rintro move m enabled - since ⟨made, closed, past⟩
    refine ⟨?_, ?_, fun turn callbacks hmem => ?_⟩
    · simp
      omega
    · rw [Move.apply_store, state_applyStore enabled made, stateOf_entries enabled]
      cases move with
      | activate turn d callbacks =>
        -- the refresh that ends here would have begun before the path, and belongs to no turn on it
        have later : first ≤ turn := since turn rfl
        have other : d ≠ c := by
          rintro rfl
          exact absurd (past turn callbacks enabled.begun) (Nat.not_lt.2 later)
        simp [other, closed]
      | beginClosing d => by_cases hd : d = c <;> simp [hd, closed]
      | _ => exact closed
    · rw [Move.apply_store, Move.history_applyStore] at hmem
      rcases List.mem_append.1 hmem with hmem | hmem
      · exact past turn callbacks hmem
      · -- a refresh begins in a context as it was made
        obtain ⟨-, -, -, ⟨-, -, state⟩ | ⟨heq, -⟩⟩ :=
          turn_entries enabled hmem (t := ⟨turn, c, callbacks⟩) rfl
        · rw [closed] at state
          cases state
        · cases heq
  exact kept.2.1

/-- Whether or not it was closed before, a context that has been closed is closed. -/
theorem close_closed {call : Caller σ}
    (hcall : ∀ p, Discipline.free.code p → Discipline.free.Keeps (call p)) {c : ContextId}
    {w w' : World σ} {r : Except Stop Unit} (own : (w.store.context c).hosted = none)
    (made : c.number < w.store.fresh) (turns : w.store.Turns) (h : close call c w = (r, w')) :
    (w'.store.context c).state = .closed := by
  by_cases state : (w.store.context c).state = .closed
  · rw [close_idle (.inr state)] at h
    obtain ⟨-, rfl⟩ := Prod.mk.inj h
    exact state
  have path := Discipline.path_close hcall (Discipline.obeys_free w) own state
  rw [h] at path
  refine path.stays_closed ?_ ?_ fun turn callbacks hmem => ?_
  · simp
    omega
  · rw [Move.apply_store, Move.context_applyStore]
    simp
  · rw [Move.apply_store, Move.history_applyStore] at hmem
    rcases List.mem_append.1 hmem with hmem | hmem
    · exact (turns.numbered _ hmem ⟨turn, c, callbacks⟩ rfl).1
    · simp [Move.entries] at hmem

/-! ## Announcers that have failed -/

/-- An announcer has announced a failure. -/
def World.HasFailed (w : World σ) (a : AnnouncerId) : Prop :=
  (w.store.announcer a).last = some .failed

section Announcers

variable {allowed : Move σ → Prop} {first : Nat} {w w' : World σ} {a : AnnouncerId}

theorem Path.stays_failed (h : Path allowed first w w') (made : a.number < w.store.fresh)
    (failed : w.HasFailed a) : w'.HasFailed a := by
  have kept : a.number < w'.store.fresh ∧ w'.HasFailed a := by
    refine h.invariant (I := fun m => a.number < m.store.fresh ∧ m.HasFailed a) ?_ ⟨made, failed⟩
    rintro move m enabled - - ⟨made, failed⟩
    unfold World.HasFailed at failed ⊢
    refine ⟨by simp; omega, ?_⟩
    rw [Move.apply_store, Move.announcer_applyStore]
    cases move with
    | makeAnnouncer d args =>
      have other : a ≠ ⟨m.store.fresh⟩ := AnnouncerId.ne_next made
      simp only [if_neg other, failed]
    | enter b p =>
      by_cases hb : a = b
      · subst hb
        rcases enabled with ⟨-, again⟩ | next
        · exact absurd failed again
        · rw [failed] at next
          cases next
      · simp only [if_neg hb, failed]
    | _ => exact failed
  exact kept.2

/-- The application of an announcer, and its arguments, stay as it was made. -/
theorem Path.same_application (h : Path allowed first w w') (made : a.number < w.store.fresh) :
    (w'.store.announcer a).application = (w.store.announcer a).application ∧
      (w'.store.announcer a).args = (w.store.announcer a).args := by
  have kept := h.keep (f := fun s => ((s.announcer a).application, (s.announcer a).args)) made
    fun move s taken _ _ => by
      rw [Move.announcer_applyStore]
      cases move with
      | makeAnnouncer d args =>
        have other : a ≠ ⟨s.fresh⟩ := AnnouncerId.ne_next taken
        simp only [if_neg other]
      | enter b p =>
        dsimp only
        split
        · subst_vars
          rfl
        · rfl
      | _ => rfl
  exact ⟨congrArg Prod.fst kept, congrArg Prod.snd kept⟩

/-- An announcer whose failure a run may not announce fails by called code alone. -/
theorem Amid.not_failed {call : Caller σ} {may : AnnouncerId → Prop}
    {can : World σ → Program σ → Prop} {calls : List (Called σ)}
    (amid : Amid call (Move.Abides may) can w calls w') (never : ¬ may a)
    (called : ∀ leg ∈ calls, leg.finish.HasFailed a → leg.start.HasFailed a)
    (start : ¬ w.HasFailed a) : ¬ w'.HasFailed a := by
  refine amid.invariant (I := fun m => ¬ m.HasFailed a) (fun move m ok hm => ?_)
    (fun leg hleg before after => before (called leg hleg after)) start
  unfold World.HasFailed at hm ⊢
  rw [Move.apply_store, Move.announcer_applyStore]
  cases move with
  | makeAnnouncer d args =>
    dsimp only
    split
    · simp
    · exact hm
  | enter b p =>
    dsimp only
    split
    · subst_vars
      exact fun heq => never (ok (Option.some.inj heq))
    · exact hm
  | _ => exact hm

/-- Behind the ordinary phases the failure comes once. -/
theorem Phase.Lawful.count_failed {phases : List Phase} (h : Phase.Lawful phases)
    (last : phases.getLast? = some .failed) : phases.count .failed = 1 := by
  have none {before : List Phase} (h : before <+: Phase.ordinary) : .failed ∉ before := fun hmem =>
    absurd (h.subset hmem) (by decide)
  rcases h with h | ⟨before, h, rfl⟩
  · exact absurd (List.mem_of_getLast? last) (none h)
  · rw [List.count_append, List.count_eq_zero.2 (none h)]
    rfl

/-- An announcer that has failed since it was made has announced one failure. -/
theorem announces_once {d : Descriptor} {args : List String}
    (h : Path Discipline.free.allowed w.store.fresh ((Move.makeAnnouncer d args).apply w) w')
    (failed : w'.HasFailed ⟨w.store.fresh⟩) :
    ∃ since, w'.store.history = ((Move.makeAnnouncer d args).apply w).store.history ++ since ∧
      (phasesOf ⟨w.store.fresh⟩ since).count .failed = 1 := by
  obtain ⟨since, history, -⟩ := h.history
  have making : Path Discipline.free.allowed w.store.fresh w ((Move.makeAnnouncer d args).apply w) :=
    .single trivial trivial (by simp [Move.turn?])
  have made : w'.store.history = w.store.history ++ [] ++ .madeAnnouncer ⟨w.store.fresh⟩ :: since := by
    rw [history, Move.apply_store, Move.history_applyStore, List.append_nil, List.append_assoc]
    rfl
  have order : KeepsOrder ⟨w.store.fresh⟩ since w' :=
    (making.trans h).since (fun _ _ enabled => KeepsOrder.start enabled)
      (fun _ _ _ _ enabled => KeepsOrder.step enabled) made
  refine ⟨since, history, order.lawful.count_failed ?_⟩
  rw [← order.last]
  exact failed

end Announcers

/-! ## Telling the observers -/

/-- The world in which the observers of a run are told that a step of it has failed. -/
def World.failing (w : World σ) (error : StartupError) : World σ :=
  Move.takeNumber.apply
    ((Move.record (.logged .error ("Application run failed: " ++ error.chainMessage))).apply w)

namespace Application

section Told

variable {call : Caller σ} {a : AnnouncerId} {place : Nat} {c : Option ContextId} {cause : Cause}
  {w w' : World σ}

/-- The first failure of an announcer is entered and published. -/
theorem tells_first (first : ¬ w.HasFailed a) :
    Tells call c cause (.announcer a, place) w () w' ↔
      reportFailure call (.early a) c
        (.failed (w.store.announcer a).application (w.store.announcer a).args c cause)
        ((Move.enter a .failed).apply ((Move.record (.reported place c cause)).apply w)) =
          (.ok (), w') := by
  have announced : Tells call c cause (.announcer a, place) w () w' ↔
      announceFailure call a c cause ((Move.record (.reported place c cause)).apply w) =
        (.ok (), w') := Iff.rfl
  have same : ((Move.record (.reported place c cause)).apply w).store.announcer a =
      w.store.announcer a := rfl
  have last : (w.store.announcer a).last ≠ some .failed := first
  rw [announced, announceFailure_apply, same, if_neg last]

variable (hcall : ∀ p, Discipline.free.code p → Discipline.free.Keeps (call p))

include hcall

theorem path_tells {what : Observer σ × Nat} (h : Tells call c cause what w () w') :
    Path Discipline.free.allowed w.store.fresh w w' := by
  have keeps : Discipline.free.Keeps (do
      record (.reported what.2 c cause)
      what.1.announceFailure call c cause) := by
    refine Discipline.keeps_bind (Discipline.keeps_record trivial) fun _ => ?_
    rcases what.1 with a | own
    · exact Discipline.keeps_announceFailure hcall trivial fun e _ => allowsReporting_free e
    · exact Discipline.keeps_bind (hcall _ trivial) fun _ => Discipline.keeps_pure _
  have path := keeps w (Discipline.obeys_free w)
  rwa [h] at path

theorem path_course {legs : List (Leg σ (Observer σ × Nat) Unit)}
    (course : Course (Tells call c cause) w legs w') :
    Path Discipline.free.allowed w.store.fresh w w' := by
  induction legs generalizing w with
  | nil =>
    obtain rfl := course
    exact .refl w'
  | cons leg rest ih =>
    obtain ⟨rfl, htells, hrest⟩ := course
    exact (path_tells hcall htells).onward (Nat.le_refl _) (ih hrest)

/-- An announcer that was told of a failure has announced one, this or another. -/
theorem tells_failed (made : a.number < w.store.fresh)
    (h : Tells call c cause (.announcer a, place) w () w') : w'.HasFailed a := by
  by_cases first : w.HasFailed a
  · exact (path_tells hcall h).stays_failed made first
  have reported := (tells_first first).1 h
  generalize hentered : (Move.enter a .failed).apply ((Move.record (.reported place c cause)).apply w) =
    entered at reported
  have keeps : Discipline.free.Keeps (reportFailure call (.early a) c (.failed
      (w.store.announcer a).application (w.store.announcer a).args c cause)) :=
    Discipline.keeps_reportFailure hcall c (fun _ => trivial) (fun _ => trivial) trivial
  have path := keeps entered (Discipline.obeys_free entered)
  rw [reported] at path
  refine path.stays_failed ?_ ?_
  · simpa [← hentered, Move.numbers] using made
  · unfold World.HasFailed
    rw [← hentered, Move.apply_store, Move.announcer_applyStore]
    simp

/-! ## The world that an announcer is made in -/

/-- The opening of a run makes its announcer; all the rest of it comes behind this. -/
theorem opening_made {app : Application σ} {args : List String} {d : Descriptor}
    {observers : List (Observer σ)} (h : app.opening call args w = (.ok (d, observers), w')) :
    ∃ n others, app.describe w = (.ok d, n) ∧
      List.Forall₂ (IsAdded d args) app.observers others ∧
      StablySorted observers (.announcer ⟨n.store.fresh⟩ :: others) ∧
      Path Discipline.free.allowed w.store.fresh w n ∧
      Path Discipline.free.allowed n.store.fresh ((Move.makeAnnouncer d args).apply n) w' ∧
      ∀ may, ∃ calls, Amid call (Move.Abides may) (·.Holds app) ((Move.makeAnnouncer d args).apply n)
        calls w' := by
  obtain ⟨d', n, hdescribe, h⟩ := Action.bind_eq_ok.1 h
  obtain ⟨observers', m, hmake, h⟩ := Action.bind_eq_ok.1 h
  obtain ⟨_, m', hlog, h⟩ := Action.bind_eq_ok.1 h
  obtain ⟨hresult, rfl⟩ := Action.pure_eq_ok.1 h
  obtain ⟨rfl, rfl⟩ := Prod.mk.inj hresult
  obtain rfl : w' = (Move.record (.logged .info ("Starting " ++ app.name ++ " application"))).apply m :=
    (Prod.mk.inj hlog).2.symm
  obtain ⟨others, added, sorted⟩ := makeObservers_ok hmake
  rw [makeObservers_eq] at hmake
  obtain ⟨a, made, hnew, hrest⟩ := Action.bind_eq_ok.1 hmake
  obtain rfl : made = (Move.makeAnnouncer d args).apply n := (Prod.mk.inj hnew).2.symm
  refine ⟨n, others, hdescribe, added, sorted, ?_, ?_, fun may => ?_⟩
  · have keeps : Discipline.free.Keeps app.describe := Discipline.keeps_describe
    have path := keeps w (Discipline.obeys_free w)
    rwa [hdescribe] at path
  · have keeps := Discipline.keeps_bind (Discipline.keeps_mapM app.observers fun factory _ =>
      Discipline.keeps_make hcall d args factory trivial) fun others => Discipline.keeps_pure
        ((Observer.announcer a :: others).mergeSort fun o o' => o.order ≤ o'.order)
    have path := keeps _ (Discipline.obeys_free ((Move.makeAnnouncer d args).apply n))
    rw [hrest] at path
    have le : n.store.fresh ≤ ((Move.makeAnnouncer d args).apply n).store.fresh := by simp
    exact .snoc _ (path.weaken (fun _ h => h) le) trivial trivial (by simp [Move.turn?])
  · have goes : (app.conduct may).Goes call _ := Terms.goes_bind (Terms.goes_mapM app.observers
      fun factory added => goes_make added d args) fun others => Terms.goes_pure
        ((Observer.announcer a :: others).mergeSort fun o o' => o.order ≤ o'.order)
    obtain ⟨calls, amid, -⟩ := goes ((Move.makeAnnouncer d args).apply n)
    rw [hrest] at amid
    exact ⟨calls, amid.move _ trivial⟩

end Told

/-! ## From the opening to the last observer -/

section Steps

variable {call : Caller σ} {app : Application σ} {args : List String} {observers : List (Observer σ)}
  {w n m : World σ} {r : Except Stop (Except (Option ContextId × StartupError) ContextId)}
  {e : StartupError} {c : Option ContextId} {cause : Cause}
  {legs : List (Leg σ (Observer σ × Nat) Unit)}

/-- The observers of a run have no code but the application's. -/
theorem ofApplication_of_sorted {d : Descriptor} {a : AnnouncerId} {others : List (Observer σ)}
    (added : List.Forall₂ (IsAdded d args) app.observers others)
    (sorted : StablySorted observers (.announcer a :: others)) :
    ∀ o ∈ observers, o.OfApplication app := by
  intro o ho code obeys
  rcases List.mem_cons.1 (sorted.perm.mem_iff.1 ho) with rfl | ho
  · trivial
  obtain ⟨factory, hfactory, hadded⟩ : ∃ factory ∈ app.observers, IsAdded d args factory o := by
    obtain ⟨i, hi, rfl⟩ := List.getElem_of_mem ho
    have hi' : i < app.observers.length := added.length_eq ▸ hi
    exact ⟨app.observers[i], List.getElem_mem hi', added.get hi' hi⟩
  unfold IsAdded at hadded
  rcases hcode : factory.code d args with _ | own <;> rw [hcode] at hadded
  · obtain ⟨b, rfl⟩ := hadded
    trivial
  · subst hadded
    exact obeys.observer factory hfactory d args own hcode

/-- Behind its opening a run goes, by its own moves and by calling code, to where some of its observers
have been told of the failure. -/
theorem amid_told (may : AnnouncerId → Prop) (own : ∀ o ∈ observers, o.OfApplication app)
    (attempted : app.attempt call observers args w = (r, n))
    (course : Course (Tells call c cause) (n.failing e) legs m)
    (listed : ∀ leg ∈ legs, leg.what.1 ∈ observers)
    (told : ∀ leg ∈ legs, ∀ a, leg.what.1 = .announcer a → may a) :
    ∃ calls, Amid call (Move.Abides may) (·.Holds app) w calls m := by
  have attempt : (app.conduct may).Goes call (app.attempt call observers args) := goes_attempt own
  obtain ⟨calls, amid, -⟩ := attempt w
  rw [attempted] at amid
  have failing : Amid call (Move.Abides may) (·.Holds app) w calls (n.failing e) :=
    (amid.move (.record (.logged .error ("Application run failed: " ++ e.chainMessage))) trivial).move
      .takeNumber trivial
  obtain ⟨more, amid'⟩ := course_amid course (fun leg hleg => own _ (listed leg hleg)) told
  exact ⟨calls ++ more, failing.trans amid'⟩

variable (hcall : ∀ p, Discipline.free.code p → Discipline.free.Keeps (call p))

include hcall

theorem path_told (attempted : app.attempt call observers args w = (r, n))
    (course : Course (Tells call c cause) (n.failing e) legs m) :
    Path Discipline.free.allowed w.store.fresh w n ∧ Path Discipline.free.allowed n.store.fresh n m := by
  have attempt := Discipline.keeps_attempt hcall (fun o (_ : o ∈ observers) =>
    Discipline.obeys_free_observer o) (Discipline.obeys_free_application app)
    (fun what => allowsAnnouncing_free what.phase) args w (Discipline.obeys_free w)
  rw [attempted] at attempt
  have logged : Path Discipline.free.allowed n.store.fresh n ((Move.record (.logged .error
      ("Application run failed: " ++ e.chainMessage))).apply n) :=
    .single trivial trivial (by simp [Move.turn?])
  have failing : Path Discipline.free.allowed n.store.fresh n (n.failing e) :=
    .snoc .takeNumber logged trivial trivial (by simp [Move.turn?])
  exact ⟨attempt, failing.onward (Nat.le_refl _) (path_course hcall course)⟩

/-- The context of a failed attempt was made by it. -/
theorem attempt_context {x : ContextId}
    (attempted : app.attempt call observers args w = (.ok (.error (some x, e)), n)) :
    x.number < n.store.fresh ∧ (n.store.context x).hosted = none := by
  obtain ⟨env, m, m', -, hcreate, hperform⟩ := attempt_parts attempted
  obtain ⟨m'', hcreate', fresh, own, -⟩ := app.createContext_apply env m
  rw [hcreate] at hcreate'
  obtain ⟨hx, rfl⟩ := Prod.mk.inj hcreate'
  obtain rfl := Except.ok.inj hx
  have made : m.store.fresh < m'.store.fresh := by omega
  have path := Discipline.keeps_performAll _ (Discipline.keeps_tasks hcall (fun o (_ : o ∈ observers) =>
    Discipline.obeys_free_observer o) (Discipline.obeys_free_application app)
    (fun what => allowsAnnouncing_free what.phase) args ⟨m.store.fresh⟩) m' (Discipline.obeys_free m')
  rw [hperform] at path
  exact ⟨Nat.lt_of_lt_of_le made path.fresh_le, by rw [path.hosted made, own]⟩

end Steps

/-! ## The announcer of a failed run -/

/-- An announcer publishes one failure in all. When it is first told of the cause, it publishes the
failure with this, unless code called since it was made has announced a failure through it. -/
structure PublishesOnce (call : Caller σ) (app : Application σ) (d : Descriptor) (args : List String)
    (a : AnnouncerId) (c : Option ContextId) (cause : Cause) (made : World σ)
    (tells : List (Leg σ (Observer σ × Nat) Unit)) (w' : World σ) : Prop where
  publishes : ∃ before leg after place calls, tells = before ++ leg :: after ∧
    leg.what = (.announcer a, place) ∧
    Amid call (Move.Abides (· ≠ a)) (·.Holds app) made calls leg.start ∧
    ((∀ called ∈ calls, called.finish.HasFailed a → called.start.HasFailed a) →
      reportFailure call (.early a) c (.failed d args c cause)
        ((Move.enter a .failed).apply ((Move.record (.reported place c cause)).apply leg.start)) =
          (.ok (), leg.finish))
  once : ∃ since, w'.store.history = made.store.history ++ since ∧
    (phasesOf a since).count .failed = 1

/-- The first of the legs that tell an announcer. -/
theorem first_told {observers : List (Observer σ)} {a : AnnouncerId}
    {tells : List (Leg σ (Observer σ × Nat) Unit)} (listed : tells.map (·.what) = observers.zipIdx)
    (among : .announcer a ∈ observers) :
    ∃ before leg after place, tells = before ++ leg :: after ∧ leg.what = (.announcer a, place) ∧
      ∀ l ∈ before, l.what.1 ≠ .announcer a := by
  classical
  have told : ∃ leg ∈ tells, decide (leg.what.1 = .announcer a) = true := by
    have among' : .announcer a ∈ (tells.map (·.what)).map Prod.fst := by
      rwa [listed, List.zipIdx_map_fst]
    simpa using among'
  obtain ⟨leg, hleg⟩ := Option.isSome_iff_exists.1 (List.find?_isSome.2 told)
  obtain ⟨hwhat, before, after, rfl, hbefore⟩ := List.find?_eq_some_iff_append.1 hleg
  refine ⟨before, leg, after, leg.what.2, rfl, ?_, fun l hl => ?_⟩
  · rw [← of_decide_eq_true hwhat]
  · simpa using hbefore l hl

section Publishing

variable {call : Caller σ} {app : Application σ} {args : List String} {observers : List (Observer σ)}
  {w opened n m w' : World σ} {d : Descriptor}
  {r : Except Stop (Except (Option ContextId × StartupError) ContextId)} {e : StartupError}
  {c : Option ContextId} {cause : Cause} {tells : List (Leg σ (Observer σ × Nat) Unit)}
  (hcall : ∀ p, Discipline.free.code p → Discipline.free.Keeps (call p))

include hcall

theorem publishesOnce_of_told
    (path : Path Discipline.free.allowed w.store.fresh ((Move.makeAnnouncer d args).apply w) opened)
    (amid : ∀ may, ∃ calls,
      Amid call (Move.Abides may) (·.Holds app) ((Move.makeAnnouncer d args).apply w) calls opened)
    (own : ∀ o ∈ observers, o.OfApplication app)
    (attempted : app.attempt call observers args opened = (r, n))
    (course : Course (Tells call c cause) (n.failing e) tells m)
    (listed : tells.map (·.what) = observers.zipIdx) (among : .announcer ⟨w.store.fresh⟩ ∈ observers)
    (rest : Path Discipline.free.allowed m.store.fresh m w') :
    PublishesOnce call app d args ⟨w.store.fresh⟩ c cause ((Move.makeAnnouncer d args).apply w) tells
      w' := by
  have announcer : ((Move.makeAnnouncer d args).apply w).store.announcer ⟨w.store.fresh⟩ =
      { application := d, args } := by
    simp [Move.announcer_applyStore]
  have le : w.store.fresh ≤ ((Move.makeAnnouncer d args).apply w).store.fresh := by simp
  have made : w.store.fresh < ((Move.makeAnnouncer d args).apply w).store.fresh := by
    simp [Move.numbers]
  obtain ⟨before, leg, after, place, rfl, what, others⟩ := first_told listed among
  have member : ∀ l ∈ before ++ leg :: after, l.what.1 ∈ observers := by
    intro l hl
    have place := List.mem_map_of_mem (f := (·.what)) hl
    rw [listed] at place
    exact List.fst_mem_of_mem_zipIdx place
  obtain ⟨start, hbefore, rfl, htells, hafter⟩ := course_append.1 course
  rw [what] at htells
  obtain ⟨attempting, telling⟩ := path_told hcall attempted hbefore
  have toStart := (path.onward le attempting).onward le telling
  constructor
  · -- up to this leg only called code can have announced a failure through the announcer
    obtain ⟨calls, opening⟩ := amid (· ≠ ⟨w.store.fresh⟩)
    obtain ⟨more, amid'⟩ := amid_told (· ≠ ⟨w.store.fresh⟩) own attempted hbefore
      (fun l hl => member l (List.mem_append_left _ hl))
      fun l hl b hb heq => others l hl (by rw [hb, heq])
    have whole := opening.trans amid'
    refine ⟨before, leg, after, place, calls ++ more, rfl, what, whole, fun called => ?_⟩
    have first : ¬ leg.start.HasFailed ⟨w.store.fresh⟩ := by
      refine whole.not_failed (fun h => h rfl) called ?_
      unfold World.HasFailed
      rw [announcer]
      simp
    obtain ⟨application, arguments⟩ := toStart.same_application (a := ⟨w.store.fresh⟩) made
    rw [announcer] at application arguments
    have published := (tells_first first).1 htells
    rwa [application, arguments] at published
  · -- from this leg on the announcer has failed, and it never fails twice
    have made' : w.store.fresh < leg.start.store.fresh := Nat.lt_of_lt_of_le made toStart.fresh_le
    have toFinish := path_tells hcall htells
    have toEnd := (path_course hcall hafter).onward (Nat.le_refl _) rest
    have failed := toEnd.stays_failed (Nat.lt_of_lt_of_le made' toFinish.fresh_le)
      (tells_failed hcall made' htells)
    exact announces_once ((toStart.onward le toFinish).onward le toEnd) failed

end Publishing

/-! ## The error of a run -/

theorem outcome_chainMessage (s : Store) (cause : Cause) :
    (outcome s cause).chainMessage = cause.error.chainMessage := by
  unfold outcome
  split
  · exact String.intercalate_singleton
  · rfl

/-- The outcome is the cause itself where no event keeps it. -/
theorem outcome_unkept {s : Store} {cause : Cause}
    (unkept : ∀ e ∈ s.retained, ∀ x ∈ e.cause?, x.number ≠ cause.number) :
    outcome s cause = cause.error := by
  unfold outcome
  refine if_neg fun kept => ?_
  obtain ⟨e, he, hcause⟩ := List.any_eq_true.1 kept
  obtain ⟨x, hx, same⟩ := (Option.any_eq_true _ _).1 hcause
  exact unkept e he x hx (eq_of_beq same)

/-! ## The error exit -/

/-- A run in any world that can be reached, whose log is not refused and which then ends with an error,
has made its observers and gone its plan to a step that failed. It tells all observers, in their order, of
one cause with the error of this step, and its announcer publishes one failure, with this cause. Until the
last of them has been told, it closes no context of its own accord; then it closes the context, if that
was made, and when it ends, the context is closed. Its error has the words of the cause, and is the cause
itself where no event that the application keeps has this cause. -/
theorem failed_run_ends (app : Application σ) (args : List String) (depth : Nat) {w₀ w w' : World σ}
    {error : StartupError} (reached : Reaches w₀ w) (new : w₀.store = {})
    (ready : app.logging = none ∨ w.logRefusal = none)
    (failed : app.run (Program.execute depth) args w = (.ok (.error error), w')) :
    let call := Program.execute depth
    ∃ d observers others begun opened, app.describe (app.logged w) = (.ok d, begun) ∧
      app.opening call args (app.logged w) = (.ok (d, observers), opened) ∧
      List.Forall₂ (IsAdded d args) app.observers others ∧
      StablySorted observers (.announcer ⟨begun.store.fresh⟩ :: others) ∧
      ∃ env c legs e n,
        Gone (app.Does call observers args env c) (app.plan observers.length) opened legs (.error e) n ∧
        let made := (Move.makeAnnouncer d args).apply begun
        let cause : Cause := ⟨n.store.fresh, e⟩
        ∃ tells m, Course (Tells call (madeBy c legs) cause) (n.failing e) tells m ∧
          tells.map (·.what) = observers.zipIdx ∧
          PublishesOnce call app d args ⟨begun.store.fresh⟩ (madeBy c legs) cause made tells w' ∧
          (∃ calls, Amid call (Move.Abides fun _ => True) (·.Holds app) made calls m) ∧
          Closes call (madeBy c legs) m w' ∧
          (∀ x ∈ madeBy c legs, (w'.store.context x).state = .closed) ∧
          error.chainMessage = e.chainMessage ∧
          ((∀ kept ∈ w'.store.retained, ∀ x ∈ kept.cause?, x.number ≠ cause.number) → error = e) := by
  intro call
  have hcall : ∀ p, Discipline.free.code p → Discipline.free.Keeps (call p) :=
    Discipline.execute_free depth
  change app.run call args w = _ at failed
  clear_value call
  have turns : (app.logged w).store.Turns := by
    rw [store_logged]
    exact reached.path.turns (by rw [new]; exact .empty)
  obtain ⟨d, observers, opened, x, e, n, hopening, hattempt, hfail⟩ := run_failed ready failed
  obtain ⟨env, c, legs, s, hgone, hend⟩ := attempt_iff.1 hattempt
  rcases s with e' | _
  case ok => cases hend
  obtain ⟨rfl, rfl⟩ := Prod.mk.inj (Except.error.inj hend)
  obtain ⟨⟨tells, m, hcourse, hlisted, hcloses⟩, rfl⟩ := fail_iff.1 hfail
  obtain ⟨begun, others, hdescribe, added, sorted, describing, opening, amid⟩ :=
    opening_made hcall hopening
  have own := ofApplication_of_sorted added sorted
  have among : Observer.announcer ⟨begun.store.fresh⟩ ∈ observers :=
    sorted.perm.mem_iff.2 (List.mem_cons_self ..)
  obtain ⟨attempting, telling⟩ := path_told hcall hattempt hcourse
  have closing : Path Discipline.free.allowed m.store.fresh m w' := by
    rcases hmade : madeBy c legs with _ | x <;> rw [hmade] at hcloses
    · obtain rfl := hcloses
      exact .refl w'
    · have path := Discipline.keeps_close hcall x m (Discipline.obeys_free m)
      rwa [hcloses] at path
  refine ⟨d, observers, others, begun, opened, hdescribe, hopening, added, sorted, env, c, legs, e, n,
    hgone, tells, m, hcourse, hlisted, ?_, ?_, hcloses, ?_, outcome_chainMessage _ _,
    fun unkept => outcome_unkept unkept⟩
  · exact publishesOnce_of_told hcall opening amid own hattempt hcourse hlisted among closing
  · obtain ⟨calls, before⟩ := amid fun _ => True
    obtain ⟨more, behind⟩ := amid_told (fun _ => True) own hattempt hcourse
      (fun leg hleg => List.fst_mem_of_mem_zipIdx (hlisted ▸ List.mem_map_of_mem hleg))
      fun _ _ _ _ => trivial
    exact ⟨calls ++ more, before.trans behind⟩
  · intro x hx
    rw [hx] at hcloses hattempt
    obtain ⟨made, hosted⟩ := attempt_context hcall hattempt
    have making : Path Discipline.free.allowed begun.store.fresh begun
        ((Move.makeAnnouncer d args).apply begun) :=
      .single trivial trivial (by simp [Move.turn?])
    -- where the context is closed, every refresh that has begun has an earlier number
    have before := opening.turns (making.turns (describing.turns turns))
    have turns' := telling.turns (attempting.turns before)
    have hosted' : (m.store.context x).hosted = none := by rw [telling.hosted made, hosted]
    exact close_closed hcall hosted' (Nat.lt_of_lt_of_le made telling.fresh_le) turns' hcloses

/-- A listener that keeps the event of a failure and closes its context. -/
def meddling : Program Unit :=
  .newListener {} (fun e => match e.context? with
    | some c => .retain e (.close c .done)
    | none => .done) (fun _ => .done) fun _ => .done

/-- An application with this listener, which sets up its log, and an initializer that fails. -/
def meddled : Application Unit where
  layers := { files := [] }
  showBanner := false
  logging := some {}
  listeners := [⟨0⟩]
  initializers := [fun _ => .finish (.error (.within "initializing" (.text "broken")))]

theorem failed_run_ends_meddled : ∃ error w',
    meddled.run (Program.execute 3) [] (Program.execute 3 meddling { memory := () }).2 =
      (.ok (.error error), w') ∧
    ∃ observers env c opened legs e n,
      Gone (meddled.Does (Program.execute 3) observers [] env c) (meddled.plan observers.length) opened
        legs (.error e) n ∧
      (∀ x ∈ madeBy c legs, (w'.store.context x).state = .closed) ∧
      e.chainMessage = "initializing: broken" := by
  generalize hw : (Program.execute 3 meddling { memory := () }).2 = w
  have reached : Reaches { memory := () } w := by
    subst hw
    exact .program .start 3 meddling
  have unrefused : w.logRefusal = none := by
    subst hw
    rfl
  have words : (endError? (meddled.run (Program.execute 3) [] w).1).map StartupError.chainMessage =
      some "initializing: broken" := by
    subst hw
    decide +kernel
  have fails : (endError? (meddled.run (Program.execute 3) [] w).1).isSome = true := by
    rw [← Option.isSome_map, words]
    rfl
  obtain ⟨error, w', failed⟩ := exists_of_endError fails
  rw [failed] at words
  obtain ⟨d, observers, others, begun, opened, -, -, -, -, env, c, legs, e, n, hgone, ended⟩ :=
    failed_run_ends meddled [] 3 reached rfl (.inr unrefused) failed
  obtain ⟨tells, m, -, -, -, -, -, closed, same, -⟩ := ended
  exact ⟨error, w', failed, observers, env, c, opened, legs, e, n, hgone, closed,
    same.symm.trans (Option.some.inj words)⟩

end Application

end Startup
