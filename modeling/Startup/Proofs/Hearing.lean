/-
What one listener hears. While only quiet code runs, a listener of the application hears of the phases
that its announcer announces, each once and in their order, as far as it listens to them: from the
early channel at first, and from the context once that has been announced as loaded. An announcement
that does not end well may miss it.
-/
import Startup.Proofs.Closing
import Startup.Proofs.Protocol
import Startup.Proofs.RunFailure

namespace Startup

variable {σ : Type}

/-! ## Hearing of phases -/

/-- The phase of the event that an entry says was handed to a listener. -/
def Entry.heard? (l : ListenerId) : Entry → Option Phase
  | .delivered k e => if k = l then some e.phase else none
  | _ => none

/-- The phases of the events that were handed to a listener, in order. -/
def heardBy (l : ListenerId) (h : List Entry) : List Phase := h.filterMap (·.heard? l)

theorem heardBy_append (l : ListenerId) (h₁ h₂ : List Entry) :
    heardBy l (h₁ ++ h₂) = heardBy l h₁ ++ heardBy l h₂ :=
  List.filterMap_append ..

theorem mem_receivers {l : ListenerId} {e : Event} {h : List Entry} (he : .delivered l e ∈ h) :
    l ∈ receivers e.phase h :=
  List.mem_filterMap.2 ⟨_, he, if_pos rfl⟩

/-- Where events of one phase alone are handed out, a listener hears of it as often as it receives
one. -/
theorem heardBy_of_receivers {l : ListenerId} {p : Phase} :
    ∀ {h : List Entry}, (∀ q, q ≠ p → receivers q h = []) →
      heardBy l h = List.replicate ((receivers p h).count l) p
  | [], _ => rfl
  | entry :: h, others => by
    have parts (q : Phase) (hq : q ≠ p) : receivers q [entry] = [] ∧ receivers q h = [] :=
      List.append_eq_nil_iff.1 (receivers_append q [entry] h ▸ others q hq)
    have one : heardBy l [entry] = List.replicate ((receivers p [entry]).count l) p := by
      cases entry <;> try rfl
      case delivered k e =>
        by_cases hp : e.phase = p
        · by_cases hk : k = l <;> simp [heardBy, Entry.heard?, receivers, Entry.receiver?, hp, hk]
        · simpa [receivers, Entry.receiver?] using (parts e.phase hp).1
    show heardBy l ([entry] ++ h) = List.replicate ((receivers p ([entry] ++ h)).count l) p
    rw [heardBy_append, receivers_append, List.count_append, ← List.replicate_append_replicate, one,
      heardBy_of_receivers fun q hq => (parts q hq).2]

theorem replicate_prefix {m n : Nat} (h : m ≤ n) (p : Phase) :
    List.replicate m p <+: List.replicate n p :=
  ⟨List.replicate (n - m) p, by rw [List.replicate_append_replicate, Nat.add_sub_cancel' h]⟩

/-- A context was made and is in a state after what has happened since then. -/
def IsIn (state : ContextState) (c : ContextId) (h : List Entry) : Prop :=
  ∃ before since, h = before ++ .madeContext c :: since ∧ stateAfter c since = state

theorem IsIn.snoc {state : ContextState} {c : ContextId} {h : List Entry} {e : Entry}
    (start : IsIn state c h) (other : e.stateOf? c = none) : IsIn state c (h ++ [e]) := by
  obtain ⟨before, since, rfl, state⟩ := start
  refine ⟨before, since ++ [e], by simp, ?_⟩
  rw [stateAfter_snoc, other]
  exact state

/-- When events of a phase begin to be handed out, their context is active. -/
def BeginsActive (p : Phase) (h : List Entry) : Prop :=
  ∀ before l e after, h = before ++ .delivered l e :: after → e.phase = p →
    receivers p before = [] → ∃ c ∈ e.context?, IsIn .active c before

namespace BeginsActive

variable {p : Phase} {h more : List Entry}

theorem none (h₀ : receivers p h = []) : BeginsActive p h := by
  rintro before l e after rfl rfl -
  have hl : l ∈ receivers e.phase (before ++ .delivered l e :: after) := mem_receivers (by simp)
  rw [h₀] at hl
  cases hl

/-- What hands out no event of the phase does not count. -/
theorem append_none (begins : BeginsActive p h) (h₀ : receivers p more = []) :
    BeginsActive p (h ++ more) := by
  intro before l e after heq hp hbefore
  rcases history_split heq with ⟨old, hold, -⟩ | ⟨left, -, hleft⟩
  · exact begins before l e old hold hp hbefore
  · subst hp
    have hl : l ∈ receivers e.phase more := mem_receivers (by simp [hleft])
    rw [h₀] at hl
    cases hl

/-- The first event of the phase is that of a context that is active by then. -/
theorem first {c : ContextId} {l : ListenerId} {e : Event} (h₀ : receivers p h = [])
    (active : IsIn .active c h) (phase : e.phase = p) (context : e.context? = some c) :
    BeginsActive p (h ++ .delivered l e :: more) := by
  rintro before k e' after heq rfl hbefore
  rcases history_split heq with ⟨old, hold, -⟩ | ⟨left, rfl, hleft⟩
  · have hk : k ∈ receivers e'.phase h := mem_receivers (by simp [hold])
    rw [h₀] at hk
    cases hk
  · cases left with
    | nil =>
      obtain ⟨he, -⟩ := List.cons.inj hleft
      injection he with _ he
      exact ⟨c, he ▸ context, by rwa [List.append_nil]⟩
    | cons d left =>
      obtain ⟨rfl, -⟩ := List.cons.inj hleft
      rw [← phase] at hbefore
      have hl : l ∈ receivers e.phase (h ++ .delivered l e :: left) := mem_receivers (by simp)
      rw [hbefore] at hl
      cases hl

end BeginsActive

/-! ## Handing out events -/

/-- A listener of a list without repetitions is called at most once, and only if it listens to the
phase. -/
theorem count_supporting_le {s : Store} {p : Phase} {ls : List ListenerId} {l : ListenerId}
    (distinct : ls.Nodup) :
    (s.supporting p ls).count l ≤ if (s.listener l).supports p then 1 else 0 := by
  split
  · exact List.nodup_iff_count.1 (distinct.filter _) l
  · rename_i deaf
    exact Nat.le_of_eq (List.count_eq_zero.2 fun hmem => deaf (List.mem_filter.1 hmem).2)

/-- A listener that stands in a list once is called once, if it listens to the phase. -/
theorem count_supporting {s : Store} {p : Phase} {ls : List ListenerId} {l : ListenerId}
    (distinct : ls.Nodup) (hl : l ∈ ls) :
    (s.supporting p ls).count l = if (s.listener l).supports p then 1 else 0 := by
  refine Nat.le_antisymm (count_supporting_le distinct) ?_
  split
  · rename_i listens
    exact List.count_pos_iff.2 (List.mem_filter.2 ⟨hl, listens⟩)
  · exact Nat.zero_le _

section Handing

variable {call : Caller σ} (hcall : ∀ p : Program σ, p.Quiet → Discipline.silent.Keeps (call p))

include hcall

/-- A delivery begins with its first listener. -/
theorem deliver_begins (policy : Policy) (e : Event) (l : ListenerId) (rest : List ListenerId)
    {w : World σ} (hw : w.Obeys Program.Quiet) :
    ∃ more, (deliver call policy e (l :: rest) w).2.store.history =
      w.store.history ++ .delivered l e :: more := by
  have within := keeps_within hcall (· = e.phase)
  have hrest : (Discipline.within (· = e.phase)).Keeps (deliver call policy e rest) :=
    Discipline.keeps_deliver within policy rest fun _ _ => rfl
  have went := Discipline.path_deliver within policy (l := l) hw hrest
  exact went.history_behind rfl

theorem hands_multicast (ch : ChannelId) (e : Event) {w : World σ} (hw : w.Obeys Program.Quiet) :
    Hands e.phase (w.store.supporting e.phase (w.store.channel ch).listeners)
      ((multicast call ch e w).1 = .ok (.ok ())) w (multicast call ch e w).2 :=
  hands_deliver hcall _ e _ hw

/-- What a context publishes reaches its first listeners, and all of them if that ends well. -/
theorem hands_publish {c : ContextId} (e : Event) {w : World σ} (hw : w.Obeys Program.Quiet)
    (own : (w.store.context c).hosted = none) :
    Hands e.phase (w.store.supporting e.phase (w.store.listenersOf c))
      ((publish call c e w).1 = .ok (.ok ())) w (publish call c e w).2 := by
  by_cases state : (w.store.context c).state = .closed
  · rw [publish_closed own state]
    exact .none (.refl w) (by simp)
  · rw [publish_open own state]
    exact hands_deliver hcall _ e _ hw

/-- A context that publishes, and is not as it was made, is active. -/
theorem publish_begins {c : ContextId} {e : Event} {w : World σ} (hw : w.Obeys Program.Quiet)
    (own : (w.store.context c).hosted = none) {since : List Entry}
    (state : IsIn (w.store.context c).state c since)
    (refreshed : (w.store.context c).state ≠ .created) (context : e.context? = some c)
    (h₀ : receivers e.phase since = []) {added : List Entry}
    (history : (publish call c e w).2.store.history = w.store.history ++ added) :
    BeginsActive e.phase (since ++ added) := by
  by_cases closed : (w.store.context c).state = .closed
  · rw [publish_closed own closed] at history
    obtain rfl : added = [] := by simpa using history
    exact .none (by rwa [List.append_nil])
  · have active : (w.store.context c).state = .active := by
      cases hstate : (w.store.context c).state with
      | created => exact absurd hstate refreshed
      | active => rfl
      | closed => exact absurd hstate closed
    rw [active] at state
    rw [publish_open own closed] at history
    rcases hls : w.store.supporting e.phase (w.store.listenersOf c) with _ | ⟨l, rest⟩ <;>
      rw [hls] at history
    · obtain rfl : added = [] := by simpa [deliver] using history
      exact .none (by rwa [List.append_nil])
    · obtain ⟨more, hmore⟩ := deliver_begins hcall _ e l rest hw
      rw [history] at hmore
      obtain rfl := List.append_cancel_left hmore
      exact .first h₀ state rfl context

end Handing

/-! ## What was told so far -/

/-- An announcer, the listeners of its application and the phases that these listen to. -/
structure Stands (a : AnnouncerId) (ls : List ListenerId) (listens : ListenerId → Phase → Bool)
    (w : World σ) : Prop where
  obeys : w.Obeys Program.Quiet
  made : a.number < w.store.fresh
  numbered : ∀ l ∈ ls, l.number < w.store.fresh
  application : (w.store.announcer a).application.listeners = ls
  early : (w.store.channel (.early a)).listeners = ls
  supports : ∀ l ∈ ls, ∀ p, (w.store.listener l).supports p = listens l p

/-- The listeners have heard of these phases, in this order, as far as they listen to them, and nobody
of others. -/
structure Told (a : AnnouncerId) (ls : List ListenerId) (listens : ListenerId → Phase → Bool)
    (ps : List Phase) (since : List Entry) (w : World σ) : Prop where
  stands : Stands a ls listens w
  last : (w.store.announcer a).last = ps.getLast?
  ordered : ps <+: Phase.ordinary
  heard : ∀ l ∈ ls, heardBy l since = ps.filter (listens l)
  others : ∀ q, q ∉ ps → receivers q since = []
  begins : ∀ p, p = .started ∨ p = .running → BeginsActive p since

/-- Wherever a run stops before its failure, the listeners have heard of the first ordinary phases that
they listen to. -/
structure Within (ls : List ListenerId) (listens : ListenerId → Phase → Bool) (since : List Entry) :
    Prop where
  heard : ∀ l ∈ ls, heardBy l since <+: Phase.ordinary.filter (listens l)
  unfailed : receivers .failed since = []
  begins : ∀ p, p = .started ∨ p = .running → BeginsActive p since

section Telling

variable {a : AnnouncerId} {ls : List ListenerId} {listens : ListenerId → Phase → Bool}
  {ps : List Phase} {since added : List Entry} {w w' : World σ}

theorem Stands.path {P : Phase → Prop} {first : Nat} (h : Stands a ls listens w)
    (path : Path (Discipline.quiet P).allowed first w w') : Stands a ls listens w' where
  obeys := path.obeys h.obeys
  made := Nat.lt_of_lt_of_le h.made path.fresh_le
  numbered l hl := Nat.lt_of_lt_of_le (h.numbered l hl) path.fresh_le
  application := by rw [path.application h.made, h.application]
  early := by rw [path.quiet_early h.made, h.early]
  supports l hl p := by rw [path.supports (h.numbered l hl), h.supports l hl]

theorem failed_not_mem_of_ordered (h : ps <+: Phase.ordinary) : Phase.failed ∉ ps :=
  fun hmem => absurd (h.subset hmem) (by decide)

theorem Told.within (h : Told a ls listens ps since w) : Within ls listens since where
  heard l hl := by rw [h.heard l hl]; exact h.ordered.filter _
  unfailed := h.others _ (failed_not_mem_of_ordered h.ordered)
  begins := h.begins

/-- Where nothing is announced, nobody hears of anything. -/
theorem Told.silent {first : Nat} (h : Told a ls listens ps since w)
    (path : Path Discipline.silent.allowed first w w')
    (history : w'.store.history = w.store.history ++ added) :
    Told a ls listens ps (since ++ added) w' := by
  have none (q : Phase) : receivers q added = [] :=
    (Receives.of_path path fun h => h).receivers_eq history
  refine ⟨h.stands.path path, ?_, h.ordered, fun l hl => ?_, fun q hq => ?_, fun p hp => ?_⟩
  · rw [path.silent_announcer h.stands.made, h.last]
  · rw [heardBy_append, heardBy_of_receivers (p := .failed) fun q _ => none q, none, h.heard l hl]
    exact List.append_nil _
  · rw [receivers_append, h.others q hq, none]
    rfl
  · exact (h.begins p hp).append_none (none p)

/-- A phase that may come next is heard of at most once by those who listen to it, and by all of them if
the announcement ends well. -/
theorem Told.announced {call : Caller σ}
    (hcall : ∀ p : Program σ, p.Quiet → Discipline.silent.Keeps (call p)) (what : Announcement)
    {hs : List ListenerId} (h : Told a ls listens ps since w)
    (next : Phase.expectedAfter ps.getLast? = some what.phase)
    (handed : Hands what.phase hs ((announce call a what w).1 = .ok (.ok ())) w
      (announce call a what w).2)
    (counted : ∀ l ∈ ls, hs.count l = if listens l what.phase then 1 else 0)
    (history : (announce call a what w).2.store.history = w.store.history ++ added)
    (begins : what.phase = .started ∨ what.phase = .running →
      BeginsActive what.phase (since ++ added)) :
    Within ls listens (since ++ added) ∧
      ((announce call a what w).1 = .ok (.ok ()) →
        Told a ls listens (ps ++ [what.phase]) (since ++ added) (announce call a what w).2) := by
  have path := keeps_announce_while hcall a what w h.stands.obeys
  generalize hp : what.phase = p at *
  have others (q : Phase) (hq : q ≠ p) : receivers q added = [] :=
    (Receives.of_path path hq).receivers_eq history
  obtain ⟨heard, hprefix, received, all⟩ := handed
  obtain rfl := received.receivers_eq history
  have ordered : ps ++ [p] <+: Phase.ordinary := Phase.prefix_snoc h.ordered next
  have hears (l : ListenerId) (hl : l ∈ ls) : heardBy l (since ++ added) =
      ps.filter (listens l) ++ List.replicate ((receivers p added).count l) p := by
    rw [heardBy_append, heardBy_of_receivers others, h.heard l hl]
  have listening (l : ListenerId) :
      (ps ++ [p]).filter (listens l) =
        ps.filter (listens l) ++ List.replicate (if listens l p then 1 else 0) p := by
    rw [List.filter_append]
    by_cases listen : listens l p = true <;> simp [listen]
  have others' (q : Phase) (hq : q ∉ ps ++ [p]) : receivers q (since ++ added) = [] := by
    have hq : q ∉ ps ∧ q ≠ p := by simpa using hq
    rw [receivers_append, h.others q hq.1, others q hq.2]
    rfl
  have begins' (q : Phase) (hq : q = .started ∨ q = .running) : BeginsActive q (since ++ added) := by
    by_cases heq : q = p
    · subst heq
      exact begins hq
    · exact (h.begins q hq).append_none (others q heq)
  refine ⟨⟨fun l hl => ?_, others' _ (failed_not_mem_of_ordered ordered), begins'⟩, fun ended => ?_⟩
  · refine List.IsPrefix.trans ?_ (ordered.filter (listens l))
    rw [hears l hl, listening l, List.prefix_append_right_inj]
    have le : (receivers p added).count l ≤ hs.count l := hprefix.sublist.count_le l
    rw [counted l hl] at le
    exact replicate_prefix le p
  · have entering : Path (Discipline.quiet (· = p)).allowed w.store.fresh
        ((Move.enter a p).apply w) (announce call a what w).2 := by
      subst hp
      exact Discipline.path_announce (keeps_while hcall _) h.stands.obeys
        (allowsAnnouncing_quiet rfl) (by rw [h.last]; exact next)
    have made : a.number < ((Move.enter a p).apply w).store.fresh := h.stands.made
    have entered : (((Move.enter a p).apply w).store.announcer a).last = some p := by
      rw [Move.apply_store, Move.announcer_applyStore]
      simp only [if_pos]
    refine ⟨h.stands.path path, ?_, ordered, fun l hl => ?_, others', begins'⟩
    · rw [entering.last_entered made entered]
      simp
    · rw [hears l hl, listening l, all ended, counted l hl]

end Telling

/-! ## Whom a context tells -/

/-- The context of a run: the listeners of the application are with it once it has been loaded, and it
is not as it was made once it has been refreshed. -/
structure Held (ls : List ListenerId) (c : ContextId) (loaded refreshed : Prop) (since : List Entry)
    (w : World σ) : Prop where
  made : c.number < w.store.fresh
  own : (w.store.context c).hosted = none
  distinct : w.store.Distinct c.number
  joined : loaded → ∀ l ∈ ls, l ∈ w.store.listenersOf c
  state : IsIn (w.store.context c).state c since
  renewed : refreshed → (w.store.context c).state ≠ .created

section Holding

variable {a : AnnouncerId} {ls : List ListenerId} {listens : ListenerId → Phase → Bool}
  {ps : List Phase} {c : ContextId} {loaded refreshed : Prop} {since added : List Entry}
  {w w' : World σ}

theorem Held.path {P : Phase → Prop} {first : Nat} (h : Held ls c loaded refreshed since w)
    (path : Path (Discipline.quiet P).allowed first w w')
    (history : w'.store.history = w.store.history ++ added) :
    Held ls c loaded refreshed (since ++ added) w' where
  made := Nat.lt_of_lt_of_le h.made path.fresh_le
  own := by rw [path.hosted h.made, h.own]
  distinct := path.distinct h.distinct
  joined hl l hmem := path.joined (h.joined hl l hmem)
  state := by
    obtain ⟨before, late, rfl, state⟩ := h.state
    exact ⟨before, late ++ added, by simp, (path.stateAfter h.made state.symm history).symm⟩
  renewed hr := by
    obtain ⟨before, late, -, state⟩ := h.state
    rw [path.stateAfter h.made state.symm history]
    exact stateAfter_append_ne_created (state ▸ h.renewed hr)

/-- The listeners of a context are distinct. -/
theorem Held.nodup (h : Held ls c loaded refreshed since w) : (w.store.listenersOf c).Nodup :=
  h.distinct.distinct c (Nat.le_refl _) h.own

/-- A phase that continues the order has not been announced yet. -/
theorem not_mem_of_ordered {p : Phase} (h : ps ++ [p] <+: Phase.ordinary) : p ∉ ps := by
  have distinct : (ps ++ [p]).Nodup := h.sublist.nodup (by decide)
  exact fun hmem => (List.nodup_append.1 distinct).2.2 p hmem p (List.mem_singleton_self p) rfl

variable {call : Caller σ} (hcall : ∀ p : Program σ, p.Quiet → Discipline.silent.Keeps (call p))
  {what : Announcement}

include hcall

/-- An early phase is heard of through the early channel. -/
theorem Told.announced_early (distinct : ls.Nodup) (h : Told a ls listens ps since w)
    (next : Phase.expectedAfter ps.getLast? = some what.phase) (early : what.phase.isEarly = true)
    (history : (announce call a what w).2.store.history = w.store.history ++ added) :
    Within ls listens (since ++ added) ∧
      ((announce call a what w).1 = .ok (.ok ()) →
        Told a ls listens (ps ++ [what.phase]) (since ++ added) (announce call a what w).2) := by
  have entered : ((Move.enter a what.phase).apply w).Obeys Program.Quiet := h.stands.obeys.apply trivial
  have handed : Hands what.phase (w.store.supporting what.phase ls)
      ((announce call a what w).1 = .ok (.ok ())) w (announce call a what w).2 := by
    rw [announce_early (by rw [h.last]; exact next) early]
    refine .none_trans (.move (.enter a what.phase) w rfl) ?_
    have delivered := hands_multicast hcall (.early a)
      ((((Move.enter a what.phase).apply w).store.announcer a).event what) entered
    rw [Announcer.event_phase] at delivered
    have early : (((Move.enter a what.phase).apply w).store.channel (.early a)).listeners = ls :=
      h.stands.early
    rw [early] at delivered
    exact delivered
  refine h.announced hcall what next handed (fun l hl => ?_) history (fun late => ?_)
  · rw [count_supporting distinct hl, h.stands.supports l hl]
  · rcases late with late | late <;> rw [late] at early <;> cases early

/-- A phase of a refreshed context is heard of through the context. -/
theorem Told.announced_late (h : Told a ls listens ps since w) (held : Held ls c True True since w)
    (next : Phase.expectedAfter ps.getLast? = some what.phase)
    (late : what = .started c ∨ what = .running c)
    (history : (announce call a what w).2.store.history = w.store.history ++ added) :
    Within ls listens (since ++ added) ∧
      ((announce call a what w).1 = .ok (.ok ()) →
        Told a ls listens (ps ++ [what.phase]) (since ++ added) (announce call a what w).2) := by
  have entered : ((Move.enter a what.phase).apply w).Obeys Program.Quiet := h.stands.obeys.apply trivial
  have publishes : announce call a what w = _ := announce_late (by rw [h.last]; exact next) late
  have context : ((((Move.enter a what.phase).apply w).store.announcer a).event what).context? =
      some c := by
    rcases late with rfl | rfl <;> rfl
  generalize he : (((Move.enter a what.phase).apply w).store.announcer a).event what = e at *
  have phase : e.phase = what.phase := he ▸ Announcer.event_phase ..
  have handed : Hands what.phase (w.store.supporting what.phase (w.store.listenersOf c))
      ((announce call a what w).1 = .ok (.ok ())) w (announce call a what w).2 := by
    rw [publishes]
    refine .none_trans (.move (.enter a what.phase) w rfl) ?_
    have published := hands_publish hcall (c := c) e entered held.own
    rw [phase] at published
    exact published
  refine h.announced hcall what next handed (fun l hl => ?_) history (fun _ => ?_)
  · rw [count_supporting held.nodup (held.joined trivial l hl), h.stands.supports l hl]
  · have keeps : (Discipline.within (· = e.phase)).Keeps (publish call c e) :=
      Discipline.keeps_publish (keeps_within hcall _) fun _ => rfl
    obtain ⟨more, hmore, -⟩ := (keeps _ entered).history
    rw [publishes, hmore, Move.apply_store, Move.history_applyStore, List.append_assoc] at history
    obtain rfl := List.append_cancel_left history
    have fresh : receivers what.phase (since ++ [.entered a what.phase]) = [] := by
      rw [receivers_append, h.others _ (not_mem_of_ordered (Phase.prefix_snoc h.ordered next))]
      rfl
    have begins := publish_begins hcall entered held.own (held.state.snoc rfl)
      (held.renewed trivial) context (phase ▸ fresh) hmore
    rw [phase, List.append_assoc] at begins
    exact begins

/-- Attaching listeners to a context tells nobody of a phase. -/
theorem attachListeners_silent (ls : List ListenerId) (c : ContextId) {m : World σ}
    (hm : m.Obeys Program.Quiet) (p : Phase) :
    Receives p [] m (attachListeners call c ls m).2 ∧
      Path (Discipline.quiet (· = .contextLoaded)).allowed m.store.fresh m
        (attachListeners call c ls m).2 := by
  have within : (Discipline.within fun _ => False).Keeps (attachListeners call c ls) :=
    Discipline.keeps_attachListeners (keeps_within hcall _) (fun _ => trivial) ls
  have quiet : (Discipline.quiet (· = .contextLoaded)).Keeps (attachListeners call c ls) :=
    Discipline.keeps_attachListeners (keeps_while hcall _) (fun _ => rfl) ls
  exact ⟨.of_undelivered (within m hm) fun _ _ never => never.elim, quiet m hm⟩

/-- A context that is announced as loaded gets the listeners, and then tells them. -/
theorem Told.announced_loaded (distinct : ls.Nodup) (h : Told a ls listens ps since w)
    (held : Held ls c loaded refreshed since w)
    (next : Phase.expectedAfter ps.getLast? = some .contextLoaded)
    (history : (announce call a (.contextLoaded c) w).2.store.history = w.store.history ++ added) :
    Within ls listens (since ++ added) ∧
      ((announce call a (.contextLoaded c) w).1 = .ok (.ok ()) →
        Told a ls listens (ps ++ [.contextLoaded]) (since ++ added)
          (announce call a (.contextLoaded c) w).2 ∧
        ∀ l ∈ ls, l ∈ (announce call a (.contextLoaded c) w).2.store.listenersOf c) := by
  have entered : ((Move.enter a .contextLoaded).apply w).Obeys Program.Quiet :=
    h.stands.obeys.apply trivial
  have expected : Phase.expectedAfter (w.store.announcer a).last = some .contextLoaded := by
    rw [h.last]
    exact next
  have enters : Path (Discipline.quiet (· = .contextLoaded)).allowed w.store.fresh w
      ((Move.enter a .contextLoaded).apply w) :=
    .single (.inr expected) rfl (by simp [Move.turn?])
  have told : Receives .contextLoaded [] w ((Move.enter a .contextLoaded).apply w) := .move _ w rfl
  have loads : announce call a (.contextLoaded c) w = _ := announce_loaded expected
  rw [(h.stands.path enters).application, Action.bind_apply] at loads
  obtain ⟨untold, attaching⟩ := attachListeners_silent hcall ls c entered .contextLoaded
  rcases hattach : attachListeners call c ls ((Move.enter a .contextLoaded).apply w) with
    ⟨stop | _, m⟩ <;> rw [hattach] at loads untold attaching
  · -- the context did not get them all
    have handed : Hands .contextLoaded (w.store.supporting .contextLoaded ls)
        ((announce call a (.contextLoaded c) w).1 = .ok (.ok ())) w
        (announce call a (.contextLoaded c) w).2 := by
      rw [loads]
      exact .none (told.trans untold) (by simp)
    have counted : ∀ l ∈ ls, (w.store.supporting .contextLoaded ls).count l =
        if listens l .contextLoaded then 1 else 0 := fun l hl => by
      rw [count_supporting distinct hl, h.stands.supports l hl]
    have both := h.announced hcall (.contextLoaded c) next handed counted history
      (by simp [Announcement.phase])
    exact ⟨both.1, fun ended => by rw [loads] at ended; cases ended⟩
  · have joined := attachListeners_joined hcall ls entered hattach
    have path := enters.trans (attaching.weaken (fun _ h => h) enters.fresh_le)
    have obeys := path.obeys h.stands.obeys
    obtain ⟨between, hbetween, -⟩ := path.history
    have held' := held.path path hbetween
    generalize he : (((Move.enter a .contextLoaded).apply w).store.announcer a).event
      (.contextLoaded c) = e at loads
    have phase : e.phase = .contextLoaded := he ▸ Announcer.event_phase ..
    have handed : Hands .contextLoaded (m.store.supporting .contextLoaded (m.store.listenersOf c))
        ((announce call a (.contextLoaded c) w).1 = .ok (.ok ())) w
        (announce call a (.contextLoaded c) w).2 := by
      rw [loads]
      have published := hands_publish hcall (c := c) e obeys held'.own
      rw [phase] at published
      exact .none_trans (told.trans untold) published
    have counted : ∀ l ∈ ls, (m.store.supporting .contextLoaded (m.store.listenersOf c)).count l =
        if listens l .contextLoaded then 1 else 0 := fun l hl => by
      rw [count_supporting held'.nodup (joined l hl), (h.stands.path path).supports l hl]
    have both := h.announced hcall (.contextLoaded c) next handed counted history
      (by simp [Announcement.phase])
    refine ⟨both.1, fun ended => ⟨both.2 ended, fun l hl => ?_⟩⟩
    have publishing : (Discipline.quiet (· = .contextLoaded)).Keeps (publish call c e) :=
      Discipline.keeps_publish (keeps_while hcall _) fun _ => phase
    rw [loads]
    exact (publishing m obeys).joined (joined l hl)

end Holding

end Startup
