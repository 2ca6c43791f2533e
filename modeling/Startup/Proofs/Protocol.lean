/-
The protocol of an announcer. Over its whole life, whatever listeners do while an event is still on
its way to them, it enters the ordinary phases in their order, and then perhaps the failure, which is
the end. A call that does not fit is answered before it has any effect.
-/
import Startup.Proofs.Execution

namespace Startup

variable {σ : Type}

/-! ## Phases in their order -/

namespace Phase

/-- Ordinary phases in their order from the first, and perhaps one failure behind them. -/
def Lawful (phases : List Phase) : Prop :=
  phases <+: ordinary ∨ ∃ before, before <+: ordinary ∧ phases = before ++ [.failed]

/-- After some of the ordinary phases the next one of their order is expected. -/
theorem expectedAfter_take :
    ∀ n < ordinary.length + 1, expectedAfter (ordinary.take n).getLast? = ordinary[n]? := by
  decide

theorem expectedAfter_ordinary {phases : List Phase} (h : phases <+: ordinary) :
    expectedAfter phases.getLast? = ordinary[phases.length]? := by
  have htake : phases = ordinary.take phases.length := List.prefix_iff_eq_take.1 h
  have hlen : phases.length < ordinary.length + 1 := Nat.lt_succ_of_le h.length_le
  conv => lhs; rw [htake]
  exact expectedAfter_take _ hlen

/-- An ordinary phase that may come next continues the order. -/
theorem prefix_snoc {phases : List Phase} (h : phases <+: ordinary) {p : Phase}
    (next : expectedAfter phases.getLast? = some p) : phases ++ [p] <+: ordinary := by
  rw [expectedAfter_ordinary h] at next
  obtain ⟨rest, hrest⟩ := h
  rw [← hrest, List.getElem?_append_right (Nat.le_refl _), Nat.sub_self] at next
  cases rest with
  | nil => cases next
  | cons q rest =>
    obtain rfl := Option.some.inj next
    exact ⟨rest, by rw [← hrest, List.append_assoc]; rfl⟩

/-- Where the failure has been announced, it came last. -/
theorem Lawful.prefix_of_last {phases : List Phase} (h : Lawful phases)
    (last : phases.getLast? ≠ some .failed) : phases <+: ordinary := by
  rcases h with h | ⟨before, -, rfl⟩
  · exact h
  · simp at last

/-- A phase may be entered where it comes next in the order, and the failure where it is the first. -/
theorem Lawful.snoc {phases : List Phase} (h : Lawful phases) {p : Phase}
    (next : p = .failed ∧ phases.getLast? ≠ some .failed ∨ expectedAfter phases.getLast? = some p) :
    Lawful (phases ++ [p]) := by
  rcases next with ⟨rfl, last⟩ | next
  · exact .inr ⟨phases, h.prefix_of_last last, rfl⟩
  · have last : phases.getLast? ≠ some .failed := fun last => by rw [last] at next; cases next
    exact .inl (prefix_snoc (h.prefix_of_last last) next)

end Phase

/-! ## The phases of an announcer -/

/-- The phase that an entry says an announcer entered. -/
def Entry.phaseOf? (a : AnnouncerId) : Entry → Option Phase
  | .entered b p => if b = a then some p else none
  | _ => none

/-- The phases that an announcer entered, in order. -/
def phasesOf (a : AnnouncerId) (h : List Entry) : List Phase := h.filterMap (·.phaseOf? a)

theorem phasesOf_append (a : AnnouncerId) (h₁ h₂ : List Entry) :
    phasesOf a (h₁ ++ h₂) = phasesOf a h₁ ++ phasesOf a h₂ :=
  List.filterMap_append ..

/-- The only move that adds to the phases of an announcer is its entering one. -/
theorem phasesOf_entries {move : Move σ} {s : Store} (enabled : move.Enabled s) (a : AnnouncerId) :
    phasesOf a (move.entries s) =
      match move with
      | .enter b p => if b = a then [p] else []
      | _ => [] := by
  cases move <;> simp only [Move.entries, phasesOf, List.filterMap_cons, List.filterMap_nil,
    Entry.phaseOf?]
  case record e => cases e <;> first | rfl | exact enabled.elim
  case enter b p => by_cases hb : b = a <;> simp [hb]

/-- An announcer and the phases that it has entered since it was made. -/
structure KeepsOrder (a : AnnouncerId) (since : List Entry) (w : World σ) : Prop where
  made : a.number < w.store.fresh
  lawful : Phase.Lawful (phasesOf a since)
  last : (w.store.announcer a).last = (phasesOf a since).getLast?

/-- An announcer begins before all phases. -/
theorem KeepsOrder.start {a : AnnouncerId} {move : Move σ} {m : World σ}
    (enabled : move.Enabled m.store) (made : move.entries m.store = [.madeAnnouncer a]) :
    KeepsOrder a [] (move.apply m) := by
  cases move <;> simp [Move.entries] at made
  case record e => subst made; exact enabled.elim
  case makeAnnouncer app args =>
    subst made
    refine ⟨?_, .inl List.nil_prefix, ?_⟩
    · simp [Move.numbers]
    · simp [Move.announcer_applyStore, phasesOf]

/-- Every move keeps the phases in their order. -/
theorem KeepsOrder.step {a : AnnouncerId} {move : Move σ} {m : World σ} {since : List Entry}
    (enabled : move.Enabled m.store) (h : KeepsOrder a since m) :
    KeepsOrder a (since ++ move.entries m.store) (move.apply m) := by
  obtain ⟨made, lawful, last⟩ := h
  have made' : a.number < (move.apply m).store.fresh := by simp; omega
  have hphases := phasesOf_entries enabled a
  refine ⟨made', ?_, ?_⟩ <;>
    simp only [phasesOf_append, hphases, Move.apply_store, Move.announcer_applyStore]
  · cases move <;> simp only [List.append_nil, lawful]
    case enter b p =>
      split
      · rename_i hb
        subst hb
        exact lawful.snoc (by rw [← last]; exact enabled)
      · rwa [List.append_nil]
  · cases move <;> simp only [List.append_nil, last]
    case makeAnnouncer app args =>
      have : a ≠ ⟨m.store.fresh⟩ := AnnouncerId.ne_next made
      simp [this, last]
    case enter b p =>
      by_cases hb : b = a
      · simp [hb]
      · simp [hb, Ne.symm hb, last]

/-! ## Calls -/

/-- What follows an entry on a path. -/
theorem Path.history_behind {allowed : Move σ → Prop} {first : Nat} {move : Move σ} {w w' : World σ}
    {e : Entry} (h : Path allowed first (move.apply w) w') (entry : move.entries w.store = [e]) :
    ∃ added, w'.store.history = w.store.history ++ e :: added := by
  obtain ⟨added, hadded, -⟩ := h.history
  refine ⟨added, ?_⟩
  rw [hadded, Move.apply_store, Move.history_applyStore, entry, List.append_assoc]
  rfl

/-- A call that fits enters its phase before all else. -/
theorem announce_enters (depth : Nat) {a : AnnouncerId} {what : Announcement} {w : World σ}
    (next : Phase.expectedAfter (w.store.announcer a).last = some what.phase) :
    ∃ added, (announce (Program.execute depth) a what w).2.store.history =
      w.store.history ++ .entered a what.phase :: added := by
  have path := Discipline.path_announce (Discipline.execute_free depth) (Discipline.obeys_free w)
    (allowsAnnouncing_free _) next
  exact path.history_behind rfl

theorem announceFailure_enters (depth : Nat) {a : AnnouncerId} {c : Option ContextId} {cause : Cause}
    {w : World σ} (first : (w.store.announcer a).last ≠ some .failed) :
    ∃ added, (announceFailure (Program.execute depth) a c cause w).2.store.history =
      w.store.history ++ .entered a .failed :: added := by
  have path := Discipline.path_announceFailure (Discipline.execute_free depth) c cause
    (Discipline.obeys_free w) (fun e _ => allowsReporting_free e) first
  exact path.history_behind rfl

theorem announceFailure_again {call : Caller σ} {a : AnnouncerId} {c : Option ContextId} {cause : Cause}
    {w : World σ} (h : (w.store.announcer a).last = some .failed) :
    announceFailure call a c cause w =
      (.ok (), { w with store := w.store.record (.logged .warn
        ("Startup failure already reported, ignoring: " ++ cause.error.message)) }) := by
  rw [announceFailure_apply, if_pos h]
  simp [Move.apply, Move.applyStore, Move.change, Move.entries, Move.numbers, Store.record]

/-! ## The protocol -/

/-- Whatever has run since an announcer was made, it has entered phases in their order, and perhaps
the failure at the end. In any world the phase that may come next is entered, and any other is refused
and leaves the world as it is; the first failure is entered, and any other leaves a line in the log and
nothing else. -/
theorem announcer_keeps_order {w₀ w : World σ} (reached : Reaches w₀ w) {a : AnnouncerId}
    {before since : List Entry}
    (made : w.store.history = w₀.store.history ++ before ++ .madeAnnouncer a :: since) :
    Phase.Lawful (phasesOf a since) ∧
    (w.store.announcer a).last = (phasesOf a since).getLast? ∧
    ∀ m : World σ,
      (∀ depth what, Phase.expectedAfter (m.store.announcer a).last = some what.phase →
        ∃ added, (announce (Program.execute depth) a what m).2.store.history =
          m.store.history ++ .entered a what.phase :: added) ∧
      (∀ (call : Caller σ) what, Phase.expectedAfter (m.store.announcer a).last ≠ some what.phase →
        announce call a what m =
          (.ok (.error (.phaseOrder (m.store.announcer a).previous what.phase)), m)) ∧
      (∀ depth c cause, (m.store.announcer a).last ≠ some .failed →
        ∃ added, (announceFailure (Program.execute depth) a c cause m).2.store.history =
          m.store.history ++ .entered a .failed :: added) ∧
      (∀ (call : Caller σ) c cause, (m.store.announcer a).last = some .failed →
        announceFailure call a c cause m =
          (.ok (), { m with store := m.store.record (.logged .warn
            ("Startup failure already reported, ignoring: " ++ cause.error.message)) })) := by
  have order : KeepsOrder a since w :=
    reached.path.since (fun _ _ enabled => KeepsOrder.start enabled)
      (fun _ _ _ _ enabled => KeepsOrder.step enabled) made
  refine ⟨order.lawful, order.last, fun m => ⟨?_, ?_, ?_, ?_⟩⟩
  · exact fun depth what next => announce_enters depth next
  · exact fun call what other => announce_refused other
  · exact fun depth c cause first => announceFailure_enters depth first
  · exact fun call c cause again => announceFailure_again again

/-- A listener that announces a phase while the first one is on its way to it is refused. -/
def interrupted : Program Unit :=
  .newListener {} (fun _ => .announce ⟨1⟩ .starting fun _ => .done) (fun _ => .done) fun l =>
  .newAnnouncer { name := "", listeners := [l] } [] fun a =>
  .announce a .starting fun _ => .announceFailure a none .contextUnavailable .done

theorem announcer_keeps_order_interrupted :
    ∃ since, Phase.Lawful (phasesOf ⟨1⟩ since) ∧ phasesOf ⟨1⟩ since = [.starting, .failed] := by
  obtain ⟨since, made, phases⟩ : ∃ since,
      (Program.execute 3 interrupted { memory := () }).2.store.history =
        [] ++ [] ++ .madeAnnouncer ⟨1⟩ :: since ∧
      phasesOf ⟨1⟩ since = [.starting, .failed] := ⟨_, rfl, rfl⟩
  exact ⟨since, (announcer_keeps_order (.program .start 3 interrupted) made).1, phases⟩

end Startup
