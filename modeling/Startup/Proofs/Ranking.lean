/-
Look-up by priority. In whatever order sources are added to an environment, it asks them by descending
priority, and those of one priority in the order they were added. So a key has the value of the one
source that has it and that no other source with the key goes before; this value alone is read, whether
or not it can be read as what is asked for.
-/
import Startup.Config.Environment

namespace Startup

namespace Environment

/-! ## The order of the sources -/

/-- Sources by descending priority, those of one priority in the order they were added. -/
structure Ranked (sources added : List Source) : Prop where
  perm : sources.Perm added
  sorted : sources.Pairwise fun s t => t.priority ≤ s.priority
  stable : ∀ p, sources.filter (·.priority = p) = added.filter (·.priority = p)

theorem insertSource_perm (s : Source) : ∀ sources : List Source,
    (insertSource s sources).Perm (sources ++ [s])
  | [] => .refl _
  | t :: rest => by
    unfold insertSource
    split
    · exact (List.perm_append_singleton s (t :: rest)).symm
    · exact (insertSource_perm s rest).cons t

theorem insertSource_sorted (s : Source) : ∀ {sources : List Source},
    (sources.Pairwise fun s t => t.priority ≤ s.priority) →
      (insertSource s sources).Pairwise fun s t => t.priority ≤ s.priority
  | [], _ => List.pairwise_singleton ..
  | t :: rest, sorted => by
    obtain ⟨first, later⟩ := List.pairwise_cons.1 sorted
    unfold insertSource
    split
    · rename_i lower
      refine List.pairwise_cons.2 ⟨fun u hu => ?_, sorted⟩
      rcases List.mem_cons.1 hu with rfl | hu
      · omega
      · have := first u hu
        omega
    · refine List.pairwise_cons.2 ⟨fun u hu => ?_, insertSource_sorted s later⟩
      rcases List.mem_append.1 ((insertSource_perm s rest).mem_iff.1 hu) with hu | hu
      · exact first u hu
      · rw [List.mem_singleton.1 hu]
        omega

/-- Among the sources of one priority a new one is the last. -/
theorem filter_insertSource (s : Source) (p : Int) : ∀ {sources : List Source},
    (sources.Pairwise fun s t => t.priority ≤ s.priority) →
      (insertSource s sources).filter (·.priority = p) = (sources ++ [s]).filter (·.priority = p)
  | [], _ => rfl
  | t :: rest, sorted => by
    obtain ⟨first, later⟩ := List.pairwise_cons.1 sorted
    unfold insertSource
    split
    · rename_i lower
      by_cases hs : s.priority = p
      · -- all that are there have a lower priority
        have none : (t :: rest).filter (·.priority = p) = [] := by
          refine List.filter_eq_nil_iff.2 fun u hu => ?_
          rcases List.mem_cons.1 hu with rfl | hu
          · simp only [decide_eq_true_eq]
            omega
          · have := first u hu
            simp only [decide_eq_true_eq]
            omega
        rw [List.filter_append, List.filter_cons, none]
        simp [hs]
      · simp [List.filter_append, List.filter_cons, hs]
    · rw [List.cons_append, List.filter_cons, List.filter_cons, filter_insertSource s p later]

theorem Ranked.add {env : Environment} {added : List Source} (h : Ranked env.sources added)
    (s : Source) : Ranked (env.add s).sources (added ++ [s]) where
  perm := (insertSource_perm s env.sources).trans (h.perm.append_right [s])
  sorted := insertSource_sorted s h.sorted
  stable p := by
    show (insertSource s env.sources).filter (·.priority = p) = _
    rw [filter_insertSource s p h.sorted, List.filter_append, List.filter_append, h.stable]

theorem Ranked.foldl_add : ∀ (more : List Source) {env : Environment} {added : List Source},
    Ranked env.sources added → Ranked (more.foldl Environment.add env).sources (added ++ more)
  | [], _, added, h => by rwa [List.append_nil]
  | s :: more, _, added, h => by
    have hmore := Ranked.foldl_add more (h.add s)
    rwa [List.append_assoc] at hmore

theorem ranked_ofSources (added : List Source) : Ranked (ofSources added).sources added := by
  have empty : Ranked ({} : Environment).sources [] := ⟨.refl _, .nil, fun _ => rfl⟩
  exact Ranked.foldl_add added empty

/-- Sources in descending order are decided by those of each priority. -/
theorem eq_of_sorted : ∀ {sources sources' : List Source},
    (sources.Pairwise fun s t => t.priority ≤ s.priority) →
    (sources'.Pairwise fun s t => t.priority ≤ s.priority) →
    (∀ p, sources.filter (·.priority = p) = sources'.filter (·.priority = p)) → sources = sources'
  | [], [], _, _, _ => rfl
  | [], t :: rest', _, _, same => by
    have := same t.priority
    simp at this
  | s :: rest, [], _, _, same => by
    have := same s.priority
    simp at this
  | s :: rest, t :: rest', sorted, sorted', same => by
    obtain ⟨first, later⟩ := List.pairwise_cons.1 sorted
    obtain ⟨first', later'⟩ := List.pairwise_cons.1 sorted'
    -- each head is among the sources of its priority on the other side
    have below : s.priority ≤ t.priority := by
      have hs : s ∈ (t :: rest').filter (·.priority = s.priority) := by
        rw [← same s.priority]
        simp
      rcases List.mem_cons.1 (List.mem_filter.1 hs).1 with rfl | hs
      · exact Int.le_refl _
      · exact first' s hs
    have above : t.priority ≤ s.priority := by
      have ht : t ∈ (s :: rest).filter (·.priority = t.priority) := by
        rw [same t.priority]
        simp
      rcases List.mem_cons.1 (List.mem_filter.1 ht).1 with rfl | ht
      · exact Int.le_refl _
      · exact first t ht
    have equal : t.priority = s.priority := Int.le_antisymm above below
    have heads := same s.priority
    simp only [List.filter_cons, equal, decide_true, if_true] at heads
    obtain rfl := (List.cons.inj heads).1
    refine congrArg (s :: ·) (eq_of_sorted later later' fun p => ?_)
    have tails := same p
    simp only [List.filter_cons] at tails
    split at tails
    · exact (List.cons.inj tails).2
    · exact tails

/-- The order is decided by that of the sources of each priority among themselves. -/
theorem Ranked.unique {sources sources' added added' : List Source} (h : Ranked sources added)
    (h' : Ranked sources' added')
    (same : ∀ p, added.filter (·.priority = p) = added'.filter (·.priority = p)) :
    sources = sources' :=
  eq_of_sorted h.sorted h'.sorted fun p => by rw [h.stable, h'.stable, same]

/-! ## The winning source -/

/-- The source at a place among those added has a value for the key, and no other source that has the
key is of a higher priority, or of the same one and added earlier. -/
def Wins (added : List Source) (key : String) (place : Nat) (v : Value) : Prop :=
  ∃ s, added[place]? = some s ∧ s.get? key = some v ∧
    ∀ other t, added[other]? = some t → (t.get? key).isSome →
      ¬ (s.priority < t.priority ∨ t.priority = s.priority ∧ other < place)

/-- Of two sources one goes before the other, so there is one winner at most. -/
theorem Wins.unique {added : List Source} {key : String} {i j : Nat} {v u : Value}
    (h : Wins added key i v) (h' : Wins added key j u) : i = j ∧ v = u := by
  obtain ⟨s, hs, hv, first⟩ := h
  obtain ⟨t, ht, hu, first'⟩ := h'
  have later := first j t ht (by simp [hu])
  have later' := first' i s hs (by simp [hv])
  obtain rfl : i = j := by omega
  rw [hs] at ht
  obtain rfl := Option.some.inj ht
  exact ⟨rfl, Option.some.inj (hv.symm.trans hu)⟩

/-- The first of the ranked sources that has the key wins. -/
theorem Ranked.wins {sources added : List Source} (h : Ranked sources added) {key : String} {v : Value}
    (found : sources.findSome? (·.get? key) = some v) : ∃ place, Wins added key place v := by
  obtain ⟨before, s, after, rfl, hv, missing⟩ := List.findSome?_eq_some_iff.1 found
  -- among the sources of its priority it stands at the same place in the order of addition
  have stable := h.stable s.priority
  rw [List.filter_append, List.filter_cons, if_pos (by simp)] at stable
  obtain ⟨early, rest, rfl, hearly, hrest⟩ := List.filter_eq_append_iff.1 stable.symm
  obtain ⟨between, late, rfl, others, -, -⟩ := List.filter_eq_cons_iff.1 hrest
  have place : (early ++ (between ++ s :: late))[early.length + between.length]? = some s := by
    rw [← List.append_assoc, List.getElem?_append_right (by simp)]
    simp
  refine ⟨early.length + between.length, s, place, hv, fun other t ht has => ?_⟩
  rintro (higher | ⟨equal, earlier⟩)
  · have mem : t ∈ before ++ s :: after := h.perm.mem_iff.2 (List.mem_of_getElem? ht)
    obtain ⟨-, sorted, -⟩ := List.pairwise_append.1 h.sorted
    rcases List.mem_append.1 mem with mem | mem
    · simp [missing t mem] at has
    rcases List.mem_cons.1 mem with rfl | mem
    · exact Int.lt_irrefl _ higher
    · have := (List.pairwise_cons.1 sorted).1 t mem
      omega
  · have mem : t ∈ early ++ between := by
      rw [← List.append_assoc, List.getElem?_append_left (by simpa using earlier)] at ht
      exact List.mem_of_getElem? ht
    rcases List.mem_append.1 mem with mem | mem
    · have asked : t ∈ before.filter (·.priority = s.priority) := by
        rw [← hearly]
        exact List.mem_filter.2 ⟨mem, by simpa using equal⟩
      simp [missing t (List.mem_filter.1 asked).1] at has
    · exact others t mem (by simpa using equal)

theorem get?_ofSources_iff {added : List Source} {key : String} {v : Value} :
    (ofSources added).get? key = some v ↔ ∃ place, Wins added key place v := by
  have ranked := ranked_ofSources added
  constructor
  · exact ranked.wins
  · rintro ⟨place, wins⟩
    obtain ⟨s, hs, hv, -⟩ := id wins
    have mem : s ∈ (ofSources added).sources := ranked.perm.mem_iff.2 (List.mem_of_getElem? hs)
    have has : ((ofSources added).sources.findSome? (·.get? key)).isSome :=
      List.findSome?_isSome_iff.2 ⟨s, mem, by rw [hv]; rfl⟩
    obtain ⟨u, hu⟩ := Option.isSome_iff_exists.1 has
    obtain ⟨other, wins'⟩ := ranked.wins hu
    rw [(wins.unique wins').2]
    exact hu

theorem get?_ofSources_none {added : List Source} {key : String} :
    (ofSources added).get? key = none ↔ ∀ s ∈ added, s.get? key = none := by
  have perm := (ranked_ofSources added).perm
  unfold Environment.get?
  rw [List.findSome?_eq_none_iff]
  exact ⟨fun h s hs => h s (perm.mem_iff.2 hs), fun h s hs => h s (perm.mem_iff.1 hs)⟩

/-! ## Reading -/

/-- Whatever a key is asked for as, this value is read, and if it cannot be read so, that is the
answer. -/
structure Reads (env : Environment) (key : String) (v : Value) : Prop where
  contained : env.contains key = true
  text : env.getText? key = some v.display
  textOr : ∀ fallback, env.getTextOr key fallback = v.display
  int : env.getInt? key = v.asInt?
  bool : env.getBool? key = v.asBool?
  boolOr : ∀ fallback, env.getBoolOr key fallback = v.asBool?.getD fallback
  texts : env.getTexts? key = v.asTexts?
  triState : env.getTriState key =
    v.asBool?.elim (.error (.binding key v.display "a boolean")) (.ok ∘ some)
  property : ∀ fallback, env.getPropertyOr key fallback =
    v.asBool?.elim (.error (.binding key v.display "a boolean")) (.ok ∘ some)

theorem reads_of_get? {env : Environment} {key : String} {v : Value} (h : env.get? key = some v) :
    Reads env key v := by
  have triState : env.getTriState key =
      v.asBool?.elim (.error (.binding key v.display "a boolean")) (.ok ∘ some) := by
    simp only [getTriState, h]
    cases v.asBool? <;> rfl
  refine ⟨by simp [contains, h], by simp [getText?, h], fun _ => by simp [getTextOr, getText?, h],
    by simp [getInt?, h], by simp [getBool?, h], fun _ => by simp [getBoolOr, getBool?, h],
    by simp [getTexts?, h], triState, fun fallback => ?_⟩
  unfold getPropertyOr
  rw [triState]
  cases v.asBool? <;> rfl

/-! ## Look-up -/

/-- However sources are added, they are asked by descending priority and those of one priority in the
order they were added. A key has the value of the source that has it and that no other source with the
key goes before, and none if no source has the key; this value is read whether or not it can be.
Sources added in another order give the same look-up order if those of each priority are added in the
same one. -/
theorem lookup_by_priority (added : List Source) :
    Ranked (ofSources added).sources added ∧
    (∀ key v, (ofSources added).get? key = some v ↔ ∃ place, Wins added key place v) ∧
    (∀ key, (ofSources added).get? key = none ↔ ∀ s ∈ added, s.get? key = none) ∧
    (∀ key place v, Wins added key place v → Reads (ofSources added) key v) ∧
    ∀ added' : List Source,
      (∀ p, added'.filter (·.priority = p) = added.filter (·.priority = p)) →
        (ofSources added').sources = (ofSources added).sources := by
  refine ⟨ranked_ofSources added, fun key v => get?_ofSources_iff, fun key => get?_ofSources_none,
    fun key place v wins => ?_, fun added' same => ?_⟩
  · exact reads_of_get? (get?_ofSources_iff.2 ⟨place, wins⟩)
  · exact (ranked_ofSources added').unique (ranked_ofSources added) same

/-- A source with one key. -/
def single (priority : Int) (v : Value) : Source := .ofPairs "" priority [("k", v)]

/-- The earlier one of the two sources of the highest priority has no number, and no other source's
number is read in its place. -/
theorem lookup_by_priority_unreadable :
    let added := [single 1 (.int 1), single 2 (.text "x"), single 2 (.int 2)]
    Wins added "k" 1 (.text "x") ∧ (ofSources added).getInt? "k" = none ∧
      (ofSources [single 2 (.text "x"), single 1 (.int 1), single 2 (.int 2)]).sources =
        (ofSources added).sources := by
  intro added
  have wins : Wins added "k" 1 (.text "x") := by
    refine ⟨single 2 (.text "x"), rfl, rfl, fun other t ht _ => ?_⟩
    match other, ht with
    | 0, ht => obtain rfl := Option.some.inj ht; decide
    | 1, ht => obtain rfl := Option.some.inj ht; decide
    | 2, ht => obtain rfl := Option.some.inj ht; decide
  obtain ⟨-, -, -, reads, reordered⟩ := lookup_by_priority added
  refine ⟨wins, (reads "k" 1 _ wins).int.trans (by decide +kernel), reordered _ fun p => ?_⟩
  by_cases h₁ : (1 : Int) = p <;> by_cases h₂ : (2 : Int) = p <;>
    simp [added, single, Source.ofPairs, Source.ofProperties, h₁, h₂]
  omega

/-- An environment with one property. -/
def only (key : String) (v : Value) : Environment := .ofSources [.ofPairs "" 0 [(key, v)]]

theorem get?_only_self (key : String) (v : Value) : (only key v).get? key = some v := by
  show [Source.ofPairs "" 0 [(key, v)]].findSome? (·.get? key) = some v
  rw [List.findSome?_singleton]
  show List.lookup key [(key, v)] = some v
  rw [List.lookup_cons, beq_self_eq_true]

theorem get?_only_of_ne {key other : String} (h : other ≠ key) (v : Value) :
    (only key v).get? other = none := by
  show [Source.ofPairs "" 0 [(key, v)]].findSome? (·.get? other) = none
  rw [List.findSome?_singleton]
  show List.lookup other [(key, v)] = none
  rw [List.lookup_cons, beq_false_of_ne h]
  rfl

end Environment

end Startup
