/-
Pairs of keys and values. Where each key stands once, a look-up finds exactly the pairs that are there,
and pairs that are put one after the other are kept as they are.
-/
import Startup.Config.Source
import Mathlib.Data.List.Nodup

namespace Startup

theorem mem_of_lookup {α : Type} {entries : List (String × α)} {key : String} {a : α}
    (h : entries.lookup key = some a) : (key, a) ∈ entries := by
  obtain ⟨before, after, rfl, -⟩ := List.lookup_eq_some_iff.1 h
  exact List.mem_append_right _ (List.mem_cons_self ..)

/-- Where each key stands once, a key has the value that stands with it. -/
theorem lookup_iff_mem {α : Type} {entries : List (String × α)} (once : (entries.map (·.1)).Nodup)
    {key : String} {a : α} : entries.lookup key = some a ↔ (key, a) ∈ entries := by
  induction entries with
  | nil => simp
  | cons e rest ih =>
    obtain ⟨k, b⟩ := e
    obtain ⟨hnew, hrest⟩ := List.nodup_cons.1 once
    rw [List.lookup_cons, List.mem_cons]
    by_cases hk : key = k
    · subst hk
      have absent : (key, a) ∉ rest := fun h => hnew (List.mem_map.2 ⟨_, h, rfl⟩)
      simp [absent, eq_comm]
    · have : (key == k) = false := by simpa using hk
      simp [this, hk, ih hrest]

namespace Properties

theorem put_of_not_mem {key : String} (value : Value) : ∀ {ps : Properties}, key ∉ ps.map (·.1) →
    ps.put key value = ps ++ [(key, value)]
  | [], _ => rfl
  | (k, v) :: rest, h => by
    have other : k ≠ key := fun heq => h (heq ▸ List.mem_cons_self ..)
    have later : key ∉ rest.map (·.1) := fun hmem => h (List.mem_cons_of_mem _ hmem)
    rw [put, if_neg other, put_of_not_mem value later, List.cons_append]

theorem foldl_put : ∀ {pairs : List (String × Value)} {ps : Properties}, ((ps ++ pairs).map (·.1)).Nodup →
    pairs.foldl (fun ps (k, v) => ps.put k v) ps = ps ++ pairs
  | [], _, _ => (List.append_nil _).symm
  | (k, v) :: rest, ps, once => by
    rw [List.append_cons] at once
    have absent : k ∉ ps.map (·.1) := by
      intro hmem
      rw [List.map_append, List.map_append, List.nodup_append, List.nodup_append] at once
      exact once.1.2.2 k hmem k (by simp) rfl
    have first : rest.foldl (fun ps (k, v) => ps.put k v) (ps.put k v) = ps ++ [(k, v)] ++ rest := by
      rw [put_of_not_mem v absent]
      exact foldl_put once
    rw [List.append_cons]
    exact first

/-- Pairs of different keys are kept as they are. -/
theorem ofPairs_of_nodup {pairs : List (String × Value)} (once : (pairs.map (·.1)).Nodup) :
    ofPairs pairs = pairs :=
  show _ = [] ++ pairs from foldl_put once

end Properties

end Startup
