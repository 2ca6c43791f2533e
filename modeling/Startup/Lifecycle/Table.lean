/-
Tables: objects by the key that names them. Every key names an object; one that was never written
is in its initial state.
-/
namespace Startup

structure Table (κ α : Type) where
  entries : List (κ × α) := []

namespace Table

variable {κ α : Type} [DecidableEq κ] [Inhabited α]

instance : Inhabited (Table κ α) := ⟨{}⟩

def get (t : Table κ α) (k : κ) : α := (t.entries.lookup k).getD default

/-- The entries with `a` under `k`, in place of what was there. -/
def put (k : κ) (a : α) : List (κ × α) → List (κ × α)
  | [] => [(k, a)]
  | (j, b) :: rest => if j = k then (k, a) :: rest else (j, b) :: put k a rest

def set (t : Table κ α) (k : κ) (a : α) : Table κ α := ⟨put k a t.entries⟩

def modify (t : Table κ α) (k : κ) (f : α → α) : Table κ α := t.set k (f (t.get k))

omit [Inhabited α] in
theorem lookup_put (k : κ) (a : α) (es : List (κ × α)) (j : κ) :
    (put k a es).lookup j = if j = k then some a else es.lookup j := by
  induction es with
  | nil =>
    by_cases h : j = k
    · simp [put, h]
    · simp [put, h, List.lookup_cons, beq_eq_false_iff_ne.2 h]
  | cons e rest ih =>
    obtain ⟨i, b⟩ := e
    by_cases hi : i = k <;> by_cases hj : j = i
    · simp [put, ← hi, hj]
    · simp [put, ← hi, hj, List.lookup_cons, beq_eq_false_iff_ne.2 hj]
    · simp [put, hi, hj]
    · simp [put, hi, List.lookup_cons, beq_eq_false_iff_ne.2 hj, ih]

@[simp] theorem get_set (t : Table κ α) (k : κ) (a : α) (j : κ) :
    (t.set k a).get j = if j = k then a else t.get j := by
  simp only [get, set, lookup_put]; split <;> rfl

omit [Inhabited α] in
theorem put_put (k : κ) (a b : α) (es : List (κ × α)) : put k b (put k a es) = put k b es := by
  induction es with
  | nil => simp [put]
  | cons e rest ih => by_cases h : e.1 = k <;> simp [put, h, ih]

omit [Inhabited α] in
/-- What was set is gone when it is set again. -/
theorem set_set (t : Table κ α) (k : κ) (a b : α) : (t.set k a).set k b = t.set k b := by
  simp only [set, put_put]

@[simp] theorem get_modify (t : Table κ α) (k : κ) (f : α → α) (j : κ) :
    (t.modify k f).get j = if j = k then f (t.get k) else t.get j := get_set ..

/-- What was modified is modified again in its place. -/
theorem modify_modify (t : Table κ α) (k : κ) (f g : α → α) :
    (t.modify k f).modify k g = t.modify k fun a => g (f a) := by
  rw [modify, modify, modify, set_set, get_set, if_pos rfl]

end Table

end Startup
