/-
Courses: what was done one after the other, leg by leg, each with the world it began in, what came of
it and the world that it left. A loop that ends at the first failure goes the shortest start of its
list that ends with a failing item, and the whole list if none fails. It ends exactly where such a
course leads, so the course is all that the loop does.
-/
import Startup.Proofs.Path

namespace Startup

variable {σ α β ε : Type}

/-! ## Legs -/

/-- Something that was done once, and what came of it. -/
structure Leg (σ α β : Type) where
  what : α
  start : World σ
  result : β
  finish : World σ

/-- Legs one behind the other from one world to another, each as it is done. -/
def Course (does : α → World σ → β → World σ → Prop) :
    World σ → List (Leg σ α β) → World σ → Prop
  | w, [], w' => w' = w
  | w, leg :: rest, w' =>
    leg.start = w ∧ does leg.what leg.start leg.result leg.finish ∧ Course does leg.finish rest w'

section Course

variable {does : α → World σ → β → World σ → Prop} {w w' : World σ} {legs : List (Leg σ α β)}

theorem course_append {more : List (Leg σ α β)} :
    Course does w (legs ++ more) w' ↔ ∃ m, Course does w legs m ∧ Course does m more w' := by
  induction legs generalizing w with
  | nil => simp [Course]
  | cons leg rest ih =>
    simp only [List.cons_append, Course, ih]
    constructor
    · rintro ⟨hstart, hdoes, m, hrest, hmore⟩
      exact ⟨m, ⟨hstart, hdoes, hrest⟩, hmore⟩
    · rintro ⟨m, ⟨hstart, hdoes, hrest⟩, hmore⟩
      exact ⟨hstart, hdoes, m, hrest, hmore⟩

/-- What every leg leaves as it was, the course does. -/
theorem Course.keeps {γ : Type} {f : World σ → γ} (h : Course does w legs w')
    (keep : ∀ leg ∈ legs, f leg.finish = f leg.start) : f w' = f w := by
  induction legs generalizing w with
  | nil => rw [h]
  | cons leg rest ih =>
    obtain ⟨rfl, -, hrest⟩ := h
    rw [ih hrest fun l hl => keep l (List.mem_cons_of_mem _ hl)]
    exact keep leg (List.mem_cons_self ..)

end Course

/-! ## Up to the first failure -/

/-- The legs are those of a list up to the first one that failed, if any did, with what came of it. -/
def UpToFailure (xs : List α) (legs : List (Leg σ α (Except ε Unit))) : Except ε Unit → Prop
  | .ok () => legs.map (·.what) = xs ∧ ∀ leg ∈ legs, leg.result = .ok ()
  | .error e => ∃ before last rest, legs = before ++ [last] ∧ xs = legs.map (·.what) ++ rest ∧
      (∀ leg ∈ before, leg.result = .ok ()) ∧ last.result = .error e

theorem upToFailure_nil {legs : List (Leg σ α (Except ε Unit))} {r : Except ε Unit} :
    UpToFailure [] legs r ↔ legs = [] ∧ r = .ok () := by
  rcases r with e | _
  · constructor
    · rintro ⟨before, last, rest, rfl, hempty, -, -⟩
      simp at hempty
    · rintro ⟨-, hr⟩
      cases hr
  · constructor
    · rintro ⟨hempty, -⟩
      exact ⟨List.map_eq_nil_iff.1 hempty, rfl⟩
    · rintro ⟨rfl, -⟩
      exact ⟨rfl, by simp⟩

/-- The first item is done, and the rest is gone through if it did not fail. -/
theorem upToFailure_cons {x : α} {xs : List α} {legs : List (Leg σ α (Except ε Unit))}
    {r : Except ε Unit} :
    UpToFailure (x :: xs) legs r ↔ ∃ leg rest, legs = leg :: rest ∧ leg.what = x ∧
      (leg.result = .ok () ∧ UpToFailure xs rest r ∨
        ∃ e, leg.result = .error e ∧ rest = [] ∧ r = .error e) := by
  rcases r with e | _
  · constructor
    · rintro ⟨before, last, rest, rfl, hxs, hbefore, hlast⟩
      cases before with
      | nil =>
        obtain ⟨rfl, -⟩ := List.cons.inj hxs
        exact ⟨last, [], rfl, rfl, .inr ⟨e, hlast, rfl, rfl⟩⟩
      | cons leg before =>
        obtain ⟨rfl, rfl⟩ := List.cons.inj hxs
        refine ⟨leg, before ++ [last], rfl, rfl, .inl ⟨hbefore leg (List.mem_cons_self ..), ?_⟩⟩
        exact ⟨before, last, rest, rfl, rfl, fun l hl => hbefore l (List.mem_cons_of_mem _ hl), hlast⟩
    · rintro ⟨leg, legs, rfl, rfl, ⟨hleg, before, last, rest, rfl, rfl, hbefore, hlast⟩ |
        ⟨e', hleg, rfl, he⟩⟩
      · refine ⟨leg :: before, last, rest, rfl, rfl, fun l hl => ?_, hlast⟩
        rcases List.mem_cons.1 hl with rfl | hl
        · exact hleg
        · exact hbefore l hl
      · obtain rfl := Except.error.inj he
        exact ⟨[], leg, xs, rfl, rfl, by simp, hleg⟩
  · constructor
    · rintro ⟨hxs, hall⟩
      obtain ⟨leg, rest, rfl, rfl, rfl⟩ := List.map_eq_cons_iff.1 hxs
      refine ⟨leg, rest, rfl, rfl, .inl ⟨hall leg (List.mem_cons_self ..), rfl, ?_⟩⟩
      exact fun l hl => hall l (List.mem_cons_of_mem _ hl)
    · rintro ⟨leg, rest, rfl, rfl, ⟨hleg, rfl, hall⟩ | ⟨e, -, -, he⟩⟩
      · refine ⟨rfl, fun l hl => ?_⟩
        rcases List.mem_cons.1 hl with rfl | hl
        · exact hleg
        · exact hall l hl
      · cases he

/-- A list in two parts is gone through in two parts, the second only if none of the first failed. -/
theorem upToFailure_append {xs ys : List α} {legs : List (Leg σ α (Except ε Unit))}
    {r : Except ε Unit} :
    UpToFailure (xs ++ ys) legs r ↔
      (∃ e, r = .error e ∧ UpToFailure xs legs (.error e)) ∨
        ∃ first second, legs = first ++ second ∧ UpToFailure xs first (.ok ()) ∧
          UpToFailure ys second r := by
  induction xs generalizing legs with
  | nil =>
    simp only [List.nil_append, upToFailure_nil]
    constructor
    · exact fun h => .inr ⟨[], legs, rfl, ⟨rfl, trivial⟩, h⟩
    · rintro (⟨e, -, -, he⟩ | ⟨_, second, rfl, ⟨rfl, -⟩, h⟩)
      · cases he
      · exact h
  | cons x xs ih =>
    simp only [List.cons_append, upToFailure_cons, ih]
    constructor
    · rintro ⟨leg, rest, rfl, hx, ⟨hleg, ⟨e, rfl, hxs⟩ | ⟨first, second, rfl, hxs, hys⟩⟩ |
        ⟨e, hleg, rfl, rfl⟩⟩
      · exact .inl ⟨e, rfl, leg, rest, rfl, hx, .inl ⟨hleg, hxs⟩⟩
      · exact .inr ⟨leg :: first, second, rfl, ⟨leg, first, rfl, hx, .inl ⟨hleg, hxs⟩⟩, hys⟩
      · exact .inl ⟨e, rfl, leg, [], rfl, hx, .inr ⟨e, hleg, rfl, rfl⟩⟩
    · rintro (⟨e, rfl, leg, rest, rfl, hx, ⟨hleg, hxs⟩ | ⟨e', hleg, rfl, he⟩⟩ |
        ⟨_, second, rfl, ⟨leg, first, rfl, hx, ⟨hleg, hxs⟩ | ⟨e, -, -, he⟩⟩, hys⟩)
      · exact ⟨leg, rest, rfl, hx, .inl ⟨hleg, .inl ⟨e, rfl, hxs⟩⟩⟩
      · exact ⟨leg, [], rfl, hx, .inr ⟨e', hleg, rfl, he⟩⟩
      · exact ⟨leg, first ++ second, rfl, hx, .inl ⟨hleg, .inr ⟨first, second, rfl, hxs, hys⟩⟩⟩
      · cases he

theorem UpToFailure.what_prefix {xs : List α} {legs : List (Leg σ α (Except ε Unit))}
    {r : Except ε Unit} (h : UpToFailure xs legs r) : legs.map (·.what) <+: xs := by
  rcases r with e | _
  · obtain ⟨_, _, rest, -, hxs, -, -⟩ := h
    exact ⟨rest, hxs.symm⟩
  · exact ⟨[], by rw [h.1, List.append_nil]⟩

/-! ## Going through a list -/

/-- A list of items was gone through up to the first that failed. -/
structure Gone (does : α → World σ → Except ε Unit → World σ → Prop) (xs : List α) (w : World σ)
    (legs : List (Leg σ α (Except ε Unit))) (r : Except ε Unit) (w' : World σ) : Prop where
  course : Course does w legs w'
  upTo : UpToFailure xs legs r

section Gone

variable {does : α → World σ → Except ε Unit → World σ → Prop} {x : α} {xs ys : List α}
  {w w' : World σ} {legs : List (Leg σ α (Except ε Unit))} {r : Except ε Unit}

theorem gone_nil : Gone does [] w legs r w' ↔ legs = [] ∧ r = .ok () ∧ w' = w := by
  constructor
  · rintro ⟨hcourse, hupTo⟩
    obtain ⟨rfl, rfl⟩ := upToFailure_nil.1 hupTo
    exact ⟨rfl, rfl, hcourse⟩
  · rintro ⟨rfl, rfl, rfl⟩
    exact ⟨rfl, upToFailure_nil.2 ⟨rfl, rfl⟩⟩

theorem gone_cons : Gone does (x :: xs) w legs r w' ↔ ∃ result m rest,
    legs = ⟨x, w, result, m⟩ :: rest ∧ does x w result m ∧
      (result = .ok () ∧ Gone does xs m rest r w' ∨
        ∃ e, result = .error e ∧ rest = [] ∧ r = .error e ∧ w' = m) := by
  constructor
  · rintro ⟨hcourse, hupTo⟩
    obtain ⟨⟨_, _, result, m⟩, rest, rfl, rfl, h⟩ := upToFailure_cons.1 hupTo
    obtain ⟨rfl, hdoes, hrest⟩ := hcourse
    refine ⟨result, m, rest, rfl, hdoes, ?_⟩
    rcases h with ⟨hresult, hxs⟩ | ⟨e, hresult, rfl, rfl⟩
    · exact .inl ⟨hresult, hrest, hxs⟩
    · exact .inr ⟨e, hresult, rfl, rfl, hrest⟩
  · rintro ⟨result, m, rest, rfl, hdoes, ⟨rfl, hrest, hxs⟩ | ⟨e, rfl, rfl, rfl, rfl⟩⟩
    · exact ⟨⟨rfl, hdoes, hrest⟩, upToFailure_cons.2 ⟨_, rest, rfl, rfl, .inl ⟨rfl, hxs⟩⟩⟩
    · exact ⟨⟨rfl, hdoes, rfl⟩, upToFailure_cons.2 ⟨_, [], rfl, rfl, .inr ⟨e, rfl, rfl, rfl⟩⟩⟩

theorem gone_append : Gone does (xs ++ ys) w legs r w' ↔
    (∃ e, r = .error e ∧ Gone does xs w legs (.error e) w') ∨
      ∃ first m second, legs = first ++ second ∧ Gone does xs w first (.ok ()) m ∧
        Gone does ys m second r w' := by
  constructor
  · rintro ⟨hcourse, hupTo⟩
    rcases upToFailure_append.1 hupTo with ⟨e, rfl, hxs⟩ | ⟨first, second, rfl, hxs, hys⟩
    · exact .inl ⟨e, rfl, hcourse, hxs⟩
    · obtain ⟨m, hfirst, hsecond⟩ := course_append.1 hcourse
      exact .inr ⟨first, m, second, rfl, ⟨hfirst, hxs⟩, hsecond, hys⟩
  · rintro (⟨e, rfl, hcourse, hxs⟩ | ⟨first, m, second, rfl, ⟨hfirst, hxs⟩, hsecond, hys⟩)
    · exact ⟨hcourse, upToFailure_append.2 (.inl ⟨e, rfl, hxs⟩)⟩
    · exact ⟨course_append.2 ⟨m, hfirst, hsecond⟩,
        upToFailure_append.2 (.inr ⟨first, second, rfl, hxs, hys⟩)⟩

end Gone

end Startup
