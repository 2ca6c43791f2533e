/-
Texts cut free of blanks and cut at separators. What trimming leaves is the one solid text that has
nothing but blanks around it. The first piece of a text is its longest start without a separator, and
pieces without separators in them are found again in the text that joins them.
-/
import Mathlib.Data.List.TakeWhile
import Startup.Text.Blank

namespace Startup.Text

/-! ## Blanks around a text -/

def Blank (cs : List Char) : Prop := ∀ c ∈ cs, isBlank c = true

/-- Neither the first nor the last character is a blank. -/
structure Solid (cs : List Char) : Prop where
  first : ∀ c ∈ cs.head?, isBlank c = false
  last : ∀ c ∈ cs.getLast?, isBlank c = false

/-- Any number of blanks stand before and behind. -/
def Padded (core cs : List Char) : Prop :=
  ∃ front back, Blank front ∧ Blank back ∧ cs = front ++ (core ++ back)

instance (cs : List Char) : Decidable (Blank cs) := decidable_of_iff (cs.all isBlank = true) List.all_eq_true

instance (cs : List Char) : Decidable (Solid cs) :=
  decidable_of_iff (cs.head?.all (!isBlank ·) = true ∧ cs.getLast?.all (!isBlank ·) = true) <| by
    simp only [Option.all_eq_true, Bool.not_eq_true']
    exact ⟨fun h => ⟨h.1, h.2⟩, fun h => ⟨h.first, h.last⟩⟩

theorem solid_nil : Solid [] := ⟨nofun, nofun⟩

theorem Blank.reverse {cs : List Char} (h : Blank cs) : Blank cs.reverse :=
  fun c hc => h c (List.mem_reverse.1 hc)

theorem Blank.padded {cs : List Char} (h : Blank cs) : Padded [] cs :=
  ⟨cs, [], h, by simp [Blank], by simp⟩

/-- The blanks before a solid text are dropped, and no more. -/
theorem dropWhile_front {front core back : List Char} (hfront : Blank front)
    (first : ∀ c ∈ core.head?, isBlank c = false) (hcore : core ≠ []) :
    (front ++ (core ++ back)).dropWhile isBlank = core ++ back := by
  obtain ⟨c, rest, rfl⟩ := List.exists_cons_of_ne_nil hcore
  rw [List.dropWhile_append_of_pos hfront]
  exact List.dropWhile_cons_of_neg (by simp [first c rfl])

theorem trimBlanks_of_padded {core cs : List Char} (solid : Solid core) (h : Padded core cs) :
    trimBlanks cs = core := by
  obtain ⟨front, back, hfront, hback, rfl⟩ := h
  by_cases hcore : core = []
  · -- a text without a first character has nowhere to stop, so the first pass drops everything
    subst hcore
    have gone : (front ++ ([] ++ back)).dropWhile isBlank = [] := by
      rw [List.dropWhile_append_of_pos hfront]
      exact List.dropWhile_eq_nil_iff.2 hback
    rw [trimBlanks, gone]
    rfl
  · have ends : ∀ c ∈ core.reverse.head?, isBlank c = false := by
      rw [List.head?_reverse]
      exact solid.last
    -- the blanks behind it are those before the reversed text
    have behind : (core ++ back).reverse = back.reverse ++ (core.reverse ++ []) := by simp
    rw [trimBlanks, dropWhile_front hfront solid.first hcore, dropEnd, behind,
      dropWhile_front hback.reverse ends (by simpa using hcore)]
    simp

theorem first_dropWhile (cs : List Char) : ∀ c ∈ (cs.dropWhile isBlank).head?, isBlank c = false := by
  intro c hc
  have first := List.head?_dropWhile_not isBlank cs
  rwa [Option.mem_def.1 hc] at first

theorem blank_takeWhile (cs : List Char) : Blank (cs.takeWhile isBlank) :=
  fun _ => List.mem_takeWhile_imp

/-- The blanks at the end are what is cut off there. -/
theorem exists_dropEnd (cs : List Char) : ∃ back, Blank back ∧ cs = dropEnd isBlank cs ++ back := by
  refine ⟨(cs.reverse.takeWhile isBlank).reverse, (blank_takeWhile _).reverse, ?_⟩
  rw [dropEnd, ← List.reverse_append, List.takeWhile_append_dropWhile, List.reverse_reverse]

theorem padded_trimBlanks (cs : List Char) : Padded (trimBlanks cs) cs := by
  obtain ⟨back, hback, hcore⟩ := exists_dropEnd (cs.dropWhile isBlank)
  refine ⟨cs.takeWhile isBlank, back, blank_takeWhile cs, hback, ?_⟩
  rw [trimBlanks, ← hcore, List.takeWhile_append_dropWhile]

theorem solid_trimBlanks (cs : List Char) : Solid (trimBlanks cs) := by
  constructor
  · intro c hc
    obtain ⟨back, -, hcore⟩ := exists_dropEnd (cs.dropWhile isBlank)
    refine first_dropWhile cs c ?_
    rw [hcore, Option.mem_def, List.head?_append, ← trimBlanks, Option.mem_def.1 hc]
    rfl
  · intro c hc
    rw [trimBlanks, dropEnd, List.getLast?_reverse] at hc
    exact first_dropWhile _ c hc

/-- Trimming leaves the solid text that has blanks around it, and there is only one. -/
theorem trimBlanks_eq_iff {core cs : List Char} : trimBlanks cs = core ↔ Solid core ∧ Padded core cs := by
  constructor
  · rintro rfl
    exact ⟨solid_trimBlanks cs, padded_trimBlanks cs⟩
  · rintro ⟨solid, padded⟩
    exact trimBlanks_of_padded solid padded

/-- Nothing is left of blanks, and of nothing else. -/
theorem trimBlanks_eq_nil {cs : List Char} : trimBlanks cs = [] ↔ Blank cs := by
  constructor
  · intro h
    obtain ⟨-, front, back, hfront, hback, rfl⟩ := trimBlanks_eq_iff.1 h
    intro c hc
    rcases List.mem_append.1 hc with hc | hc
    · exact hfront c hc
    · exact hback c hc
  · exact fun h => trimBlanks_of_padded solid_nil h.padded

/-- Trimming adds no character. -/
theorem mem_of_mem_trimBlanks {c : Char} {cs : List Char} (h : c ∈ trimBlanks cs) : c ∈ cs := by
  obtain ⟨front, back, -, -, hcs⟩ := padded_trimBlanks cs
  rw [hcs]
  exact List.mem_append_right _ (List.mem_append_left _ h)

/-! ## Pieces between separators -/

theorem pieces_ne_nil (isSeparator : Char → Bool) (cs : List Char) : pieces isSeparator cs ≠ [] := by
  cases cs with
  | nil => simp [pieces]
  | cons c rest =>
    rw [pieces]
    split
    · simp
    · split <;> simp

/-- The first piece ends before the first separator. -/
theorem headD_pieces (isSeparator : Char → Bool) (cs : List Char) :
    (pieces isSeparator cs).headD [] = cs.takeWhile (!isSeparator ·) := by
  induction cs with
  | nil => rfl
  | cons c rest ih =>
    rw [pieces]
    cases hc : isSeparator c with
    | true => simp [hc]
    | false =>
      rcases hrest : pieces isSeparator rest with _ | ⟨piece, more⟩
      · exact absurd hrest (pieces_ne_nil _ _)
      · -- the character goes to the front of the first piece
        rw [hrest] at ih
        simp [hc, ← ih]

theorem pieces_eq_splitOn (c : Char) (cs : List Char) : pieces (· == c) cs = cs.splitOn c := by
  induction cs with
  | nil => simp [pieces]
  | cons d rest ih =>
    rw [List.splitOn_eq_splitOnP] at ih ⊢
    rw [pieces, ih, List.splitOnP_cons_eq_if_modifyHead]
    split
    · rfl
    · rcases hrest : rest.splitOnP (· == c) with _ | ⟨piece, more⟩
      · exact absurd hrest (List.splitOnP_ne_nil _ rest)
      · rfl

/-- There is no separator in a piece. -/
theorem not_mem_piece {c : Char} {cs : List Char} : ∀ piece ∈ pieces (· == c) cs, c ∉ piece := by
  induction cs with
  | nil => simp [pieces]
  | cons d rest ih =>
    rw [pieces]
    split
    · exact List.forall_mem_cons.2 ⟨List.not_mem_nil, ih⟩
    · rename_i hd
      have other : c ≠ d := fun h => hd (beq_iff_eq.2 h.symm)
      split
      · simpa using other
      · rename_i piece more hrest
        rw [hrest, List.forall_mem_cons] at ih
        exact List.forall_mem_cons.2 ⟨List.not_mem_cons_of_ne_of_not_mem other ih.1, ih.2⟩

end Startup.Text
