/-
The locale of a request. A header counts up to its first comma or semicolon: the locale is what is left of
this start without the blanks around it, and the default where nothing is left or no header was sent. A
fixed locale is that of every request.
-/
import Startup.Proofs.Pieces
import Startup.Web.Locale

namespace Startup.Web

namespace LocaleResolver

open Text

/-! ## The start of a header -/

def IsSeparator (c : Char) : Prop := c = ',' ∨ c = ';'

instance (c : Char) : Decidable (IsSeparator c) := inferInstanceAs (Decidable (_ ∨ _))

/-- The longest start of a header that has no separator in it. -/
structure LongestStart (header start : List Char) : Prop where
  isStart : start <+: header
  unseparated : ∀ c ∈ start, ¬ IsSeparator c
  longest : ∀ other, other <+: header → (∀ c ∈ other, ¬ IsSeparator c) → other <+: start

theorem LongestStart.unique {header start start' : List Char} (h : LongestStart header start)
    (h' : LongestStart header start') : start = start' := by
  have le := (h'.longest start h.isStart h.unseparated).length_le
  exact (h.longest start' h'.isStart h'.unseparated).eq_of_length_le le |>.symm

/-- What stands before a separator, or before the end, is the longest start. -/
theorem longestStart_append {start rest : List Char} (unseparated : ∀ c ∈ start, ¬ IsSeparator c)
    (ends : ∀ c ∈ rest.head?, IsSeparator c) : LongestStart (start ++ rest) start := by
  refine ⟨List.prefix_append .., unseparated, fun other hother clean => ?_⟩
  obtain ⟨tail, heq⟩ := hother
  rcases List.append_eq_append_iff.1 heq with ⟨more, rfl, -⟩ | ⟨more, rfl, rfl⟩
  · exact List.prefix_append ..
  · cases more with
    | nil => simp
    | cons c more =>
      -- a longer start has the separator in it
      have separated : IsSeparator c := ends c rfl
      exact absurd separated (clean c (by simp))

/-- The longest start of a header is what goes before its first separator. -/
theorem longestStart_takeWhile (header : List Char) :
    LongestStart header (header.takeWhile (¬ IsSeparator ·)) := by
  have clean : ∀ c ∈ header.takeWhile (¬ IsSeparator ·), ¬ IsSeparator c := by
    intro c hc
    simpa using List.mem_takeWhile_imp hc
  have ends : ∀ c ∈ (header.dropWhile (¬ IsSeparator ·)).head?, IsSeparator c := by
    intro c hc
    have first := List.head?_dropWhile_not (¬ IsSeparator ·) header
    rw [Option.mem_def.1 hc] at first
    simpa using first
  have start := longestStart_append clean ends
  rwa [List.takeWhile_append_dropWhile] at start

/-! ## The first tag -/

/-- The first item between commas, without its parameters, is the longest start. -/
theorem firstTag_eq {header : String} {start : List Char} (h : LongestStart header.toList start) :
    firstTag header = .ofList (trimBlanks start) := by
  have tag : (pieces (· == ';') ((pieces (· == ',') header.toList).headD [])).headD [] = start := by
    rw [headD_pieces, headD_pieces, List.takeWhile_takeWhile, h.unique (longestStart_takeWhile _)]
    congr 1
    funext c
    simp [IsSeparator, and_comm]
  show String.ofList (trimBlanks _) = _
  rw [tag]

/-- A header is resolved to its start without blanks, or to the default if nothing is left. -/
theorem resolve_acceptHeader (fallback : String) {header : String} {start : List Char}
    (h : LongestStart header.toList start) : resolve (.acceptHeader fallback) (some header) =
      if trimBlanks start = [] then fallback else .ofList (trimBlanks start) := by
  show (if (firstTag header).isEmpty then fallback else firstTag header) = _
  rw [firstTag_eq h]
  simp

/-- Every header has a longest start without a comma or a semicolon, and it is resolved to this start without
the blanks around it, or to the default if the start is blank. So is a request without a header, and what
follows the first separator makes no difference. The locale is empty only if the default is, and a fixed
locale does not look at the header. -/
theorem locale_of_header :
    (∀ fallback header : String, ∃ start, LongestStart header.toList start ∧
      ((Blank start ∧ resolve (.acceptHeader fallback) (some header) = fallback) ∨
        ∃ tag, tag ≠ [] ∧ Solid tag ∧ Padded tag start ∧
          resolve (.acceptHeader fallback) (some header) = .ofList tag)) ∧
    (∀ fallback, resolve (.acceptHeader fallback) none = fallback) ∧
    (∀ fallback start rest rest', (∀ c ∈ start, ¬ IsSeparator c) → (∀ c ∈ rest.head?, IsSeparator c) →
      (∀ c ∈ rest'.head?, IsSeparator c) →
      resolve (.acceptHeader fallback) (some (.ofList (start ++ rest))) =
        resolve (.acceptHeader fallback) (some (.ofList (start ++ rest')))) ∧
    (∀ fallback header, resolve (.acceptHeader fallback) header = "" → fallback = "") ∧
    ∀ locale header, resolve (.fixed locale) header = locale := by
  refine ⟨fun fallback header => ?_, fun _ => rfl, fun fallback start rest rest' clean ends ends' => ?_,
    fun fallback header empty => ?_, fun _ _ => rfl⟩
  · have longest := longestStart_takeWhile header.toList
    refine ⟨_, longest, ?_⟩
    rw [resolve_acceptHeader fallback longest]
    split
    · rename_i nothing
      exact .inl ⟨trimBlanks_eq_nil.1 nothing, rfl⟩
    · rename_i something
      exact .inr ⟨_, something, solid_trimBlanks _, padded_trimBlanks _, rfl⟩
  · have here : LongestStart (String.ofList (start ++ rest)).toList start := by
      rw [String.toList_ofList]
      exact longestStart_append clean ends
    have there : LongestStart (String.ofList (start ++ rest')).toList start := by
      rw [String.toList_ofList]
      exact longestStart_append clean ends'
    rw [resolve_acceptHeader fallback here, resolve_acceptHeader fallback there]
  · cases header with
    | none => exact empty
    | some header =>
      rw [resolve_acceptHeader fallback (longestStart_takeWhile header.toList)] at empty
      split at empty
      · exact empty
      · rename_i something
        exact absurd (by simpa using empty) something

/-- A start with blanks of two kinds before a semicolon, and a header that begins with a comma. -/
theorem locale_of_header_separated :
    resolve (.acceptHeader "zh_CN") (some "\u2003en-US\t;q=0.9,fr") = "en-US" ∧
    resolve (.acceptHeader "zh_CN") (some ",en-US") ≠ "" := by
  obtain ⟨-, -, cut, filled, -⟩ := locale_of_header
  constructor
  · have same := cut "zh_CN" "\u2003en-US\t".toList ";q=0.9,fr".toList []
      (by simp [IsSeparator]) (by simp [IsSeparator]) nofun
    calc resolve (.acceptHeader "zh_CN") (some "\u2003en-US\t;q=0.9,fr")
      _ = resolve (.acceptHeader "zh_CN") (some "\u2003en-US\t") := same
      _ = "en-US" := by decide
  · exact fun empty => absurd (filled "zh_CN" (some ",en-US") empty) (by decide)

end LocaleResolver

end Startup.Web
