/-
The files of profiles. A path is taken apart into a directory and a name, and the name into what stands
before its last point and the extension behind it. Whatever points there are in the directory or before
the last one of the name, the profile goes between stem and extension and the rest stays; so the files
that belong to two profiles have two names in the directory of their base file.
-/
import Startup.Config.Path
import Startup.Proofs.Pieces

namespace Startup.Path

/-! ## Directories and names -/

/-- What stands between two slashes of a path. -/
def IsSegment (s : String) : Prop := s ≠ "" ∧ s ≠ "." ∧ '/' ∉ s.toList

instance (s : String) : Decidable (IsSegment s) := inferInstanceAs (Decidable (_ ∧ _ ∧ _))

inductive Start where
  | root
  /-- A point for the directory that one is in. -/
  | here
  | unmarked

/-- A start and segments, each with a slash behind it. -/
structure Directory where
  start : Start
  segments : List String
  named : ∀ s ∈ segments, IsSegment s

def Start.text : Start → String
  | .root => "/"
  | .here => "./"
  | .unmarked => ""

def Directory.path (d : Directory) : String := d.start.text ++ .join (d.segments.map (· ++ "/"))

/-- A last name. A point is in it only if it has an extension, which is what follows the last one. -/
structure FileName where
  stem : String
  extension : Option String
  stem_ne : stem ≠ ""
  stem_plain : '/' ∉ stem.toList
  extension_plain : ∀ e ∈ extension, e ≠ "" ∧ '/' ∉ e.toList ∧ '.' ∉ e.toList
  pointless : extension = none → '.' ∉ stem.toList

namespace FileName

def ending (n : FileName) : String :=
  match n.extension with
  | some e => "." ++ e
  | none => ""

def text (n : FileName) : String := n.stem ++ n.ending

/-- The name with a profile behind its stem. -/
def withProfile (n : FileName) (profile : String) : String := n.stem ++ "-" ++ profile ++ n.ending

theorem withProfile_injective (n : FileName) {p q : String} (h : n.withProfile p = n.withProfile q) :
    p = q := by
  have chars := congrArg String.toList h
  simp only [withProfile, String.toList_append, List.append_assoc, List.append_cancel_left_eq,
    List.append_cancel_right_eq] at chars
  exact String.toList_injective chars

theorem ending_plain (n : FileName) : '/' ∉ n.ending.toList := by
  unfold ending
  cases h : n.extension with
  | none => simp
  | some e => simpa using (n.extension_plain e h).2.1

end FileName

/-! ## The pieces of a path -/

theorem intercalate_slash (piece : List Char) (rest : List (List Char)) :
    ['/'].intercalate (piece :: rest) ++ ['/'] = (piece :: rest).flatMap (· ++ ['/']) := by
  induction rest generalizing piece with
  | nil => simp
  | cons next rest ih => simp [List.intercalate_cons_cons, ih]

theorem intercalate_name (front : List (List Char)) (name : List Char) :
    ['/'].intercalate (front ++ [name]) = front.flatMap (· ++ ['/']) ++ name := by
  induction front with
  | nil => simp
  | cons piece front ih =>
    rw [List.flatMap_cons, List.append_assoc, ← ih]
    cases front <;> simp [List.intercalate_cons_cons]

/-- Nothing is dropped from the end of a list of names. -/
theorem dropWhile_names {pieces : List (List Char)} (h : ∀ piece ∈ pieces, isName piece = true) :
    (pieces.reverse.dropWhile (!isName ·)).reverse = pieces := by
  have kept : pieces.reverse.dropWhile (!isName ·) = pieces.reverse := by
    rw [List.dropWhile_eq_self_iff]
    intro hl
    simpa using h _ (List.mem_reverse.1 (List.getElem_mem hl))
  rw [kept, List.reverse_reverse]

/-- Pieces between slashes before a name: only the first one may be no name. -/
structure IsFront (front : List (List Char)) : Prop where
  plain : ∀ piece ∈ front, '/' ∉ piece
  names : ∀ piece ∈ front.tail, isName piece = true

section Fronts

variable {front : List (List Char)} {name : List Char}

theorem cut_front (h : IsFront front) (plain : '/' ∉ name) (isname : isName name = true) :
    cut (front.flatMap (· ++ ['/']) ++ name) = front ++ [name] := by
  have all : ∀ piece ∈ front ++ [name], '/' ∉ piece := by
    simpa [or_imp, forall_and] using ⟨h.plain, plain⟩
  have pieces : Text.pieces (· == '/') (front.flatMap (· ++ ['/']) ++ name) = front ++ [name] := by
    rw [Text.pieces_eq_splitOn, ← intercalate_name, List.splitOn_intercalate '/' all (by simp)]
  unfold cut
  rw [pieces]
  cases front with
  | nil =>
    -- a name alone is not empty
    have filled : name.isEmpty = false := by
      simp only [isName, Bool.and_eq_true, Bool.not_eq_true'] at isname
      exact isname.1
    simp [filled]
  | cons first rest =>
    have names : ∀ piece ∈ rest ++ [name], isName piece = true := by
      simpa [or_imp, forall_and] using ⟨h.names, isname⟩
    rw [List.cons_append]
    dsimp only
    rw [dropWhile_names names]
    simp

theorem fileName_front (h : IsFront front) (plain : '/' ∉ name) (isname : isName name = true)
    (above : name ≠ ['.', '.']) : fileName? (front.flatMap (· ++ ['/']) ++ name) = some name := by
  unfold fileName?
  rw [cut_front h plain isname, List.getLast?_concat]
  simp_all [isName]

theorem parent_front (h : IsFront front) (plain : '/' ∉ name) (isname : isName name = true) :
    parent (front.flatMap (· ++ ['/']) ++ name) = front.flatMap (· ++ ['/']) := by
  unfold parent
  rw [cut_front h plain isname, List.dropLast_concat]
  cases front with
  | nil => rfl
  | cons first rest =>
    have names : ∀ piece ∈ rest, isName piece = true := h.names
    dsimp only
    rw [dropWhile_names names, intercalate_slash]
    split
    · rename_i empty
      simp_all
    · rfl

end Fronts

/-! ## The extension of a name -/

/-- The extension is what follows the last point, if something stands before it. -/
theorem splitName_point {stem extension : List Char} (filled : stem ≠ []) (last : '.' ∉ extension) :
    splitName (stem ++ '.' :: extension) = (stem, some extension) := by
  have reversed : (stem ++ '.' :: extension).reverse = extension.reverse ++ '.' :: stem.reverse := by
    simp
  have behind : (extension.reverse ++ '.' :: stem.reverse).takeWhile (· != '.') =
      extension.reverse := by
    have pointless : ∀ c ∈ extension.reverse, (c != '.') = true := by
      rintro c hc
      exact bne_iff_ne.2 fun h => last (h ▸ List.mem_reverse.1 hc)
    rw [List.takeWhile_append_of_pos pointless]
    simp
  have before : (extension.reverse ++ '.' :: stem.reverse).drop (extension.length + 1) =
      stem.reverse := by
    simp [List.drop_append]
  unfold splitName
  rw [reversed, behind]
  dsimp only
  rw [List.length_reverse, before]
  simp [filled]

theorem splitName_pointless {name : List Char} (h : '.' ∉ name) : splitName name = (name, none) := by
  have behind : name.reverse.takeWhile (· != '.') = name.reverse := by
    rw [List.takeWhile_eq_self_iff]
    rintro c hc
    exact bne_iff_ne.2 fun hdot => h (hdot ▸ List.mem_reverse.1 hc)
  unfold splitName
  simp [behind]

theorem FileName.splitName_text (n : FileName) :
    splitName n.text.toList = (n.stem.toList, n.extension.map String.toList) := by
  have filled : n.stem.toList ≠ [] := by simpa using n.stem_ne
  unfold FileName.text FileName.ending
  cases h : n.extension with
  | none => simpa using splitName_pointless (n.pointless h)
  | some e => simpa using splitName_point filled (n.extension_plain e h).2.2

/-! ## Names in a directory -/

/-- What the last name of a path can be. -/
structure IsLast (name : String) : Prop where
  plain : '/' ∉ name.toList
  filled : name ≠ ""
  not_here : name ≠ "."
  not_above : name ≠ ".."

/-- A name is not one or two points. -/
theorem FileName.text_ne_points (n : FileName) {points : String} (only : ∀ c ∈ points.toList, c = '.')
    (short : points.toList.length ≤ 2) : n.text ≠ points := by
  rintro rfl
  have stem : n.stem.toList ≠ [] := by simpa using n.stem_ne
  cases h : n.extension with
  | none =>
    obtain ⟨c, hc⟩ := List.exists_mem_of_ne_nil _ stem
    have point : c = '.' := only c (by simp [text, hc])
    exact n.pointless h (point ▸ hc)
  | some e =>
    -- a stem, a point and an extension are more than two characters
    have before : 0 < n.stem.toList.length := List.length_pos_iff.2 stem
    have behind : 0 < e.toList.length :=
      List.length_pos_iff.2 (by simpa using (n.extension_plain e h).1)
    have long : n.text.toList.length = n.stem.toList.length + (1 + e.toList.length) := by
      simp [text, ending, h, Nat.add_comm]
    omega

theorem FileName.isLast_text (n : FileName) : IsLast n.text where
  plain := by simpa [text] using ⟨n.stem_plain, n.ending_plain⟩
  filled := by simp [text, n.stem_ne]
  not_here := n.text_ne_points (by simp) (by decide)
  not_above := n.text_ne_points (by simp) (by decide)

theorem FileName.isLast_withProfile (n : FileName) {profile : String} (plain : '/' ∉ profile.toList) :
    IsLast (n.withProfile profile) := by
  have hyphen : '-' ∈ (n.withProfile profile).toList := by simp [withProfile]
  refine ⟨by simpa [withProfile] using ⟨n.stem_plain, plain, n.ending_plain⟩, ?_, ?_, ?_⟩ <;>
    rintro h <;> simp [h] at hyphen

namespace Directory

/-- The pieces between the slashes of a directory's path. -/
def front (d : Directory) : List (List Char) :=
  (match d.start with
    | .root => [[]]
    | .here => [['.']]
    | .unmarked => []) ++ d.segments.map String.toList

theorem toList_path (d : Directory) : d.path.toList = d.front.flatMap (· ++ ['/']) := by
  have segments : (String.join (d.segments.map (· ++ "/"))).toList =
      (d.segments.map String.toList).flatMap (· ++ ['/']) := by
    simp [String.toList_join, List.flatMap_map]
  rw [path, String.toList_append, segments, front, List.flatMap_append]
  cases d.start <;> rfl

theorem isFront (d : Directory) : IsFront d.front := by
  have plain : ∀ piece ∈ d.segments.map String.toList, '/' ∉ piece := by
    simpa using fun s hs => (d.named s hs).2.2
  have names : ∀ piece ∈ d.segments.map String.toList, isName piece = true := by
    intro piece hpiece
    obtain ⟨s, hs, rfl⟩ := List.mem_map.1 hpiece
    obtain ⟨filled, other, -⟩ := d.named s hs
    have notPoint : s.toList ≠ ['.'] := fun h => other (String.toList_injective h)
    simpa [isName, notPoint] using filled
  unfold front
  cases d.start with
  | root => exact ⟨by simpa using plain, names⟩
  | here => exact ⟨by simpa using plain, names⟩
  | unmarked => exact ⟨plain, fun piece hpiece => names piece (List.mem_of_mem_tail hpiece)⟩

variable (d : Directory) {name : String}

theorem fileName_path (h : IsLast name) : fileName? (d.path ++ name).toList = some name.toList := by
  have here : name.toList ≠ ['.'] := fun heq => h.not_here (String.toList_injective heq)
  have above : name.toList ≠ ['.', '.'] := fun heq => h.not_above (String.toList_injective heq)
  rw [String.toList_append, toList_path]
  exact fileName_front d.isFront h.plain (by simpa [isName, here] using h.filled) above

theorem parent_path (h : IsLast name) : parent (d.path ++ name).toList = d.path.toList := by
  have here : name.toList ≠ ['.'] := fun heq => h.not_here (String.toList_injective heq)
  rw [String.toList_append, toList_path]
  exact parent_front d.isFront h.plain (by simpa [isName, here] using h.filled)

end Directory

/-! ## The files of profiles -/

theorem ofProfile_path (d : Directory) (n : FileName) (profile : String) :
    ofProfile (d.path ++ n.text) profile = d.path ++ n.withProfile profile := by
  unfold ofProfile withFileName
  rw [d.fileName_path n.isLast_text, Option.map_some, n.splitName_text, d.parent_path n.isLast_text]
  apply String.toList_injective
  unfold FileName.withProfile FileName.text FileName.ending
  cases n.extension <;> simp

/-- The file of a profile lies in the directory of the base file, and its name is that of the base file
with the profile behind the stem. No two profiles have the same one. -/
theorem ofProfile_beside (d : Directory) (n : FileName) :
    (∀ profile, ofProfile (d.path ++ n.text) profile = d.path ++ n.withProfile profile) ∧
    (∀ profile : String, '/' ∉ profile.toList →
      let file := ofProfile (d.path ++ n.text) profile
      parent file.toList = d.path.toList ∧ fileName? file.toList = some (n.withProfile profile).toList) ∧
    ∀ profile other, ofProfile (d.path ++ n.text) profile = ofProfile (d.path ++ n.text) other →
      profile = other := by
  refine ⟨ofProfile_path d n, fun profile plain => ?_, fun profile other same => ?_⟩
  · dsimp only
    rw [ofProfile_path]
    have last := n.isLast_withProfile plain
    exact ⟨d.parent_path last, d.fileName_path last⟩
  · rw [ofProfile_path, ofProfile_path] at same
    have chars := congrArg String.toList same
    rw [String.toList_append, String.toList_append, List.append_cancel_left_eq] at chars
    exact n.withProfile_injective (String.toList_injective chars)

/-- A name with two points in a directory with one. -/
theorem ofProfile_beside_pointed :
    ofProfile "./conf.d/app.v2.toml" "dev" = "./conf.d/app.v2-dev.toml" ∧
      fileName? (ofProfile "./conf.d/app.v2.toml" "dev").toList = some "app.v2-dev.toml".toList := by
  let d : Directory := ⟨.here, ["conf.d"], by decide⟩
  let n : FileName := ⟨"app.v2", some "toml", by decide, by decide, by decide, by simp⟩
  obtain ⟨files, names, -⟩ := ofProfile_beside d n
  have base : d.path ++ n.text = "./conf.d/app.v2.toml" := by decide
  have profile : n.withProfile "dev" = "app.v2-dev.toml" := by decide
  have file : d.path ++ n.withProfile "dev" = "./conf.d/app.v2-dev.toml" := by decide
  rw [← base, ← profile]
  exact ⟨(files "dev").trans file, (names "dev" (by decide)).2⟩

end Startup.Path
