/-
Lists of texts and their two notations. A list is noted item by item, or in one text that has commas
between the items, blanks around them and blank items anywhere. A text is read as a list exactly if it
notes this list, so properties that hold the list in either notation are bound alike.
-/
import Startup.Proofs.Pieces
import Startup.Proofs.Ranking
import Startup.Proofs.Switching

namespace Startup

namespace Text

/-! ## Lists as texts -/

/-- A text that can be an item between commas. -/
structure IsItem (s : String) : Prop where
  nonempty : s ≠ ""
  noComma : ',' ∉ s.toList
  solid : Solid s.toList

/-- Pieces hold the items of a list in order: a piece that is not blank is an item with blanks around
it. -/
inductive Holds : List (List Char) → List String → Prop
  | nil : Holds [] []
  | blank {piece : List Char} {pieces : List (List Char)} {items : List String} :
    Blank piece → Holds pieces items → Holds (piece :: pieces) items
  | item {piece : List Char} {pieces : List (List Char)} {x : String} {items : List String} :
    Padded x.toList piece → Holds pieces items → Holds (piece :: pieces) (x :: items)

/-- Commas stand between pieces that hold the items. -/
def Notes (s : String) (items : List String) : Prop :=
  ∃ pieces, Holds pieces items ∧ s.toList = [','].intercalate pieces

/-- The items that are read from pieces. -/
def itemsOf (pieces : List (List Char)) : List String :=
  ((pieces.map trimBlanks).filter (!·.isEmpty)).map .ofList

theorem itemsOf_blank {piece : List Char} (h : Blank piece) (pieces : List (List Char)) :
    itemsOf (piece :: pieces) = itemsOf pieces := by
  simp [itemsOf, trimBlanks_eq_nil.2 h]

theorem itemsOf_item {piece : List Char} {x : String} (hx : x ≠ "") (h : trimBlanks piece = x.toList)
    (pieces : List (List Char)) : itemsOf (piece :: pieces) = x :: itemsOf pieces := by
  simp [itemsOf, h, hx]

theorem itemsOf_of_holds {pieces : List (List Char)} {items : List String} (h : Holds pieces items)
    (hitems : ∀ x ∈ items, IsItem x) : itemsOf pieces = items := by
  induction h with
  | nil => rfl
  | blank hpiece _ ih =>
    rw [itemsOf_blank hpiece]
    exact ih hitems
  | item hpiece _ ih =>
    obtain ⟨first, later⟩ := List.forall_mem_cons.1 hitems
    rw [itemsOf_item first.nonempty (trimBlanks_of_padded first.solid hpiece), ih later]

/-- Whatever pieces are read, they hold the items that come of it. -/
theorem holds_itemsOf (pieces : List (List Char)) : Holds pieces (itemsOf pieces) := by
  induction pieces with
  | nil => exact .nil
  | cons piece rest ih =>
    by_cases hpiece : Blank piece
    · rw [itemsOf_blank hpiece]
      exact .blank hpiece ih
    · have filled : String.ofList (trimBlanks piece) ≠ "" := by
        simpa using mt trimBlanks_eq_nil.1 hpiece
      rw [itemsOf_item filled String.toList_ofList.symm]
      refine .item ?_ ih
      rw [String.toList_ofList]
      exact padded_trimBlanks piece

theorem isItem_of_mem {pieces : List (List Char)} (noComma : ∀ piece ∈ pieces, ',' ∉ piece) :
    ∀ x ∈ itemsOf pieces, IsItem x := by
  intro x hx
  obtain ⟨core, hcore, rfl⟩ := List.mem_map.1 hx
  obtain ⟨hpiece, filled⟩ := List.mem_filter.1 hcore
  obtain ⟨piece, hmem, rfl⟩ := List.mem_map.1 hpiece
  refine ⟨by simpa using filled, ?_, ?_⟩ <;> rw [String.toList_ofList]
  · exact fun h => noComma piece hmem (mem_of_mem_trimBlanks h)
  · exact solid_trimBlanks piece

/-- A comma is no blank, so it stands in no piece if it stands in no item. -/
theorem Holds.noComma {pieces : List (List Char)} {items : List String} (h : Holds pieces items)
    (hitems : ∀ x ∈ items, IsItem x) : ∀ piece ∈ pieces, ',' ∉ piece := by
  have clean {cs : List Char} (hcs : Blank cs) : ',' ∉ cs := fun hc => by
    have := hcs ',' hc
    revert this
    decide
  -- a piece with an item is made of three parts, and each of them is clean for its own reason
  induction h with
  | nil => exact nofun
  | blank hpiece _ ih => exact List.forall_mem_cons.2 ⟨clean hpiece, ih hitems⟩
  | item hpiece _ ih =>
    obtain ⟨first, later⟩ := List.forall_mem_cons.1 hitems
    obtain ⟨front, back, hfront, hback, rfl⟩ := hpiece
    refine List.forall_mem_cons.2 ⟨?_, ih later⟩
    simp only [List.mem_append, not_or]
    exact ⟨clean hfront, first.noComma, clean hback⟩

/-- A text is read as a list exactly if it notes the list, and as a list of items only. -/
theorem commaItems_eq_iff {s : String} {items : List String} :
    commaItems s = items ↔ (∀ x ∈ items, IsItem x) ∧ Notes s items := by
  constructor
  · rintro rfl
    refine ⟨isItem_of_mem not_mem_piece, pieces (· == ',') s.toList, holds_itemsOf _, ?_⟩
    rw [pieces_eq_splitOn, List.intercalate_splitOn]
  · rintro ⟨hitems, pieces, holds, hs⟩
    show itemsOf (Text.pieces (· == ',') s.toList) = items
    rw [hs, pieces_eq_splitOn]
    by_cases hnil : pieces = []
    · -- no pieces at all are written like one that is empty
      subst hnil
      cases holds
      rfl
    · rw [List.splitOn_intercalate ',' (holds.noComma hitems) hnil]
      exact itemsOf_of_holds holds hitems

end Text

/-! ## Lists as values -/

/-- A value that notes a list in one of the two ways. -/
inductive Value.Notes : Value → List String → Prop
  | list (items : List String) : Notes (.list (items.map .text)) items
  | text {s : String} {items : List String} : Text.Notes s items → Notes (.text s) items

/-- Either notation is read as the list. -/
theorem Value.asTexts?_of_notes {v : Value} {items : List String} (h : v.Notes items)
    (hitems : ∀ x ∈ items, Text.IsItem x) : v.asTexts? = some items := by
  cases h with
  | list =>
    have texts : (items.map text).filterMap asText? = items := by
      rw [List.filterMap_map]
      exact List.filterMap_some
    exact congrArg some texts
  | text h => exact congrArg some (Text.commaItems_eq_iff.2 ⟨hitems, h⟩)

namespace Environment

variable {env env' : Environment} {key : String}

theorem getTexts?_of_notes {v : Value} {items : List String} (won : env.get? key = some v)
    (h : v.Notes items) (hitems : ∀ x ∈ items, Text.IsItem x) : env.getTexts? key = some items := by
  rw [getTexts?, won]
  exact Value.asTexts?_of_notes h hitems

/-! ## Values in place of others -/

theorem getText?_congr (same : env'.get? key = env.get? key) : env'.getText? key = env.getText? key := by
  rw [getText?, same, getText?]

theorem getTriState_congr (same : env'.get? key = env.get? key) :
    env'.getTriState key = env.getTriState key := by
  rw [getTriState, same, getTriState]

theorem getFlag_congr (same : env'.get? key = env.get? key) (fallback : Bool) :
    env'.getFlag key fallback = env.getFlag key fallback := by
  rw [getFlag, getTriState_congr same, getFlag]

end Environment

namespace Web

/-- The properties that are lists. -/
def listKeys : List String := [staticLocationsKey, fixedPathsKey, contentPathsKey]

/-- Two environments agree, but for lists that are noted in two ways. -/
structure SameLists (env env' : Environment) : Prop where
  other : ∀ key, key ∉ listKeys → env'.get? key = env.get? key
  lists : ∀ key ∈ listKeys, env'.get? key = env.get? key ∨
    ∃ v v' items, env.get? key = some v ∧ env'.get? key = some v' ∧ v.Notes items ∧ v'.Notes items ∧
      ∀ x ∈ items, Text.IsItem x

namespace SameLists

variable {env env' : Environment}

theorem texts (h : SameLists env env') (key : String) (hkey : key ∈ listKeys) :
    env'.getTexts? key = env.getTexts? key := by
  rcases h.lists key hkey with same | ⟨v, v', items, won, won', notes, notes', hitems⟩
  · rw [Environment.getTexts?, same, Environment.getTexts?]
  · rw [Environment.getTexts?_of_notes won notes hitems, Environment.getTexts?_of_notes won' notes' hitems]

theorem chain (h : SameLists env env') :
    ChainProperties.ofEnvironment env' = ChainProperties.ofEnvironment env := by
  have flag (key : String) (hkey : key ∉ listKeys) (fallback : Bool) :
      env'.getFlag key fallback = env.getFlag key fallback :=
    Environment.getFlag_congr (h.other key hkey) fallback
  unfold ChainProperties.ofEnvironment
  rw [Environment.getTriState_congr (h.other chainEnabledKey (by decide)),
    flag chainCacheKey (by decide), flag chainCompressedKey (by decide),
    flag chainApplicationCacheKey (by decide), flag fixedEnabledKey (by decide),
    flag contentEnabledKey (by decide),
    Environment.getText?_congr (h.other fixedVersionKey (by decide)),
    h.texts fixedPathsKey (by decide), h.texts contentPathsKey (by decide)]

theorem resources (h : SameLists env env') :
    ResourceProperties.ofEnvironment env' = ResourceProperties.ofEnvironment env := by
  have period : ResourceProperties.cachePeriodOf env' = ResourceProperties.cachePeriodOf env := by
    unfold ResourceProperties.cachePeriodOf
    rw [Environment.getText?_congr (h.other cachePeriodKey (by decide))]
  have mappings : env'.getFlag addMappingsKey true = env.getFlag addMappingsKey true :=
    Environment.getFlag_congr (h.other addMappingsKey (by decide)) true
  unfold ResourceProperties.ofEnvironment
  rw [period, mappings, h.texts staticLocationsKey (by decide), h.chain]

end SameLists

variable {env : Environment}

/-- The paths of the chain are the lists of their properties. -/
theorem paths_read {p : ChainProperties} (h : ChainProperties.ofEnvironment env = .ok p) :
    p.strategy.fixed.paths = (env.getTexts? fixedPathsKey).getD defaultPaths ∧
      p.strategy.content.paths = (env.getTexts? contentPathsKey).getD defaultPaths := by
  simp only [ChainProperties.ofEnvironment, Except.bind_eq_ok] at h
  obtain ⟨_, -, _, -, _, -, _, -, _, -, _, -, hp⟩ := h
  cases hp
  exact ⟨rfl, rfl⟩

/-- The static locations are the list of their property, each with a slash at its end. -/
theorem staticLocations_read {p : ResourceProperties} (h : ResourceProperties.ofEnvironment env = .ok p)
    {locations : List String} (hlocations : env.getTexts? staticLocationsKey = some locations) :
    p.staticLocations = locations.map withSlash := by
  simp only [ResourceProperties.ofEnvironment, Except.bind_eq_ok] at h
  obtain ⟨_, -, _, -, _, -, hp⟩ := h
  cases hp
  rw [hlocations]

/-- A list of items is read from a list of these texts, and from a text exactly if it notes them: with
commas between the items, blanks around them and blank items anywhere. Where two environments differ in
the notation of such lists only, the properties that are bound from them are the same, or the same error;
and the properties that are lists hold the items, however they are noted. -/
theorem notations_agree {items : List String} (hitems : ∀ x ∈ items, Text.IsItem x) :
    (∀ (env : Environment) key, env.get? key = some (.list (items.map .text)) →
      env.getTexts? key = some items) ∧
    (∀ (env : Environment) key s, env.get? key = some (.text s) →
      (env.getTexts? key = some items ↔ Text.Notes s items)) ∧
    (∀ env env', SameLists env env' →
      ResourceProperties.ofEnvironment env' = ResourceProperties.ofEnvironment env ∧
      ChainProperties.ofEnvironment env' = ChainProperties.ofEnvironment env) ∧
    ∀ (env : Environment) (v : Value), v.Notes items →
      (∀ p, ResourceProperties.ofEnvironment env = .ok p → env.get? staticLocationsKey = some v →
        p.staticLocations = items.map withSlash) ∧
      ∀ p, ChainProperties.ofEnvironment env = .ok p →
        (env.get? fixedPathsKey = some v → p.strategy.fixed.paths = items) ∧
        (env.get? contentPathsKey = some v → p.strategy.content.paths = items) := by
  refine ⟨fun env key won => ?_, fun env key s won => ?_, fun env env' h => ⟨h.resources, h.chain⟩,
    fun env v notes => ⟨fun p bound won => ?_, fun p bound => ⟨fun won => ?_, fun won => ?_⟩⟩⟩
  · exact Environment.getTexts?_of_notes won (.list items) hitems
  · have read : env.getTexts? key = some (Text.commaItems s) := by
      rw [Environment.getTexts?, won]
      rfl
    rw [read, Option.some.injEq, Text.commaItems_eq_iff]
    exact and_iff_right hitems
  · exact staticLocations_read bound (Environment.getTexts?_of_notes won notes hitems)
  · rw [(paths_read bound).1, Environment.getTexts?_of_notes won notes hitems]
    rfl
  · rw [(paths_read bound).2, Environment.getTexts?_of_notes won notes hitems]
    rfl

/-- Two items with blank ones around them, and blanks of three kinds. -/
def scattered : String := " ,file:/a b ,,\u3000c/\t,"

theorem notations_agree_scattered :
    let written : Environment := .only staticLocationsKey (.text scattered)
    let listed : Environment := .only staticLocationsKey (.list [.text "file:/a b", .text "c/"])
    written.getTexts? staticLocationsKey = some ["file:/a b", "c/"] ∧
    ResourceProperties.ofEnvironment written = ResourceProperties.ofEnvironment listed ∧
    ∃ p, ResourceProperties.ofEnvironment written = .ok p ∧ p.staticLocations = ["file:/a b/", "c/"] := by
  intro written listed
  have hitems : ∀ x ∈ ["file:/a b", "c/"], Text.IsItem x := by
    simp only [List.forall_mem_cons, List.not_mem_nil, false_imp_iff, implies_true, and_true]
    constructor <;> exact ⟨by decide, by decide, by decide⟩
  have blank : Text.Blank [' '] ∧ Text.Blank ['\u3000'] ∧ Text.Blank ['\t'] := by decide
  have notes : Text.Notes scattered ["file:/a b", "c/"] := by
    refine ⟨[[' '], "file:/a b ".toList, [], "\u3000c/\t".toList, []], ?_, by decide⟩
    refine .blank blank.1 (.item ⟨[], [' '], nofun, blank.1, by decide⟩ (.blank nofun ?_))
    exact .item ⟨['\u3000'], ['\t'], blank.2.1, blank.2.2, by decide⟩ (.blank nofun .nil)
  obtain ⟨-, texts, alike, held⟩ := notations_agree hitems
  have same : SameLists listed written := by
    constructor
    · intro key hkey
      have other : key ≠ staticLocationsKey := fun h => hkey (by simp [h, listKeys])
      exact (Environment.get?_only_of_ne other _).trans (Environment.get?_only_of_ne other _).symm
    · intro key _
      by_cases hkey : key = staticLocationsKey
      · subst hkey
        exact .inr ⟨_, _, _, rfl, rfl, .list ["file:/a b", "c/"], .text notes, hitems⟩
      · exact .inl ((Environment.get?_only_of_ne hkey _).trans (Environment.get?_only_of_ne hkey _).symm)
  obtain ⟨p, hp⟩ : ∃ p, ResourceProperties.ofEnvironment written = .ok p := ⟨_, rfl⟩
  refine ⟨(texts _ _ _ rfl).2 notes, (alike _ _ same).1, p, hp, ?_⟩
  exact (held _ _ (.text notes)).1 p hp rfl

end Web

end Startup
