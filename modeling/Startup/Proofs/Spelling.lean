/-
How variables of the process and keys name each other. A key names the variable that has its capitals
for letters and underscores for points and dashes, behind a given beginning; a variable is listed under
the key in small letters with points. The two are inverse to each other, and keys name the same variable
up to the case of ASCII letters and to which separator is used.
-/
import Startup.Proofs.Pairs

namespace Startup

namespace Text

/-! ## Case of ASCII letters -/

def IsAscii (s : String) : Prop := ∀ c ∈ s.toList, c.toNat < 128

theorem toNat_asciiLower (c : Char) : (asciiLower c).toNat =
    if 65 ≤ c.toNat ∧ c.toNat ≤ 90 then c.toNat + 32 else c.toNat := by
  unfold asciiLower
  split <;> rename_i h
  · have hc : 65 ≤ c.toNat ∧ c.toNat ≤ 90 := h
    rw [if_pos hc, Char.ofNat, dif_pos (.inl (by omega))]
    rfl
  · have hc : ¬ (65 ≤ c.toNat ∧ c.toNat ≤ 90) := h
    rw [if_neg hc]

theorem toNat_asciiUpper (c : Char) : (asciiUpper c).toNat =
    if 97 ≤ c.toNat ∧ c.toNat ≤ 122 then c.toNat - 32 else c.toNat := by
  unfold asciiUpper
  split <;> rename_i h
  · have hc : 97 ≤ c.toNat ∧ c.toNat ≤ 122 := h
    rw [if_pos hc, Char.ofNat, dif_pos (.inl (by omega))]
    rfl
  · have hc : ¬ (97 ≤ c.toNat ∧ c.toNat ≤ 122) := h
    rw [if_neg hc]

theorem toList_toUpper {s : String} (h : IsAscii s) : (toUpper s).toList = s.toList.map asciiUpper := by
  have : ∀ cs : List Char, (∀ c ∈ cs, c.toNat < 128) → cs.flatMap upperChar = cs.map asciiUpper := by
    intro cs hcs
    induction cs with
    | nil => rfl
    | cons c rest ih =>
      rw [List.flatMap_cons, List.map_cons, ih fun d hd => hcs d (List.mem_cons_of_mem _ hd), upperChar,
        if_pos (hcs c (List.mem_cons_self ..)), List.singleton_append]
  rw [toUpper, String.toList_ofList, this _ h]

theorem lowerFrom_cons {c : Char} (hc : c.toNat < 128) (before rest : List Char) :
    lowerFrom before (c :: rest) = asciiLower c :: lowerFrom (c :: before) rest := by
  have noSigma : c ≠ 'Σ' := by
    rintro rfl
    exact absurd hc (by decide)
  rw [lowerFrom, if_neg noSigma, lowerChar, if_pos hc, List.singleton_append]

theorem lowerFrom_ascii : ∀ (before cs : List Char), (∀ c ∈ cs, c.toNat < 128) →
    lowerFrom before cs = cs.map asciiLower
  | _, [], _ => rfl
  | before, c :: rest, h => by
    rw [lowerFrom_cons (h c (List.mem_cons_self ..)), List.map_cons,
      lowerFrom_ascii _ rest fun d hd => h d (List.mem_cons_of_mem _ hd)]

theorem toList_toLower {s : String} (h : IsAscii s) : (toLower s).toList = s.toList.map asciiLower := by
  rw [toLower, String.toList_ofList, lowerFrom_ascii _ _ h]

/-! ## Spellings -/

/-- One of the signs that stand between the parts of a key or of a variable. -/
def IsSeparator (c : Char) : Prop := c = '.' ∨ c = '-' ∨ c = '_'

/-- The same sign up to the case of ASCII letters, or two separators. -/
def SameSign (c d : Char) : Prop := asciiLower c = asciiLower d ∨ IsSeparator c ∧ IsSeparator d

/-- Two spellings of one key. -/
def SpelledAlike (s t : String) : Prop := List.Forall₂ SameSign s.toList t.toList

theorem isSeparator_iff {c : Char} : IsSeparator c ↔ c.toNat = 46 ∨ c.toNat = 45 ∨ c.toNat = 95 := by
  unfold IsSeparator
  rw [← Char.toNat_inj, ← Char.toNat_inj, ← Char.toNat_inj]
  rfl

theorem SameSign.ascii {c d : Char} (h : SameSign c d) (hc : c.toNat < 128) : d.toNat < 128 := by
  unfold SameSign at h
  rw [isSeparator_iff, isSeparator_iff, ← Char.toNat_inj, toNat_asciiLower, toNat_asciiLower] at h
  split_ifs at h <;> omega

/-- Every spelling of an ASCII text is an ASCII text. -/
theorem SpelledAlike.ascii {s t : String} (h : SpelledAlike s t) (hs : IsAscii s) : IsAscii t := by
  unfold SpelledAlike at h
  unfold IsAscii at hs ⊢
  generalize s.toList = cs at h hs
  generalize t.toList = ds at h ⊢
  induction h with
  | nil => intro d hd; cases hd
  | @cons c d cs ds same _ ih =>
    intro e he
    rcases List.mem_cons.1 he with rfl | he
    · exact same.ascii (hs c (List.mem_cons_self ..))
    · exact ih (fun c hc => hs c (List.mem_cons_of_mem _ hc)) e he

end Text

open Text

/-! ## Signs of variables -/

/-- A capital, a digit or an underscore. -/
def IsVariableSign (c : Char) : Prop := ('A' ≤ c ∧ c ≤ 'Z') ∨ ('0' ≤ c ∧ c ≤ '9') ∨ c = '_'

theorem isVariableSign_iff {c : Char} : IsVariableSign c ↔
    65 ≤ c.toNat ∧ c.toNat ≤ 90 ∨ 48 ≤ c.toNat ∧ c.toNat ≤ 57 ∨ c.toNat = 95 := by
  unfold IsVariableSign
  rw [← Char.toNat_inj]
  rfl

/-- The sign of a variable for one of a key. -/
def variableSign (c : Char) : Char := asciiUpper (if c == '.' || c == '-' then '_' else c)

/-- The sign of a key for one of a variable. -/
def keySign (c : Char) : Char := if asciiLower c == '_' then '.' else asciiLower c

theorem toNat_variableSign (c : Char) : (variableSign c).toNat =
    if c.toNat = 46 ∨ c.toNat = 45 then 95
    else if 97 ≤ c.toNat ∧ c.toNat ≤ 122 then c.toNat - 32 else c.toNat := by
  have point : (c == '.') = true ↔ c.toNat = 46 := by
    rw [beq_iff_eq, ← Char.toNat_inj]
    rfl
  have dash : (c == '-') = true ↔ c.toNat = 45 := by
    rw [beq_iff_eq, ← Char.toNat_inj]
    rfl
  simp only [variableSign, Bool.or_eq_true, point, dash]
  split
  · rfl
  · exact toNat_asciiUpper c

theorem toNat_keySign (c : Char) : (keySign c).toNat =
    if c.toNat = 95 then 46 else if 65 ≤ c.toNat ∧ c.toNat ≤ 90 then c.toNat + 32 else c.toNat := by
  have underscore : (asciiLower c == '_') = true ↔ c.toNat = 95 := by
    rw [beq_iff_eq, ← Char.toNat_inj, toNat_asciiLower]
    show _ = 95 ↔ _
    split_ifs <;> omega
  simp only [keySign, underscore]
  split
  · rfl
  · exact toNat_asciiLower c

/-- Signs of keys stand for the same sign of variables exactly if they are spelled alike. -/
theorem variableSign_eq_iff {c d : Char} : variableSign c = variableSign d ↔ SameSign c d := by
  unfold SameSign
  rw [isSeparator_iff, isSeparator_iff, ← Char.toNat_inj, ← Char.toNat_inj, toNat_variableSign,
    toNat_variableSign, toNat_asciiLower, toNat_asciiLower]
  split_ifs <;> omega

theorem variableSign_keySign {c : Char} (h : IsVariableSign c) : variableSign (keySign c) = c := by
  rw [isVariableSign_iff] at h
  rw [← Char.toNat_inj, toNat_variableSign, toNat_keySign]
  split_ifs <;> omega

/-! ## Variables and keys -/

theorem toList_variableOfKey (start : String) {key : String} (h : IsAscii key) :
    (variableOfKey start key).toList = start.toList ++ key.toList.map variableSign := by
  have ascii : IsAscii (key.map fun c => if c == '.' || c == '-' then '_' else c) := by
    intro d hd
    rw [String.toList_map] at hd
    obtain ⟨c, hc, rfl⟩ := List.mem_map.1 hd
    split
    · decide
    · exact h c hc
  rw [variableOfKey, String.toList_append, toList_toUpper ascii, String.toList_map, List.map_map]
  rfl

/-- Two ASCII keys name one variable exactly if they are spelled alike. -/
theorem variableOfKey_eq_iff (start : String) {k l : String} (hk : IsAscii k) (hl : IsAscii l) :
    variableOfKey start k = variableOfKey start l ↔ SpelledAlike k l := by
  rw [← String.toList_inj, toList_variableOfKey start hk, toList_variableOfKey start hl,
    List.append_right_inj]
  unfold SpelledAlike
  rw [← List.forall₂_eq_eq_eq, List.forall₂_map_left_iff, List.forall₂_map_right_iff]
  simp only [variableSign_eq_iff]

theorem startsWith_iff {start s : String} :
    startsWith start s = true ↔ ∃ rest, s.toList = start.toList ++ rest := by
  rw [startsWith, List.isPrefixOf_iff_prefix]
  exact ⟨fun ⟨rest, h⟩ => ⟨rest, h.symm⟩, fun ⟨rest, h⟩ => ⟨rest, h.symm⟩⟩

/-- What follows `start` in a name that begins with it is made of signs of variables. -/
def GoesOnPlainly (start name : String) : Prop :=
  ∀ rest, name.toList = start.toList ++ rest → ∀ c ∈ rest, IsVariableSign c

theorem toList_keyOfVariable {start name : String} {rest : List Char}
    (hname : name.toList = start.toList ++ rest) (plain : ∀ c ∈ rest, IsVariableSign c) :
    (keyOfVariable start name).toList = rest.map keySign := by
  have after : after? start name = some (.ofList rest) := by
    rw [after?, if_pos (startsWith_iff.2 ⟨rest, hname⟩), hname, List.drop_left]
  have ascii : IsAscii (.ofList rest) := by
    intro c hc
    have := isVariableSign_iff.1 (plain c (by simpa using hc))
    omega
  rw [keyOfVariable, after, Option.getD_some, String.toList_map, toList_toLower ascii,
    String.toList_ofList, List.map_map]
  rfl

theorem ascii_keyOfVariable {start name : String} (h : startsWith start name = true)
    (plain : GoesOnPlainly start name) : IsAscii (keyOfVariable start name) := by
  obtain ⟨rest, hname⟩ := startsWith_iff.1 h
  intro d hd
  rw [toList_keyOfVariable hname (plain rest hname)] at hd
  obtain ⟨c, hc, rfl⟩ := List.mem_map.1 hd
  have := isVariableSign_iff.1 (plain rest hname c hc)
  rw [toNat_keySign]
  split_ifs <;> omega

/-- The key that a variable is listed under names it. -/
theorem variableOfKey_keyOfVariable {start name : String} (h : startsWith start name = true)
    (plain : GoesOnPlainly start name) : variableOfKey start (keyOfVariable start name) = name := by
  obtain ⟨rest, hname⟩ := startsWith_iff.1 h
  have hkey := toList_keyOfVariable hname (plain rest hname)
  have ascii := ascii_keyOfVariable h plain
  have back : (rest.map keySign).map variableSign = rest := by
    rw [List.map_map]
    exact (List.map_congr_left fun c hc => variableSign_keySign (plain rest hname c hc)).trans
      (List.map_id rest)
  rw [← String.toList_inj, toList_variableOfKey start ascii, hkey, back, hname]

/-! ## The source of variables -/

section Variables

variable {start : String} {vars : Variables}

/-- The variables that a source lists: those whose names begin as said. -/
def Variables.listed (start : String) (vars : Variables) : Variables :=
  vars.filter fun (name, _) => startsWith start name

theorem keys_ofVariables (start : String) (vars : Variables) : (Source.ofVariables start vars).keys =
    (vars.listed start).map fun e => keyOfVariable start e.1 :=
  rfl

variable (plain : ∀ e ∈ vars, GoesOnPlainly start e.1)

include plain

theorem variableOfKey_listed {e : String × String} (h : e ∈ vars.listed start) :
    variableOfKey start (keyOfVariable start e.1) = e.1 := by
  obtain ⟨hmem, hstart⟩ := List.mem_filter.1 h
  exact variableOfKey_keyOfVariable hstart (plain e hmem)

/-- The keys of a source name its variables, one after the other. -/
theorem map_variableOfKey_keys : (Source.ofVariables start vars).keys.map (variableOfKey start) =
    (vars.listed start).map (·.1) := by
  rw [keys_ofVariables, List.map_map]
  exact List.map_congr_left fun e he => variableOfKey_listed plain he

variable (once : (vars.map (·.1)).Nodup)

include once

/-- The keys of a source have the values of its variables, one after the other. -/
theorem map_get?_keys : (Source.ofVariables start vars).keys.map (Source.ofVariables start vars).get? =
    (vars.listed start).map fun e => some (.text e.2) := by
  rw [keys_ofVariables, List.map_map]
  refine List.map_congr_left fun e he => ?_
  have value : vars.lookup e.1 = some e.2 := (lookup_iff_mem once).2 (List.mem_filter.1 he).1
  show (vars.lookup (variableOfKey start (keyOfVariable start e.1))).map Value.text = some (.text e.2)
  rw [variableOfKey_listed plain he, value]
  rfl

theorem nodup_keys_ofVariables : (Source.ofVariables start vars).keys.Nodup := by
  have names : ((vars.listed start).map (·.1)).Nodup := once.sublist (List.filter_sublist.map _)
  rw [← map_variableOfKey_keys plain] at names
  exact List.Nodup.of_map _ names

end Variables

/-- Where the variables that begin as said go on with capitals, digits and underscores, the keys of
their source are one for each of them, all different; each names its variable and has its value as a
text. Two ASCII keys name the same variable exactly if they are spelled alike, so that every spelling of
a listed key has the same value. -/
theorem variables_round_trip (start : String) :
    (∀ vars : Variables, (vars.map (·.1)).Nodup → (∀ e ∈ vars, GoesOnPlainly start e.1) →
      (Source.ofVariables start vars).keys.map (variableOfKey start) = (vars.listed start).map (·.1) ∧
      (Source.ofVariables start vars).keys.map (Source.ofVariables start vars).get? =
        (vars.listed start).map (fun e => some (.text e.2)) ∧
      (Source.ofVariables start vars).keys.Nodup ∧
      ∀ k ∈ (Source.ofVariables start vars).keys, ∀ l, SpelledAlike k l →
        (Source.ofVariables start vars).get? l = (Source.ofVariables start vars).get? k) ∧
    ∀ k l, IsAscii k → IsAscii l → (variableOfKey start k = variableOfKey start l ↔ SpelledAlike k l) := by
  refine ⟨fun vars once plain => ⟨map_variableOfKey_keys plain, map_get?_keys plain once,
    nodup_keys_ofVariables plain once, fun k hk l alike => ?_⟩, fun k l => variableOfKey_eq_iff start⟩
  obtain ⟨e, he, rfl⟩ := List.mem_map.1 hk
  obtain ⟨hmem, hstart⟩ := List.mem_filter.1 he
  have ascii := ascii_keyOfVariable hstart (plain e hmem)
  have same := (variableOfKey_eq_iff start ascii (alike.ascii ascii)).2 alike
  show (vars.lookup (variableOfKey start l)).map Value.text = (vars.lookup _).map Value.text
  rw [same]

/-- Variables behind a beginning that has separators and small letters in it, and one without it. -/
def scatteredVariables : Variables := [("my.app-A_B1", "x"), ("HOME", "/root"), ("my.app-", "y")]

theorem variables_round_trip_scattered :
    (Source.ofVariables "my.app-" scatteredVariables).keys = ["a.b1", ""] ∧
    (Source.ofVariables "my.app-" scatteredVariables).get? "A-b1" = some (.text "x") := by
  have plain : ∀ e ∈ scatteredVariables, GoesOnPlainly "my.app-" e.1 := by
    have signs : ∀ e ∈ scatteredVariables, ∀ c ∈ e.1.toList.drop 7, IsVariableSign c := by
      simp [scatteredVariables, isVariableSign_iff]
    intro e he rest hrest
    have := signs e he
    rwa [hrest, List.drop_left' (by decide)] at this
  obtain ⟨-, values, -, spellings⟩ :=
    (variables_round_trip "my.app-").1 scatteredVariables (by decide) plain
  have keys : (Source.ofVariables "my.app-" scatteredVariables).keys = ["a.b1", ""] := by decide +kernel
  have value : (Source.ofVariables "my.app-" scatteredVariables).get? "a.b1" = some (.text "x") := by
    rw [keys] at values
    exact (List.cons.inj values).1
  refine ⟨keys, ?_⟩
  rw [spellings "a.b1" (by rw [keys]; simp) "A-b1" ?_, value]
  refine .cons (.inl rfl) (.cons (.inr ⟨.inl rfl, .inr (.inl rfl)⟩) ?_)
  exact .cons (.inl rfl) (.cons (.inl rfl) .nil)

end Startup
