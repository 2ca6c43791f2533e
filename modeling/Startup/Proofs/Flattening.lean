/-
Flattened documents. Nested tables are taken apart into pairs of a key and a value, where the key joins
the keys on the path with points. Where no key of a nested table is empty or has a point in it, nothing
is lost and nothing comes to stand under the same key: a key has the value that its parts lead to, and
the keys are those of the values that are no tables.
-/
import Startup.Proofs.Documents
import Startup.Proofs.Pieces

namespace Startup

/-! ## Parts of a key -/

/-- The parts of a key, between its points. -/
def pathOfKey (key : String) : List String := (Text.pieces (· == '.') key.toList).map String.ofList

/-- The key of a path below another one. -/
def keyOfPath (path : String) (keys : List String) : String := keys.foldl joinKey path

/-- A key that a path can be made of and found again in: not empty, and without a point. -/
def IsPart (key : String) : Prop := key ≠ "" ∧ '.' ∉ key.toList

theorem toList_joinKey {path : String} (h : path ≠ "") (key : String) :
    (joinKey path key).toList = path.toList ++ '.' :: key.toList := by
  have : path.isEmpty = false := by simpa using h
  simp [joinKey, this]

theorem joinKey_empty (key : String) : joinKey "" key = key := rfl

/-- A key is its path's keys with points between them. -/
theorem toList_keyOfPath : ∀ {keys : List String} {path : String}, path ≠ "" →
    (keyOfPath path keys).toList = ['.'].intercalate (path.toList :: keys.map String.toList)
  | [], path, _ => by simp [keyOfPath]
  | key :: rest, path, h => by
    have longer : joinKey path key ≠ "" := by
      intro hempty
      have := congrArg String.toList hempty
      rw [toList_joinKey h] at this
      simp at this
    rw [keyOfPath, List.foldl_cons, ← keyOfPath, toList_keyOfPath longer, toList_joinKey h]
    cases rest <;> simp [List.intercalate]

theorem toList_keyOfPath_empty {keys : List String} (hnil : keys ≠ []) (hkeys : ∀ key ∈ keys, key ≠ "") :
    (keyOfPath "" keys).toList = ['.'].intercalate (keys.map String.toList) := by
  obtain ⟨key, rest, rfl⟩ := List.exists_cons_of_ne_nil hnil
  rw [keyOfPath, List.foldl_cons, joinKey_empty]
  exact toList_keyOfPath (hkeys key (List.mem_cons_self ..))

theorem pathOfKey_keyOfPath {keys : List String} (hnil : keys ≠ []) (hkeys : ∀ key ∈ keys, IsPart key) :
    pathOfKey (keyOfPath "" keys) = keys := by
  have pointless : ∀ cs ∈ keys.map String.toList, '.' ∉ cs := by
    intro cs hcs
    obtain ⟨key, hkey, rfl⟩ := List.mem_map.1 hcs
    exact (hkeys key hkey).2
  rw [pathOfKey, toList_keyOfPath_empty hnil fun key hkey => (hkeys key hkey).1, Text.pieces_eq_splitOn,
    List.splitOn_intercalate '.' pointless (by simpa using hnil), List.map_map]
  simp [Function.comp_def]

theorem keyOfPath_pathOfKey {key : String} (h : ∀ part ∈ pathOfKey key, part ≠ "") :
    keyOfPath "" (pathOfKey key) = key := by
  have parts : (pathOfKey key).map String.toList = key.toList.splitOn '.' := by
    simp [pathOfKey, Text.pieces_eq_splitOn, Function.comp_def]
  have hnil : pathOfKey key ≠ [] := by
    intro hnil
    rw [hnil] at parts
    exact List.splitOn_ne_nil _ _ parts.symm
  rw [← String.toList_inj, toList_keyOfPath_empty hnil h, parts, List.intercalate_splitOn]

/-! ## Leaves -/

namespace Toml

def Value.isTable : Value → Bool
  | .table _ => true
  | _ => false

mutual
/-- The values that are no tables with the paths that lead to them, in order. -/
def Value.leaves : Value → List (List String × Value)
  | .table entries => leavesOf entries
  | v => [([], v)]

def leavesOf : List (String × Value) → List (List String × Value)
  | [] => []
  | (key, v) :: rest => (v.leaves.map fun (path, leaf) => (key :: path, leaf)) ++ leavesOf rest
end

/-- The leaf of a value that is no table is the value itself. -/
theorem Value.leaves_of_not_table {v : Value} (h : v.isTable = false) : v.leaves = [([], v)] := by
  cases v <;> first | rfl | cases h

theorem Value.at?_of_not_table {v : Value} (h : v.isTable = false) (key : String) (rest : List String) :
    v.at? (key :: rest) = none := by
  cases v <;> first | rfl | cases h

theorem Value.exists_of_isTable {v : Value} (h : v.isTable = true) : ∃ entries, v = .table entries := by
  cases v <;> first | exact ⟨_, rfl⟩ | cases h

theorem mem_leavesOf {entries : List (String × Value)} {path : List String} {leaf : Value} :
    (path, leaf) ∈ leavesOf entries ↔
      ∃ key v rest, (key, v) ∈ entries ∧ path = key :: rest ∧ (rest, leaf) ∈ v.leaves := by
  induction entries with
  | nil => simp [leavesOf]
  | cons e more ih =>
    obtain ⟨k, u⟩ := e
    rw [leavesOf, List.mem_append, ih, List.mem_map]
    constructor
    · rintro (⟨⟨rest, leaf'⟩, hleaf, heq⟩ | ⟨key, v, rest, hv, rfl, hleaf⟩)
      · obtain ⟨rfl, rfl⟩ := Prod.mk.inj heq
        exact ⟨k, u, rest, List.mem_cons_self .., rfl, hleaf⟩
      · exact ⟨key, v, rest, List.mem_cons_of_mem _ hv, rfl, hleaf⟩
    · rintro ⟨key, v, rest, hv, rfl, hleaf⟩
      rcases List.mem_cons.1 hv with heq | hv
      · obtain ⟨rfl, rfl⟩ := Prod.mk.inj heq
        exact .inl ⟨(rest, leaf), hleaf, rfl⟩
      · exact .inr ⟨key, v, rest, hv, rfl, hleaf⟩

/-- Where each table has each key once, the leaves are what paths lead to that is no table. -/
theorem Value.mem_leaves {leaf : Value} : ∀ {path : List String} {v : Value}, v.Throughout List.Nodup →
    ((path, leaf) ∈ v.leaves ↔ v.at? path = some leaf ∧ leaf.isTable = false)
  | path, v, once => by
    cases htable : v.isTable with
    | false =>
      rw [leaves_of_not_table htable, List.mem_singleton, Prod.mk.injEq]
      cases path with
      | nil =>
        rw [at?, Option.some.injEq]
        constructor
        · rintro ⟨-, rfl⟩
          exact ⟨rfl, htable⟩
        · rintro ⟨rfl, -⟩
          exact ⟨rfl, rfl⟩
      | cons key rest => simp [at?_of_not_table htable]
    | true =>
      obtain ⟨entries, rfl⟩ := exists_of_isTable htable
      rw [leaves, mem_leavesOf]
      cases path with
      | nil =>
        refine ⟨by simp, ?_⟩
        rintro ⟨hleaf, hno⟩
        cases hleaf
        cases hno
      | cons key rest =>
        have inside {u : Value} (hu : (key, u) ∈ entries) :
            (rest, leaf) ∈ u.leaves ↔ u.at? rest = some leaf ∧ leaf.isTable = false :=
          mem_leaves (once.entry ((lookup_iff_mem once.keys).2 hu))
        constructor
        · rintro ⟨key', u, rest', hu, heq, hleaf⟩
          obtain ⟨rfl, rfl⟩ := List.cons.inj heq
          obtain ⟨hat, hno⟩ := (inside hu).1 hleaf
          rw [at?, (lookup_iff_mem once.keys).2 hu]
          exact ⟨hat, hno⟩
        · rintro ⟨hat, hno⟩
          obtain ⟨u, hu, hat⟩ := Option.bind_eq_some_iff.1 hat
          have mem := (lookup_iff_mem once.keys).1 hu
          exact ⟨key, u, rest, mem, rfl, (inside mem).2 ⟨hat, hno⟩⟩

mutual
/-- No path leads to two leaves. -/
theorem Value.nodup_leaves : ∀ v : Value, v.Throughout List.Nodup → (v.leaves.map (·.1)).Nodup
  | .table entries, once => by
    rw [Value.leaves]
    exact nodup_leavesOf entries once.keys fun e he =>
      once.entry ((lookup_iff_mem once.keys).2 he)
  | .text _, _ | .integer _, _ | .float _, _ | .boolean _, _ | .datetime _, _ | .array _, _ =>
    List.nodup_singleton []

theorem nodup_leavesOf : ∀ entries : List (String × Value), (entries.map (·.1)).Nodup →
    (∀ e ∈ entries, e.2.Throughout List.Nodup) → ((leavesOf entries).map (·.1)).Nodup
  | [], _, _ => List.nodup_nil
  | (key, v) :: rest, once, inside => by
    obtain ⟨hnew, hrest⟩ := List.nodup_cons.1 once
    have first := Value.nodup_leaves v (inside (key, v) (List.mem_cons_self ..))
    have later := nodup_leavesOf rest hrest fun e he => inside e (List.mem_cons_of_mem _ he)
    rw [leavesOf, List.map_append, List.nodup_append]
    refine ⟨?_, later, ?_⟩
    · have paths : (v.leaves.map fun (path, leaf) => (key :: path, leaf)).map (·.1) =
          (v.leaves.map (·.1)).map (key :: ·) := by
        simp [Function.comp_def]
      rw [paths]
      exact List.Nodup.map List.cons_injective first
    · -- the paths of one entry begin with its key, and those of later ones do not
      intro path hpath path' hpath' heq
      obtain ⟨_, hmem, rfl⟩ := List.mem_map.1 hpath
      obtain ⟨⟨under, _⟩, -, rfl⟩ := List.mem_map.1 hmem
      obtain ⟨⟨_, leaf⟩, hleaf, rfl⟩ := List.mem_map.1 hpath'
      obtain ⟨key', u, _, hu, hpath', -⟩ := mem_leavesOf.1 hleaf
      obtain ⟨rfl, -⟩ := List.cons.inj (heq.trans hpath')
      exact hnew (List.mem_map.2 ⟨_, hu, rfl⟩)
end

/-- The keys on a path that leads somewhere are keys of the tables that it leads through. -/
theorem Value.Throughout.path {P : String → Prop} : ∀ {path : List String} {v leaf : Value},
    v.Throughout (fun keys => ∀ key ∈ keys, P key) → v.at? path = some leaf → ∀ key ∈ path, P key
  | [], _, _, _, _ => fun key hkey => by cases hkey
  | key :: rest, v, leaf, h, hat => by
    cases v with
    | table entries =>
      obtain ⟨u, hu, hat⟩ := Option.bind_eq_some_iff.1 hat
      intro k hk
      rcases List.mem_cons.1 hk with rfl | hk
      · exact h.keys k (List.mem_map_of_mem (mem_of_lookup hu))
      · exact Throughout.path (h.entry hu) hat k hk
    | _ => cases hat

end Toml

/-! ## Conversion -/

/-- What a property value says of a document's value: the same kind and content, dates and times as the
text that shows them, and lists and tables item by item. -/
inductive Value.Says : Toml.Value → Value → Prop
  | text (s : String) : Says (.text s) (.text s)
  | integer (n : Int64) : Says (.integer n) (.int n)
  | float (x : Number.Double) : Says (.float x) (.float x)
  | boolean (b : Bool) : Says (.boolean b) (.bool b)
  | datetime (shown : String) : Says (.datetime shown) (.text shown)
  | array {items : List Toml.Value} {items' : List Value} :
    List.Forall₂ Says items items' → Says (.array items) (.list items')
  | table {entries : List (String × Toml.Value)} {entries' : List (String × Value)} :
    entries'.map (·.1) = entries.map (·.1) →
      List.Forall₂ Says (entries.map (·.2)) (entries'.map (·.2)) → Says (.table entries) (.table entries')

mutual
theorem Value.says_ofToml : ∀ v : Toml.Value, Value.Says v (.ofToml v)
  | .text s => .text s
  | .integer n => .integer n
  | .float x => .float x
  | .boolean b => .boolean b
  | .datetime shown => .datetime shown
  | .array items => .array (says_listOfToml items)
  | .table entries => .table (keys_entriesOfToml entries) (says_entriesOfToml entries)

theorem says_listOfToml : ∀ items : List Toml.Value, List.Forall₂ Value.Says items (listOfToml items)
  | [] => .nil
  | v :: rest => .cons (Value.says_ofToml v) (says_listOfToml rest)

theorem keys_entriesOfToml : ∀ entries : List (String × Toml.Value),
    (entriesOfToml entries).map (·.1) = entries.map (·.1)
  | [] => rfl
  | (key, _) :: rest => congrArg (key :: ·) (keys_entriesOfToml rest)

theorem says_entriesOfToml : ∀ entries : List (String × Toml.Value),
    List.Forall₂ Value.Says (entries.map (·.2)) ((entriesOfToml entries).map (·.2))
  | [] => .nil
  | (_, v) :: rest => .cons (Value.says_ofToml v) (says_entriesOfToml rest)
end

mutual
theorem Value.Says.eq : ∀ {v : Toml.Value} {v' : Value}, Value.Says v v' → v' = .ofToml v
  | .text _, _, .text _ | .integer _, _, .integer _ | .float _, _, .float _
  | .boolean _, _, .boolean _ | .datetime _, _, .datetime _ => rfl
  | .array _, _, .array h => congrArg Value.list (list_says_eq h)
  | .table _, _, .table hkeys h => congrArg Value.table (entries_say_eq hkeys h)

theorem list_says_eq : ∀ {items : List Toml.Value} {items' : List Value},
    List.Forall₂ Value.Says items items' → items' = listOfToml items
  | [], _, .nil => rfl
  | _ :: _, _, .cons h rest => by rw [listOfToml, Value.Says.eq h, list_says_eq rest]

theorem entries_say_eq : ∀ {entries : List (String × Toml.Value)} {entries' : List (String × Value)},
    entries'.map (·.1) = entries.map (·.1) →
      List.Forall₂ Value.Says (entries.map (·.2)) (entries'.map (·.2)) → entries' = entriesOfToml entries
  | [], [], _, _ => rfl
  | (key, v) :: rest, (key', v') :: rest', hkeys, .cons h hrest => by
    obtain ⟨hkey, hlater⟩ := List.cons.inj hkeys
    have hv : v' = .ofToml v := Value.Says.eq h
    have hentries : rest' = entriesOfToml rest := entries_say_eq hlater hrest
    rw [entriesOfToml, hentries, hv, show key' = key from hkey]
end

theorem Value.says_iff {v : Toml.Value} {v' : Value} : Value.Says v v' ↔ v' = .ofToml v :=
  ⟨Value.Says.eq, fun h => h ▸ Value.says_ofToml v⟩

/-! ## Flattening -/

mutual
/-- Flattening gives the leaves, each with the key of its path. -/
theorem flatten_eq (path : String) : ∀ v : Toml.Value, flatten path v =
    v.leaves.map fun (keys, leaf) => (keyOfPath path keys, .ofToml leaf)
  | .table entries => by rw [flatten, Toml.Value.leaves, flattenEntries_eq]
  | .text _ | .integer _ | .float _ | .boolean _ | .datetime _ | .array _ => rfl

theorem flattenEntries_eq (path : String) : ∀ entries : List (String × Toml.Value),
    flattenEntries path entries =
      (Toml.leavesOf entries).map fun (keys, leaf) => (keyOfPath path keys, .ofToml leaf)
  | [] => rfl
  | (key, v) :: rest => by
    rw [flattenEntries, Toml.leavesOf, flatten_eq (joinKey path key) v, flattenEntries_eq path rest,
      List.map_append, List.map_map]
    rfl
end

/-- A key leads to a value: its parts, one after the other, lead through nested tables to that value,
which is no table. -/
def LeadsTo (root : List (String × Toml.Value)) (key : String) (leaf : Toml.Value) : Prop :=
  (Toml.Value.table root).at? (pathOfKey key) = some leaf ∧ leaf.isTable = false

section Root

variable {root : List (String × Toml.Value)}
  (once : (Toml.Value.table root).Throughout List.Nodup)
  (parts : (Toml.Value.table root).Throughout fun keys => ∀ key ∈ keys, IsPart key)

include once parts

/-- The path of a leaf is found again in its key. -/
theorem pathOfKey_leaf {path : List String} {leaf : Toml.Value}
    (h : (path, leaf) ∈ Toml.leavesOf root) : pathOfKey (keyOfPath "" path) = path := by
  have hat : (Toml.Value.table root).at? path = some leaf := ((Toml.Value.mem_leaves once).1 h).1
  obtain ⟨key, _, rest, -, rfl, -⟩ := Toml.mem_leavesOf.1 h
  exact pathOfKey_keyOfPath (by simp) (parts.path hat)

theorem mem_flattenEntries {key : String} {v : Value} :
    (key, v) ∈ flattenEntries "" root ↔ ∃ leaf, LeadsTo root key leaf ∧ v = .ofToml leaf := by
  rw [flattenEntries_eq, List.mem_map]
  constructor
  · rintro ⟨⟨path, leaf⟩, hleaf, heq⟩
    obtain ⟨rfl, rfl⟩ := Prod.mk.inj heq
    refine ⟨leaf, ?_, rfl⟩
    unfold LeadsTo
    rw [pathOfKey_leaf once parts hleaf]
    exact (Toml.Value.mem_leaves once).1 hleaf
  · rintro ⟨leaf, hleads, rfl⟩
    have named : keyOfPath "" (pathOfKey key) = key :=
      keyOfPath_pathOfKey fun part hpart => (parts.path hleads.1 part hpart).1
    exact ⟨(pathOfKey key, leaf), (Toml.Value.mem_leaves once).2 hleads, by simp only [named]⟩

/-- No two leaves come to have the same key. -/
theorem nodup_flattenEntries : ((flattenEntries "" root).map (·.1)).Nodup := by
  have keys : (flattenEntries "" root).map (·.1) =
      ((Toml.leavesOf root).map (·.1)).map (keyOfPath "") := by
    rw [flattenEntries_eq, List.map_map, List.map_map]
    rfl
  have paths : ((Toml.leavesOf root).map (·.1)).Nodup := Toml.Value.nodup_leaves _ once
  rw [keys]
  refine paths.map_on fun path hpath path' hpath' heq => ?_
  obtain ⟨⟨_, leaf⟩, hleaf, rfl⟩ := List.mem_map.1 hpath
  obtain ⟨⟨_, leaf'⟩, hleaf', rfl⟩ := List.mem_map.1 hpath'
  have found := congrArg pathOfKey heq
  rwa [pathOfKey_leaf once parts hleaf, pathOfKey_leaf once parts hleaf'] at found

end Root

/-- The flattened tables of a document answer for a key with what its parts lead to through nested
tables, converted, and have a key for each such value and no other. It is enough that no key of a nested
table is empty or has a point in it; that each key stands once in its table is so in every parsed
document. -/
theorem flattened_by_path (name : String) (priority : Int) :
    (∀ text root, Toml.parse? text = some root →
      (Toml.Value.table root).Throughout List.Nodup ∧
        Source.ofToml name priority text = .ok (.ofTable name priority root)) ∧
    ∀ root, (Toml.Value.table root).Throughout List.Nodup →
      ((Toml.Value.table root).Throughout fun keys => ∀ key ∈ keys, IsPart key) →
      (∀ key v, (Source.ofTable name priority root).get? key = some v ↔
        ∃ leaf, LeadsTo root key leaf ∧ Value.Says leaf v) ∧
      (Source.ofTable name priority root).keys.Nodup ∧
      ∀ key, key ∈ (Source.ofTable name priority root).keys ↔ ∃ leaf, LeadsTo root key leaf := by
  refine ⟨fun text root h => ⟨?_, ?_⟩, fun root once parts => ?_⟩
  · exact (Toml.ordered_of_parse? h).imp fun keys sorted => sorted.imp fun below => ne_of_lt below
  · simp only [Source.ofToml, h]
  have nodup := nodup_flattenEntries once parts
  have pairs : Properties.ofPairs (flattenEntries "" root) = flattenEntries "" root :=
    Properties.ofPairs_of_nodup nodup
  have keys : (Source.ofTable name priority root).keys = (flattenEntries "" root).map (·.1) := by
    rw [Source.ofTable, Source.ofPairs, pairs]
    rfl
  refine ⟨fun key v => ?_, keys ▸ nodup, fun key => ?_⟩
  · have get : (Source.ofTable name priority root).get? key = (flattenEntries "" root).lookup key := by
      rw [Source.ofTable, Source.ofPairs, pairs]
      rfl
    rw [get, lookup_iff_mem nodup, mem_flattenEntries once parts]
    simp only [Value.says_iff]
  · rw [keys, List.mem_map]
    constructor
    · rintro ⟨⟨_, v⟩, hv, rfl⟩
      obtain ⟨leaf, hleads, -⟩ := (mem_flattenEntries once parts).1 hv
      exact ⟨leaf, hleads⟩
    · rintro ⟨leaf, hleads⟩
      exact ⟨(key, .ofToml leaf), (mem_flattenEntries once parts).2 ⟨leaf, hleads, rfl⟩, rfl⟩

/-- A table in tables, with a list that keeps a table whose key has a point in it. -/
def nestedRoot : List (String × Toml.Value) :=
  [("a", .table [("b", .table [("c", .array [.table [("d.e", .integer 1)], .datetime "1979-05-27"])])])]

theorem flattened_by_path_nested :
    (∃ root, Toml.parse? "a.b = 1" = some root ∧
      Source.ofToml "" 0 "a.b = 1" = .ok (.ofTable "" 0 root)) ∧
    (Source.ofTable "" 0 nestedRoot).get? "a.b.c" =
      some (.list [.table [("d.e", .int 1)], .text "1979-05-27"]) ∧
    "a.b" ∉ (Source.ofTable "" 0 nestedRoot).keys := by
  obtain ⟨parsed, flattened⟩ := flattened_by_path "" 0
  have throughout {P : List String → Prop} (h : P ["a"] ∧ P ["b"] ∧ P ["c"]) :
      (Toml.Value.table nestedRoot).Throughout P := by
    refine Toml.Value.throughout_table h.1 fun e he => ?_
    obtain rfl := List.mem_singleton.1 he
    refine Toml.Value.throughout_table h.2.1 fun e he => ?_
    obtain rfl := List.mem_singleton.1 he
    refine Toml.Value.throughout_table h.2.2 fun e he => ?_
    obtain rfl := List.mem_singleton.1 he
    exact Toml.Value.throughout_of_ne_table fun entries => by simp
  obtain ⟨get, -, keys⟩ := flattened nestedRoot (throughout (by simp))
    (throughout (by simp [IsPart]))
  refine ⟨?_, (get _ _).2 ⟨_, ⟨rfl, rfl⟩, Value.says_iff.2 rfl⟩, fun hmem => ?_⟩
  · obtain ⟨root, hroot⟩ : ∃ root, Toml.parse? "a.b = 1" = some root :=
      Option.isSome_iff_exists.1 (by decide +kernel)
    exact ⟨root, hroot, (parsed _ root hroot).2⟩
  · obtain ⟨leaf, hleads, hleaf⟩ := (keys "a.b").1 hmem
    cases hleads
    cases hleaf

end Startup
