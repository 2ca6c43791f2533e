/-
What the tables of a parsed document are like. However its statements are ordered and whichever way a
table is given, by headers, dotted keys or braces, every table that a path of keys leads to has its keys
in order, each once.
-/
import Startup.Proofs.Pairs
import Startup.Toml.Document
import Mathlib.Data.String.Basic

namespace Startup

/-! ## What a reader yields -/

namespace Text.Reader

variable {α β : Type} {P Q : α → Prop}

/-- Every value that the reader takes off a text is as said. -/
def Yields (r : Reader α) (P : α → Prop) : Prop := ∀ cs a rest, r cs = some (a, rest) → P a

theorem yields_any (r : Reader α) : r.Yields fun _ => True := fun _ _ _ _ => trivial

theorem yields_pure {a : α} (h : P a) : Yields (pure a) P := by
  intro cs b rest hb
  cases hb
  exact h

theorem yields_refuse : Yields refuse P := by
  intro cs a rest h
  cases h

theorem Yields.bind {r : Reader α} {f : α → Reader β} {R : β → Prop} (h : r.Yields P)
    (hf : ∀ a, P a → (f a).Yields R) : (r >>= f).Yields R := by
  intro cs b rest hb
  obtain ⟨⟨a, more⟩, ha, hb⟩ := Option.bind_eq_some_iff.1 hb
  exact hf a (h cs a more ha) more b rest hb

/-- What is read before may be anything. -/
theorem yields_then {r : Reader α} {f : α → Reader β} {R : β → Prop} (hf : ∀ a, (f a).Yields R) :
    (r >>= f).Yields R :=
  (yields_any r).bind fun a _ => hf a

theorem Yields.map {r : Reader α} {f : α → β} {R : β → Prop} (h : r.Yields P)
    (hf : ∀ a, P a → R (f a)) : (f <$> r).Yields R := by
  intro cs b rest hb
  obtain ⟨⟨a, more⟩, ha, hb⟩ := Option.bind_eq_some_iff.1 hb
  cases hb
  exact hf a (h cs a rest ha)

theorem Yields.orElse {first second : Reader α} (h : first.Yields P) (h' : second.Yields P) :
    (orElse first second).Yields P := by
  intro cs a rest ha
  unfold Reader.orElse at ha
  split at ha
  · rename_i hfirst
    cases ha
    exact h cs a rest hfirst
  · exact h' cs a rest ha

theorem Yields.maybe {r : Reader α} (h : r.Yields P) : (maybe r).Yields fun a? => ∀ a ∈ a?, P a :=
  (h.map fun a ha b hb => by cases hb; exact ha).orElse (yields_pure fun a ha => by cases ha)

theorem Yields.rounds {r : Reader α} (h : r.Yields P) :
    ∀ bound, (rounds r bound).Yields fun as => ∀ a ∈ as, P a
  | 0 => yields_pure fun a ha => by cases ha
  | bound + 1 => by
    intro cs as rest has
    unfold Reader.rounds at has
    split at has
    · cases has
      exact fun a ha => by cases ha
    · rename_i first more hfirst
      split at has
      · split at has
        · rename_i others rest' hothers
          cases has
          intro a ha
          rcases List.mem_cons.1 ha with rfl | ha
          · exact h cs a more hfirst
          · exact Yields.rounds h bound more others rest hothers a ha
        · cases has
      · cases has
        exact fun a ha => by cases ha

theorem Yields.many {r : Reader α} (h : r.Yields P) : (many r).Yields fun as => ∀ a ∈ as, P a :=
  fun cs => h.rounds cs.length cs

theorem Yields.separated1 {r : Reader α} {separator : Reader Unit} (h : r.Yields P) :
    (separated1 r separator).Yields fun as => ∀ a ∈ as, P a := by
  refine h.bind fun first hfirst => ?_
  refine (Yields.many (yields_then fun _ => h)).bind fun more hmore => yields_pure fun a ha => ?_
  rcases List.mem_cons.1 ha with rfl | ha
  · exact hfirst
  · exact hmore a ha

end Text.Reader

namespace Toml

/-! ## Paths of keys -/

namespace Value

/-- The value that a path of keys leads to through nested tables. -/
def at? : List String → Value → Option Value
  | [], v => some v
  | key :: rest, .table entries => (entries.lookup key).bind (at? rest)
  | _ :: _, _ => none

/-- The keys of every table that a path leads to are as said. -/
def Throughout (P : List String → Prop) (v : Value) : Prop :=
  ∀ path entries, v.at? path = some (.table entries) → P (entries.map (·.1))

variable {P Q : List String → Prop} {v : Value}

theorem Throughout.imp (h : v.Throughout P) (hPQ : ∀ keys, P keys → Q keys) : v.Throughout Q :=
  fun path entries hpath => hPQ _ (h path entries hpath)

/-- No path leads from a value that is no table to one. -/
theorem throughout_of_ne_table (h : ∀ entries, v ≠ .table entries) : v.Throughout P := by
  intro path entries hpath
  cases path with
  | nil => exact absurd (Option.some.inj hpath) (h entries)
  | cons key rest =>
    cases v with
    | table entries => exact absurd rfl (h entries)
    | _ => cases hpath

theorem Throughout.keys {entries : List (String × Value)} (h : (table entries).Throughout P) :
    P (entries.map (·.1)) :=
  h [] entries rfl

theorem Throughout.entry {entries : List (String × Value)} {key : String}
    (h : (table entries).Throughout P) (hv : entries.lookup key = some v) : v.Throughout P := by
  intro path inner hpath
  refine h (key :: path) inner ?_
  rw [at?, hv]
  exact hpath

theorem throughout_table {entries : List (String × Value)} (hkeys : P (entries.map (·.1)))
    (h : ∀ e ∈ entries, e.2.Throughout P) : (table entries).Throughout P := by
  intro path inner hpath
  cases path with
  | nil =>
    cases hpath
    exact hkeys
  | cons key rest =>
    obtain ⟨v, hv, hrest⟩ := Option.bind_eq_some_iff.1 hpath
    exact h (key, v) (mem_of_lookup hv) rest inner hrest

/-- Each table has its keys in order, and so each of them once. -/
abbrev Ordered (v : Value) : Prop := v.Throughout (·.Pairwise (· < ·))

end Value

/-! ## Changes of tables -/

namespace Node

theorem finish_eq_map (entries : Entries) :
    finish entries = entries.map fun (k, n) => (k, n.toValue) := by
  induction entries with
  | nil => rfl
  | cons e rest ih => rw [finish, ih, List.map_cons]

end Node

/-- The finished table has its keys in order, and so has every table in it. -/
structure Entries.Ordered (entries : Entries) : Prop where
  keys : (entries.map (·.1)).Pairwise (· < ·)
  nodes : ∀ e ∈ entries, e.2.toValue.Ordered

namespace Entries

variable {entries : Entries} {key : String}

theorem Ordered.table (h : Entries.Ordered entries) : (Value.table (Node.finish entries)).Ordered := by
  rw [Node.finish_eq_map]
  refine Value.throughout_table ?_ fun e he => ?_
  · rw [List.map_map]
    exact h.keys
  · obtain ⟨entry, hentry, rfl⟩ := List.mem_map.1 he
    exact h.nodes entry hentry

theorem ordered_of_table (h : (Value.table (Node.finish entries)).Ordered) : Entries.Ordered entries := by
  rw [Node.finish_eq_map] at h
  have keys : (entries.map (·.1)).Pairwise (· < ·) := by
    simpa [List.map_map, Function.comp_def] using h.keys
  have once : ((entries.map fun (k, n) => (k, n.toValue)).map (·.1)).Nodup :=
    h.keys.imp fun below => ne_of_lt below
  refine ⟨keys, fun e he => ?_⟩
  have found : (entries.map fun (k, n) => (k, n.toValue)).lookup e.1 = some e.2.toValue :=
    (lookup_iff_mem once).2 (List.mem_map.2 ⟨e, he, rfl⟩)
  exact h.entry found

theorem ordered_nil : Entries.Ordered [] := ⟨.nil, fun e he => by cases he⟩

theorem mem_insertEntry {n : Node} {e : String × Node} (h : e ∈ insertEntry key n entries) :
    e = (key, n) ∨ e ∈ entries := by
  induction entries with
  | nil => exact .inl (List.mem_singleton.1 h)
  | cons first rest ih =>
    unfold insertEntry at h
    split at h
    · exact List.mem_cons.1 h
    · split at h
      · rcases List.mem_cons.1 h with rfl | h
        · exact .inl rfl
        · exact .inr (List.mem_cons_of_mem _ h)
      · rcases List.mem_cons.1 h with rfl | h
        · exact .inr (List.mem_cons_self ..)
        · exact (ih h).imp_right (List.mem_cons_of_mem _)

theorem insertEntry_sorted (n : Node) : ∀ {entries : Entries},
    (entries.map (·.1)).Pairwise (· < ·) → ((insertEntry key n entries).map (·.1)).Pairwise (· < ·)
  | [], _ => List.pairwise_singleton ..
  | (k, m) :: rest, sorted => by
    obtain ⟨first, later⟩ := List.pairwise_cons.1 sorted
    unfold insertEntry
    split
    · rename_i below
      refine List.pairwise_cons.2 ⟨fun k' hk' => ?_, sorted⟩
      rcases List.mem_cons.1 hk' with rfl | hk'
      · exact below
      · exact below.trans (first k' hk')
    · rename_i notBelow
      split
      · rename_i same
        subst same
        exact sorted
      · rename_i other
        have above : k < key := lt_of_le_of_ne (not_lt.1 notBelow) (Ne.symm other)
        refine List.pairwise_cons.2 ⟨fun k' hk' => ?_, insertEntry_sorted n later⟩
        obtain ⟨e, he, rfl⟩ := List.mem_map.1 hk'
        rcases mem_insertEntry he with rfl | he
        · exact above
        · exact first _ (List.mem_map_of_mem he)

theorem Ordered.insert (h : Entries.Ordered entries) {n : Node} (hn : n.toValue.Ordered) :
    Entries.Ordered (insertEntry key n entries) := by
  refine ⟨insertEntry_sorted n h.keys, fun e he => ?_⟩
  rcases mem_insertEntry he with rfl | he
  · exact hn
  · exact h.nodes e he

theorem Ordered.lookup (h : Entries.Ordered entries) {n : Node} (hn : entries.lookup key = some n) :
    n.toValue.Ordered :=
  h.nodes (key, n) (mem_of_lookup hn)

end Entries

namespace Change

/-- A change after which every table still has its keys in order. -/
def Keeps (f : Change) : Prop :=
  ∀ entries entries', Entries.Ordered entries → f entries = some entries' → Entries.Ordered entries'

variable {f : Change} {key : String}

theorem keeps_none : Keeps fun _ => none := by
  intro entries entries' _ h
  cases h

theorem keeps_within {missing : Origin} {enter : Origin → Bool} (hf : Keeps f) :
    Keeps (within key missing enter f) := by
  intro entries entries' h hchange
  unfold within at hchange
  split at hchange
  · obtain ⟨t, ht, rfl⟩ := Option.map_eq_some_iff.1 hchange
    exact h.insert (hf [] t Entries.ordered_nil ht).table
  · cases hchange
  · rename_i origin t hlookup
    split at hchange
    · obtain ⟨t', ht', rfl⟩ := Option.map_eq_some_iff.1 hchange
      exact h.insert (hf t t' (Entries.ordered_of_table (h.lookup hlookup)) ht').table
    · cases hchange
  · cases hchange
  · -- no path leads into the tables of a repeated header, so that nothing is said of their keys
    split at hchange
    · obtain ⟨t', -, rfl⟩ := Option.map_eq_some_iff.1 hchange
      exact h.insert (Value.throughout_of_ne_table fun entries => by simp [Node.toValue])
    · cases hchange

theorem keeps_underHeaders (hf : Keeps f) : ∀ path, Keeps (underHeaders f path)
  | [] => hf
  | _ :: rest => keeps_within (keeps_underHeaders hf rest)

theorem keeps_openTable (key : String) : Keeps (openTable key) := by
  intro entries entries' h hchange
  unfold openTable at hchange
  split at hchange
  · cases hchange
    exact h.insert Entries.ordered_nil.table
  · rename_i t hlookup
    cases hchange
    -- how a table was made is no part of its value
    exact h.insert (h.lookup hlookup : (Node.table .inner t).toValue.Ordered)
  · cases hchange

theorem keeps_openRepeated (key : String) : Keeps (openRepeated key) := by
  intro entries entries' h hchange
  unfold openRepeated at hchange
  split at hchange <;> cases hchange <;>
    exact h.insert (Value.throughout_of_ne_table fun entries => by simp [Node.toValue])

theorem keeps_assignNew {v : Value} (hv : v.Ordered) : Keeps (assignNew key v) := by
  intro entries entries' h hchange
  unfold assignNew at hchange
  split at hchange <;> cases hchange
  exact h.insert hv

theorem keeps_assign {v : Value} (hv : v.Ordered) : ∀ path, Keeps (assign v path)
  | [] => keeps_none
  | [_] => keeps_assignNew hv
  | [_, _] => keeps_within (keeps_assignNew hv)
  | _ :: b :: c :: rest => keeps_within (keeps_assign hv (b :: c :: rest))

end Change

/-! ## Documents -/

/-- What each step keeps, a run of steps keeps. -/
theorem foldlM_keeps {α β : Type} {f : β → α → Option β} {I : β → Prop} :
    ∀ {as : List α} {b b' : β}, (∀ a ∈ as, ∀ b b', I b → f b a = some b' → I b') → I b →
      as.foldlM f b = some b' → I b'
  | [], _, _, _, hb, h => by
    cases h
    exact hb
  | a :: as, b, b', keep, hb, h => by
    rw [List.foldlM_cons] at h
    obtain ⟨m, hm, h⟩ := Option.bind_eq_some_iff.1 h
    exact foldlM_keeps (fun a ha => keep a (List.mem_cons_of_mem _ ha))
      (keep a (List.mem_cons_self ..) b m hb hm) h

open Text Text.Reader

theorem yields_inlineTable {value : Reader Value} (h : value.Yields Value.Ordered) :
    (inlineTable value).Yields Value.Ordered := by
  have statement : Yields (do
      let path ← key
      char '='
      blanks
      let v ← value
      blanks
      pure (path, v)) fun s : List String × Value => s.2.Ordered :=
    yields_then fun path => yields_then fun _ => yields_then fun _ =>
      h.bind fun v hv => yields_then fun _ => yields_pure hv
  refine yields_then fun _ => (statement.separated1.maybe).bind fun statements hstatements => ?_
  refine yields_then fun _ => yields_then fun _ => ?_
  split
  · rename_i entries hentries
    refine yields_pure (Entries.Ordered.table ?_)
    refine foldlM_keeps (fun s hs entries entries' => ?_) Entries.ordered_nil hentries
    cases statements with
    | none => cases hs
    | some statements => exact Change.keeps_assign (hstatements statements rfl s hs) s.1 entries entries'
  · exact yields_refuse

theorem yields_array (value : Reader Value) : (array value).Yields Value.Ordered :=
  yields_then fun _ => yields_then fun _ => yields_then fun _ => yields_then fun _ =>
    yields_pure (Value.throughout_of_ne_table fun entries => by simp)

theorem yields_scalar : scalar.Yields Value.Ordered := by
  have plain {α : Type} (r : Reader α) (f : α → Value) (h : ∀ a entries, f a ≠ .table entries) :
      (f <$> r).Yields Value.Ordered :=
    (yields_any r).map fun a _ => Value.throughout_of_ne_table (h a)
  refine yields_then fun next => ?_
  split
  · exact plain _ _ fun _ _ => by simp
  split
  · exact yields_then fun _ => yields_pure (Value.throughout_of_ne_table fun entries => by simp)
  split
  · exact yields_then fun _ => yields_pure (Value.throughout_of_ne_table fun entries => by simp)
  · exact (plain _ _ fun _ _ => by simp).orElse
      ((plain _ _ fun _ _ => by simp).orElse (plain _ _ fun _ _ => by simp))

theorem yields_value : ∀ depth, (value depth).Yields Value.Ordered
  | 0 => yields_scalar
  | depth + 1 => by
    refine yields_then fun next => ?_
    split
    · exact yields_array _
    split
    · exact yields_inlineTable (yields_value depth)
    · exact yields_scalar

/-- The value that a statement assigns, if it is an assignment, has its tables in order. -/
def Statement.Ordered : Statement → Prop
  | .assignment _ v => v.Ordered
  | _ => True

theorem yields_statement : statement.Yields Statement.Ordered := by
  refine yields_then fun start => ?_
  split
  · exact yields_then fun _ => yields_then fun _ => yields_then fun _ => yields_then fun _ =>
      yields_pure trivial
  · exact yields_then fun _ => yields_then fun _ => yields_then fun _ => yields_then fun _ =>
      yields_pure trivial
  · exact yields_then fun _ => yields_then fun _ => yields_pure trivial
  · exact yields_then fun _ => yields_pure trivial
  · exact yields_then fun _ => yields_pure trivial
  · exact yields_then fun _ => yields_then fun _ => yields_then fun _ =>
      (yields_value _).bind fun v hv => yields_then fun _ => yields_pure hv

theorem yields_document : document.Yields fun statements => ∀ s ∈ statements, s.Ordered :=
  yields_then fun _ => yields_then fun _ =>
    (yields_statement.bind fun _ hs => yields_then fun _ => yields_pure hs).many

theorem keeps_atHeader {f : String → Change} (hf : ∀ key, (f key).Keeps) (path : List String) :
    (atHeader f path).Keeps := by
  unfold atHeader
  split
  · exact Change.keeps_underHeaders (hf _) _
  · exact Change.keeps_none

theorem Statement.Ordered.apply {s : Statement} (hs : s.Ordered) {state state' : List String × Entries}
    (h : Entries.Ordered state.2) (happly : Statement.apply state s = some state') :
    Entries.Ordered state'.2 := by
  obtain ⟨here, root⟩ := state
  cases s with
  | header path =>
    obtain ⟨root', hroot', rfl⟩ := Option.map_eq_some_iff.1 happly
    exact keeps_atHeader Change.keeps_openTable path root root' h hroot'
  | repeatedHeader path =>
    obtain ⟨root', hroot', rfl⟩ := Option.map_eq_some_iff.1 happly
    exact keeps_atHeader Change.keeps_openRepeated path root root' h hroot'
  | assignment path v =>
    obtain ⟨root', hroot', rfl⟩ := Option.map_eq_some_iff.1 happly
    exact Change.keeps_underHeaders (Change.keeps_assign hs path) here root root' h hroot'
  | blank =>
    cases happly
    exact h

/-- Every table of a parsed document has its keys in order, each once. -/
theorem ordered_of_parse? {text : String} {root : List (String × Value)} (h : parse? text = some root) :
    (Value.table root).Ordered := by
  obtain ⟨statements, hstatements, h⟩ := Option.bind_eq_some_iff.1 h
  obtain ⟨⟨here, entries⟩, hentries, h⟩ := Option.bind_eq_some_iff.1 h
  cases h
  have read : ∀ s ∈ statements, s.Ordered := by
    unfold all? at hstatements
    split at hstatements
    · rename_i read hread
      cases hstatements
      exact yields_document _ _ _ hread
    · cases hstatements
  exact (foldlM_keeps (I := fun state => Entries.Ordered state.2)
    (fun s hs state state' h happly => (read s hs).apply h happly) Entries.ordered_nil hentries).table

end Toml

end Startup
