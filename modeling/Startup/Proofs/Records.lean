/-
Records in their written form. What a record is read as does not depend on the order of its fields, on
unknown names among them or on whether a field that may be absent is left out or holds nothing, at any
depth; and a record from which any other field is left out, at any depth, is not read at all. Both are
shown once for records whose slots are read as they are written, and used for all types of properties.
-/
import Mathlib.Data.List.Nodup
import Mathlib.Logic.Relation
import Startup.Web.Form

namespace Startup

namespace Json

/-! ## Shapes -/

mutual
/-- What a value looks like in its written form: a record with its fields, or anything else. -/
inductive Shape where
  | plain
  | record (fields : List Field)

/-- A field of a record, by its name. -/
inductive Field where
  | required (name : String) (shape : Shape)
  /-- A field that may be absent, where nothing means the same. -/
  | optional (name : String)
end

def Field.name : Field → String
  | .required name _ => name
  | .optional name => name

/-- A change of a written form that does not count, at some depth. -/
inductive Rewrites : Shape → Json → Json → Prop
  | reorder {fields : List Field} {es es' : List (Option String × Json)} :
      es.Perm es' → Rewrites (.record fields) (.object es) (.object es')
  | addUnknown {fields : List Field} {es : List (Option String × Json)} {name : String} (v : Json) :
      name ∉ fields.map Field.name →
        Rewrites (.record fields) (.object es) (.object ((some name, v) :: es))
  | leaveOut {fields : List Field} {es : List (Option String × Json)} {name : String} :
      .optional name ∈ fields →
        Rewrites (.record fields) (.object ((some name, .null) :: es)) (.object es)
  | within {fields : List Field} {es : List (Option String × Json)} {name : String} {shape : Shape}
      {v v' : Json} :
      .required name shape ∈ fields → Rewrites shape v v' →
        Rewrites (.record fields) (.object ((some name, v) :: es)) (.object ((some name, v') :: es))

/-- A field that must be there is left out, at some depth. -/
inductive Loses : Shape → Json → Json → Prop
  | here {fields : List Field} {es : List (Option String × Json)} {name : String} {shape : Shape} :
      .required name shape ∈ fields →
        Loses (.record fields) (.object es) (.object (es.filter fun e => e.1 != some name))
  | within {fields : List Field} {before after : List (Option String × Json)} {name : String}
      {shape : Shape} {v v' : Json} :
      .required name shape ∈ fields → Loses shape v v' →
        Loses (.record fields) (.object (before ++ (some name, v) :: after))
          (.object (before ++ (some name, v') :: after))

/-! ## Names -/

section Names

variable {es es' : List (Option String × Json)} {name other : String} {o : Option Json} {v : Json}

/-- All entries have names that are texts. -/
def Named (es : List (Option String × Json)) : Prop := ∀ e ∈ es, e.1.isSome = true

/-- A name has what stands there, if it stands there at most once. -/
theorem under?_eq_some : under? es name = some o ↔
    es.filter (·.1 == some name) = o.toList.map fun v => (some name, v) := by
  have named : ∀ e ∈ es.filter (·.1 == some name), e.1 = some name := fun e he => by
    simpa using (List.mem_filter.1 he).2
  unfold under?
  generalize es.filter (·.1 == some name) = found at named
  match found with
  | [] => cases o <;> simp
  | [(k, v)] =>
    have hk : k = some name := named (k, v) (List.mem_cons_self ..)
    subst hk
    cases o <;> simp [eq_comm]
  | _ :: _ :: _ => cases o <;> simp

theorem under?_perm (h : es.Perm es') (hread : under? es name = some o) : under? es' name = some o := by
  rw [under?_eq_some] at hread ⊢
  have same := h.filter (·.1 == some name)
  rw [hread] at same
  cases o with
  | none => exact List.Perm.eq_nil same.symm
  | some v => exact List.perm_singleton.1 same.symm

theorem under?_cons_ne (h : other ≠ name) : under? ((some other, v) :: es) name = under? es name := by
  unfold under?
  rw [List.filter_cons_of_neg (by simpa using h)]

/-- What stands under a name for the first time stands nowhere else. -/
theorem under?_cons_self (h : under? ((some name, v) :: es) name = some o) :
    o = some v ∧ under? es name = some none := by
  rw [under?_eq_some, List.filter_cons_of_pos (by simp)] at h
  cases o with
  | none => cases h
  | some w =>
    obtain ⟨head, rest⟩ := List.cons.inj h
    exact ⟨by rw [(Prod.mk.inj head).2], under?_eq_some.2 rest⟩

theorem under?_absent (h : ∀ e ∈ es, e.1 ≠ some name) : under? es name = some none := by
  rw [under?_eq_some]
  exact List.filter_eq_nil_iff.2 fun e he => by simpa using h e he

theorem under?_put (h : under? es name = some none) : under? ((some name, v) :: es) name = some (some v) := by
  rw [under?_eq_some] at h ⊢
  rw [List.filter_cons_of_pos (by simp), h]
  rfl

/-- Of entries with different names each is found under its own. -/
theorem under?_of_mem {entries : List (String × Json)} (distinct : (entries.map (·.1)).Nodup)
    (h : (name, v) ∈ entries) :
    under? (entries.map fun (k, v) => (some k, v)) name = some (some v) := by
  induction entries with
  | nil => cases h
  | cons e rest ih =>
    obtain ⟨k, w⟩ := e
    obtain ⟨hnew, hrest⟩ := List.nodup_cons.1 distinct
    rcases List.mem_cons.1 h with head | later
    · cases head
      refine under?_put (under?_absent fun e he hname => hnew ?_)
      obtain ⟨⟨k', w'⟩, hmem, rfl⟩ := List.mem_map.1 he
      cases hname
      exact List.mem_map.2 ⟨_, hmem, rfl⟩
    · have other : k ≠ name := fun hk => hnew (List.mem_map.2 ⟨_, later, hk.symm⟩)
      exact (under?_cons_ne other).trans (ih hrest later)

end Names

/-! ## Forms that are kept -/

/-- A form that is read as what was written, whatever changes that do not count are made, and that is not
read if a field that must be there is left out. -/
structure Kept {α : Type} (shape : Shape) (write : α → Json) (read : Json → Option α) : Prop where
  roundTrip : ∀ a, read (write a) = some a
  rewritten : ∀ {j j' : Json} {a : α}, Rewrites shape j j' → read j = some a → read j' = some a
  lost : ∀ {j j' : Json}, Loses shape j j' → read j' = none

section Kept

variable {α : Type} {shape : Shape} {write : α → Json} {read : Json → Option α}

/-- What is no record cannot be rewritten. -/
theorem kept_plain (roundTrip : ∀ a, read (write a) = some a) : Kept .plain write read :=
  ⟨roundTrip, (fun h => nomatch h), (fun h => nomatch h)⟩

/-- Any number of changes that do not count. -/
theorem Kept.run (kept : Kept shape write read) {a : α} {j : Json}
    (h : Relation.ReflTransGen (Rewrites shape) (write a) j) : read j = some a := by
  induction h with
  | refl => exact kept.roundTrip a
  | tail _ step ih => exact kept.rewritten step ih

end Kept

/-! ## Slots of records -/

/-- A slot of the records of a type: its field, and how what stands in it is written and read. -/
inductive Slot (α : Type) : Type 1 where
  | required {β : Type} (name : String) (shape : Shape) (write : β → Json) (read : Json → Option β)
      (get : α → β)
  | optional {β : Type} (name : String) (write : β → Json) (read : Json → Option β) (get : α → Option β)

namespace Slot

variable {α : Type}

def field : Slot α → Field
  | .required name shape .. => .required name shape
  | .optional name .. => .optional name

def name (x : Slot α) : String := x.field.name

/-- What stands in the field of a record. -/
def written (a : α) : Slot α → Json
  | .required _ _ write _ get => write (get a)
  | .optional _ write _ get => .ofOption write (get a)

/-- Whether what stands in the field is read as that of a record. -/
def Reads (a : α) (o : Option Json) : Slot α → Prop
  | .required _ _ _ read get => Json.required read o = some (get a)
  | .optional _ _ read get => absent read o = some (get a)

/-- A slot whose form is itself kept; in one that may be empty nothing else is written as nothing. -/
def Sound : Slot α → Prop
  | .required _ shape write read _ => Kept shape write read
  | .optional _ write read _ => ∀ b, read (write b) = some b ∧ write b ≠ .null

variable {x : Slot α} {a : α} {v v' : Json}

theorem Sound.reads_written (sound : x.Sound) : x.Reads a (some (x.written a)) := by
  cases x with
  | required name shape write read get => exact Kept.roundTrip sound _
  | optional name write read get =>
    show absent read (some (.ofOption write (get a))) = some (get a)
    rcases get a with _ | b
    · rfl
    · obtain ⟨back, present⟩ := sound b
      unfold absent
      split
      · rename_i h
        cases h
      · rename_i h
        exact absurd (Option.some.inj h) present
      · rename_i h
        rw [← Option.some.inj h]
        show (read (write b)).map some = _
        rw [back]
        rfl

theorem Sound.reads_absent {name : String} (h : x.field = .optional name)
    (reads : x.Reads a (some .null)) : x.Reads a none := by
  cases x with
  | required => cases h
  | optional => exact reads

theorem Sound.reads_rewritten (sound : x.Sound) {name : String} {shape : Shape}
    (h : x.field = .required name shape) (step : Rewrites shape v v') (reads : x.Reads a (some v)) :
    x.Reads a (some v') := by
  cases x with
  | required =>
    cases h
    exact Kept.rewritten sound step reads
  | optional => cases h

theorem not_reads_none {name : String} {shape : Shape} (h : x.field = .required name shape) :
    ¬ x.Reads a none := by
  cases x with
  | required => exact fun reads => nomatch reads
  | optional => cases h

theorem Sound.not_reads_lost (sound : x.Sound) {name : String} {shape : Shape}
    (h : x.field = .required name shape) (step : Loses shape v v') : ¬ x.Reads a (some v') := by
  cases x with
  | required =>
    cases h
    intro reads
    have refused := Kept.lost sound step
    rw [Reads, Json.required, refused] at reads
    cases reads
  | optional => cases h

end Slot

/-! ## Records -/

theorem fields?_object {es : List (Option String × Json)} {names : List String} {os : List (Option Json)} :
    (Json.object es).fields? names = some os ↔ Named es ∧ names.mapM (under? es) = some os := by
  unfold fields? Named
  split <;> simp_all

/-- Values are found in turn exactly if each is found. -/
theorem exists_mapM_iff {ι κ β : Type*} {f : κ → Option β} {name : ι → κ} {P : ι → β → Prop} :
    ∀ xs : List ι, (∃ os, (xs.map name).mapM f = some os ∧ List.Forall₂ P xs os) ↔
      ∀ x ∈ xs, ∃ o, f (name x) = some o ∧ P x o
  | [] => by simp
  | x :: rest => by
    rw [List.forall_mem_cons, ← exists_mapM_iff rest, List.map_cons, List.mapM_cons]
    constructor
    · rintro ⟨os, hos, all⟩
      obtain ⟨o, ho, hos⟩ := Option.bind_eq_some_iff.1 hos
      obtain ⟨os', hos', heq⟩ := Option.bind_eq_some_iff.1 hos
      cases heq
      cases all with
      | cons first later => exact ⟨⟨o, ho, first⟩, os', hos', later⟩
    · rintro ⟨⟨o, ho, first⟩, os, hos, later⟩
      exact ⟨o :: os, by simp [ho, hos], .cons first later⟩

/-- A form that is composed of slots with different names. -/
structure Composed {α : Type} (slots : List (Slot α)) (write : α → Json) (read : Json → Option α) :
    Prop where
  distinct : (slots.map Slot.name).Nodup
  sound : slots.Forall Slot.Sound
  writes : ∀ a, write a = .ofEntries (slots.map fun x => (x.name, x.written a))
  takes : ∃ body : List (Option Json) → Option α,
    (∀ j, read j = (j.fields? (slots.map Slot.name)).bind body) ∧
      ∀ os a, body os = some a ↔ List.Forall₂ (fun x o => Slot.Reads a o x) slots os

namespace Composed

variable {α : Type} {slots : List (Slot α)} {write : α → Json} {read : Json → Option α} {x : Slot α}
  {a : α} {es : List (Option String × Json)} {name : String} {v v' : Json}

/-- A record is read exactly if each of its slots is read from what stands under its name. -/
theorem reads (c : Composed slots write read) : read (.object es) = some a ↔
    Named es ∧ ∀ x ∈ slots, ∃ o, under? es x.name = some o ∧ x.Reads a o := by
  obtain ⟨body, opens, takes⟩ := c.takes
  rw [opens, Option.bind_eq_some_iff, ← exists_mapM_iff]
  simp only [fields?_object, takes, and_assoc, exists_and_left]

theorem sound_of_mem (c : Composed slots write read) (hx : x ∈ slots) : x.Sound :=
  List.forall_iff_forall_mem.1 c.sound x hx

/-- The slot with the name of a field has this field. -/
theorem field_of_name (c : Composed slots write read) {f : Field} (hf : f ∈ slots.map Slot.field)
    (hx : x ∈ slots) (h : x.name = f.name) : x.field = f := by
  obtain ⟨y, hy, rfl⟩ := List.mem_map.1 hf
  rw [List.inj_on_of_nodup_map c.distinct hx hy h]

/-- A record is read as it was written. -/
theorem roundTrip (c : Composed slots write read) (a : α) : read (write a) = some a := by
  rw [c.writes]
  refine c.reads.2 ⟨fun e he => ?_, fun x hx => ⟨_, ?_, (c.sound_of_mem hx).reads_written⟩⟩
  · obtain ⟨_, -, rfl⟩ := List.mem_map.1 he
    rfl
  · have distinct : ((slots.map fun x => (x.name, x.written a)).map (·.1)).Nodup := by
      rw [List.map_map]
      exact c.distinct
    exact under?_of_mem distinct (List.mem_map.2 ⟨x, hx, rfl⟩)

/-- What stands in the first entry can be replaced, or dropped, if every slot is read alike. -/
theorem reads_of_tail (c : Composed slots write read) (before after : List (Option String × Json))
    (h : read (.object (before ++ es)) = some a) (named : Named after)
    (same : ∀ x ∈ slots, ∀ o, under? (before ++ es) x.name = some o → x.Reads a o →
      ∃ o', under? (after ++ es) x.name = some o' ∧ x.Reads a o') :
    read (.object (after ++ es)) = some a := by
  obtain ⟨namedBefore, all⟩ := c.reads.1 h
  refine c.reads.2 ⟨fun e he => ?_, fun x hx => ?_⟩
  · rcases List.mem_append.1 he with he | he
    · exact named e he
    · exact namedBefore e (List.mem_append_right _ he)
  · obtain ⟨o, ho, reads⟩ := all x hx
    exact same x hx o ho reads

theorem rewritten (c : Composed slots write read) {j j' : Json}
    (step : Rewrites (.record (slots.map Slot.field)) j j') (h : read j = some a) : read j' = some a := by
  cases step with
  | reorder perm =>
    obtain ⟨named, all⟩ := c.reads.1 h
    refine c.reads.2 ⟨fun e he => named e (perm.mem_iff.2 he), fun x hx => ?_⟩
    obtain ⟨o, ho, reads⟩ := all x hx
    exact ⟨o, under?_perm perm ho, reads⟩
  | @addUnknown _ es name v unknown =>
    refine c.reads_of_tail [] [(some name, v)] h (by simp [Named]) ?_
    intro x hx o ho reads
    have other : name ≠ x.name := fun hname =>
      unknown (hname ▸ List.mem_map.2 ⟨_, List.mem_map.2 ⟨x, hx, rfl⟩, rfl⟩)
    exact ⟨o, (under?_cons_ne other).trans ho, reads⟩
  | @leaveOut _ es name known =>
    -- names are distinct, so the slot of the dropped entry is the only one that sees a difference
    refine c.reads_of_tail [(some name, .null)] [] h (by simp [Named]) ?_
    intro x hx o ho reads
    by_cases here : x.name = name
    · subst here
      obtain ⟨rfl, absent⟩ := under?_cons_self ho
      exact ⟨none, absent, Slot.Sound.reads_absent (c.field_of_name known hx rfl) reads⟩
    · exact ⟨o, (under?_cons_ne (Ne.symm here)).symm.trans ho, reads⟩
  | @within _ es name shape v v' known inner =>
    refine c.reads_of_tail [(some name, v)] [(some name, v')] h (by simp [Named]) ?_
    intro x hx o ho reads
    by_cases here : x.name = name
    · subst here
      obtain ⟨rfl, absent⟩ := under?_cons_self ho
      exact ⟨_, under?_put absent,
        (c.sound_of_mem hx).reads_rewritten (c.field_of_name known hx rfl) inner reads⟩
    · exact ⟨o, (under?_cons_ne (Ne.symm here)).trans ((under?_cons_ne (Ne.symm here)).symm.trans ho), reads⟩

/-- A record is not read without a field that must be there, nor if what stands in it is not read. -/
theorem lost (c : Composed slots write read) {j j' : Json}
    (step : Loses (.record (slots.map Slot.field)) j j') : read j' = none := by
  refine Option.eq_none_iff_forall_ne_some.2 fun a h => ?_
  cases step with
  | @here _ es name shape known =>
    obtain ⟨x, hx, hfield⟩ := List.mem_map.1 known
    have hname : x.name = name := congrArg Field.name hfield
    obtain ⟨o, ho, reads⟩ := (c.reads.1 h).2 x hx
    have absent : under? (es.filter fun e => e.1 != some name) x.name = some none :=
      under?_absent fun e he => by simpa [hname] using (List.mem_filter.1 he).2
    cases absent.symm.trans ho
    exact Slot.not_reads_none hfield reads
  | @within _ before after name shape v v' known inner =>
    obtain ⟨x, hx, hfield⟩ := List.mem_map.1 known
    have hname : x.name = name := congrArg Field.name hfield
    obtain ⟨o, ho, reads⟩ := (c.reads.1 h).2 x hx
    -- put first, the entry is found to be all that stands under its name
    have first := under?_perm List.perm_middle ho
    rw [← hname] at first
    obtain ⟨rfl, -⟩ := under?_cons_self first
    exact (c.sound_of_mem hx).not_reads_lost hfield inner reads

theorem kept (c : Composed slots write read) : Kept (.record (slots.map Slot.field)) write read :=
  ⟨c.roundTrip, c.rewritten, c.lost⟩

end Composed

end Json

namespace Web

open Json

/-! ## The types of properties -/

theorem asTexts?_ofStrings (items : List String) : asTexts? (.ofStrings items) = some items := by
  show (items.map ofString).mapM asText? = some items
  induction items with
  | nil => rfl
  | cons s rest ih => simp [List.mapM_cons, ih, ofString, asText?]

theorem asUInt64?_toNat (n : UInt64) : asUInt64? (.integer n.toNat) = some n := by
  have small : n.toNat < UInt64.size := n.toNat_lt_size
  simp [asUInt64?, Number.toUInt64?, small]

theorem localeSource_roundTrip (source : LocaleSource) : LocaleSource.ofJson? source.toJson = some source := by
  cases source <;> rfl

def ViewProperties.shape : Shape := .record [.required "prefix" .plain, .required "suffix" .plain]

def ViewProperties.slots : List (Slot ViewProperties) := [
  .required "prefix" .plain .ofString asText? (·.before),
  .required "suffix" .plain .ofString asText? (·.behind)]

theorem ViewProperties.composed : Composed slots toJson ofJson? where
  distinct := by decide
  sound := ⟨kept_plain fun _ => rfl, kept_plain fun _ => rfl⟩
  writes _ := rfl
  takes := by
    refine ⟨_, fun _ => rfl, fun os v => ?_⟩
    obtain ⟨before, behind⟩ := v
    match os with
    | [a, b] => simp [-Bool.exists_bool, slots, Slot.Reads, Option.bind_eq_some_iff]
    | [] | [_] | _ :: _ :: _ :: _ => simp [slots]

def FixedStrategy.shape : Shape := .record [.required "enabled" .plain, .optional "version",
  .required "paths" .plain]

def FixedStrategy.slots : List (Slot FixedStrategy) := [
  .required "enabled" .plain .bool asBool? (·.enabled),
  .optional "version" .ofString asText? (·.version),
  .required "paths" .plain .ofStrings asTexts? (·.paths)]

theorem FixedStrategy.composed : Composed slots toJson ofJson? where
  distinct := by decide
  sound := ⟨kept_plain fun _ => rfl, fun _ => ⟨rfl, nofun⟩, kept_plain asTexts?_ofStrings⟩
  writes _ := rfl
  takes := by
    refine ⟨_, fun _ => rfl, fun os s => ?_⟩
    obtain ⟨enabled, version, paths⟩ := s
    match os with
    | [a, b, c] => simp [-Bool.exists_bool, slots, Slot.Reads, Option.bind_eq_some_iff]
    | [] | [_] | [_, _] | _ :: _ :: _ :: _ :: _ => simp [slots]

def ContentStrategy.shape : Shape := .record [.required "enabled" .plain, .required "paths" .plain]

def ContentStrategy.slots : List (Slot ContentStrategy) := [
  .required "enabled" .plain .bool asBool? (·.enabled),
  .required "paths" .plain .ofStrings asTexts? (·.paths)]

theorem ContentStrategy.composed : Composed slots toJson ofJson? where
  distinct := by decide
  sound := ⟨kept_plain fun _ => rfl, kept_plain asTexts?_ofStrings⟩
  writes _ := rfl
  takes := by
    refine ⟨_, fun _ => rfl, fun os s => ?_⟩
    obtain ⟨enabled, paths⟩ := s
    match os with
    | [a, b] => simp [-Bool.exists_bool, slots, Slot.Reads, Option.bind_eq_some_iff]
    | [] | [_] | _ :: _ :: _ :: _ => simp [slots]

def StrategyProperties.shape : Shape := .record [.required "fixed" FixedStrategy.shape,
  .required "content" ContentStrategy.shape]

def StrategyProperties.slots : List (Slot StrategyProperties) := [
  .required "fixed" FixedStrategy.shape FixedStrategy.toJson FixedStrategy.ofJson? (·.fixed),
  .required "content" ContentStrategy.shape ContentStrategy.toJson ContentStrategy.ofJson? (·.content)]

theorem StrategyProperties.composed : Composed slots toJson ofJson? where
  distinct := by decide
  sound := ⟨FixedStrategy.composed.kept, ContentStrategy.composed.kept⟩
  writes _ := rfl
  takes := by
    refine ⟨_, fun _ => rfl, fun os s => ?_⟩
    obtain ⟨fixed, content⟩ := s
    match os with
    | [a, b] => simp [-Bool.exists_bool, slots, Slot.Reads, Option.bind_eq_some_iff]
    | [] | [_] | _ :: _ :: _ :: _ => simp [slots]

def ChainProperties.shape : Shape := .record [.optional "enabled", .required "cache" .plain,
  .required "compressed" .plain, .required "html-application-cache" .plain,
  .required "strategy" StrategyProperties.shape]

def ChainProperties.slots : List (Slot ChainProperties) := [
  .optional "enabled" .bool asBool? (·.enabled),
  .required "cache" .plain .bool asBool? (·.cache),
  .required "compressed" .plain .bool asBool? (·.compressed),
  .required "html-application-cache" .plain .bool asBool? (·.applicationCache),
  .required "strategy" StrategyProperties.shape StrategyProperties.toJson StrategyProperties.ofJson? (·.strategy)]

theorem ChainProperties.composed : Composed slots toJson ofJson? where
  distinct := by decide
  sound := ⟨fun _ => ⟨rfl, nofun⟩, kept_plain fun _ => rfl, kept_plain fun _ => rfl,
      kept_plain fun _ => rfl, StrategyProperties.composed.kept⟩
  writes _ := rfl
  takes := by
    refine ⟨_, fun _ => rfl, fun os p => ?_⟩
    obtain ⟨enabled, cache, compressed, applicationCache, strategy⟩ := p
    match os with
    | [a, b, c, d, e] => simp [-Bool.exists_bool, slots, Slot.Reads, Option.bind_eq_some_iff]
    | [] | [_] | [_, _] | [_, _, _] | [_, _, _, _] | _ :: _ :: _ :: _ :: _ :: _ :: _ => simp [slots]

def ResourceProperties.shape : Shape := .record [.required "add-mappings" .plain,
  .required "static-locations" .plain, .optional "cache-period",
  .required "chain" ChainProperties.shape]

def ResourceProperties.slots : List (Slot ResourceProperties) := [
  .required "add-mappings" .plain .bool asBool? (·.addMappings),
  .required "static-locations" .plain .ofStrings asTexts? (·.staticLocations),
  .optional "cache-period" (fun n => .integer n.toNat) asUInt64? (·.cachePeriod),
  .required "chain" ChainProperties.shape ChainProperties.toJson ChainProperties.ofJson? (·.chain)]

theorem ResourceProperties.composed : Composed slots toJson ofJson? where
  distinct := by decide
  sound := ⟨kept_plain fun _ => rfl, kept_plain asTexts?_ofStrings, fun n => ⟨asUInt64?_toNat n, nofun⟩,
      ChainProperties.composed.kept⟩
  writes _ := rfl
  takes := by
    refine ⟨_, fun _ => rfl, fun os p => ?_⟩
    obtain ⟨addMappings, staticLocations, cachePeriod, chain⟩ := p
    match os with
    | [a, b, c, d] => simp [-Bool.exists_bool, slots, Slot.Reads, Option.bind_eq_some_iff]
    | [] | [_] | [_, _] | [_, _, _] | _ :: _ :: _ :: _ :: _ :: _ => simp [slots]

def MvcProperties.shape : Shape := .record [.required "static-path-pattern" .plain, .optional "locale",
  .required "locale-resolver" .plain, .required "view" ViewProperties.shape]

def MvcProperties.slots : List (Slot MvcProperties) := [
  .required "static-path-pattern" .plain .ofString asText? (·.staticPattern),
  .optional "locale" .ofString asText? (·.locale),
  .required "locale-resolver" .plain LocaleSource.toJson LocaleSource.ofJson? (·.localeSource),
  .required "view" ViewProperties.shape ViewProperties.toJson ViewProperties.ofJson? (·.view)]

theorem MvcProperties.composed : Composed slots toJson ofJson? where
  distinct := by decide
  sound := ⟨kept_plain fun _ => rfl, fun _ => ⟨rfl, nofun⟩, kept_plain localeSource_roundTrip,
      ViewProperties.composed.kept⟩
  writes _ := rfl
  takes := by
    refine ⟨_, fun _ => rfl, fun os p => ?_⟩
    obtain ⟨staticPattern, locale, localeSource, view⟩ := p
    match os with
    | [a, b, c, d] => simp [-Bool.exists_bool, slots, Slot.Reads, Option.bind_eq_some_iff]
    | [] | [_] | [_, _] | [_, _, _] | _ :: _ :: _ :: _ :: _ :: _ => simp [slots]

/-- The written form of each type of properties is read as what was written, also after any number of
changes that do not count: fields may be put in another order, unknown names may be added, and a field
that may be absent and holds nothing may be left out, in the record or in any record within it. Where any
other field was left out, in the record or in one within it, nothing is read. -/
theorem properties_kept :
    ((∀ (p : ResourceProperties) (j : Json),
        Relation.ReflTransGen (Rewrites ResourceProperties.shape) p.toJson j →
          ResourceProperties.ofJson? j = some p) ∧
      ∀ j j' : Json, Loses ResourceProperties.shape j j' → ResourceProperties.ofJson? j' = none) ∧
    ((∀ (p : ChainProperties) (j : Json),
        Relation.ReflTransGen (Rewrites ChainProperties.shape) p.toJson j →
          ChainProperties.ofJson? j = some p) ∧
      ∀ j j' : Json, Loses ChainProperties.shape j j' → ChainProperties.ofJson? j' = none) ∧
    ((∀ (p : StrategyProperties) (j : Json),
        Relation.ReflTransGen (Rewrites StrategyProperties.shape) p.toJson j →
          StrategyProperties.ofJson? j = some p) ∧
      ∀ j j' : Json, Loses StrategyProperties.shape j j' → StrategyProperties.ofJson? j' = none) ∧
    (∀ (p : MvcProperties) (j : Json),
        Relation.ReflTransGen (Rewrites MvcProperties.shape) p.toJson j →
          MvcProperties.ofJson? j = some p) ∧
      ∀ j j' : Json, Loses MvcProperties.shape j j' → MvcProperties.ofJson? j' = none :=
  ⟨⟨fun _ _ => ResourceProperties.composed.kept.run, fun _ _ => ResourceProperties.composed.kept.lost⟩,
    ⟨fun _ _ => ChainProperties.composed.kept.run, fun _ _ => ChainProperties.composed.kept.lost⟩,
    ⟨fun _ _ => StrategyProperties.composed.kept.run, fun _ _ => StrategyProperties.composed.kept.lost⟩,
    fun _ _ => MvcProperties.composed.kept.run, fun _ _ => MvcProperties.composed.kept.lost⟩

/-- The default fixed strategy in another order and without its version. -/
def rearrangedFixed : Json := .object [(some "paths", .ofStrings defaultPaths), (some "enabled", .bool false)]

/-- The default strategies, rearranged on both levels and with a name that is unknown. -/
def rearranged : Json := .object [
  (some "content", ContentStrategy.toJson {}), (some "extra", .integer 1), (some "fixed", rearrangedFixed)]

/-- The default strategies without the paths of the fixed one. -/
def pathless : Json := .object [
  (some "fixed", .object [(some "enabled", .bool false), (some "version", .null)]),
  (some "content", ContentStrategy.toJson {})]

theorem properties_kept_rearranged :
    Relation.ReflTransGen (Rewrites StrategyProperties.shape) ({} : StrategyProperties).toJson rearranged ∧
    StrategyProperties.ofJson? rearranged = some {} ∧
    Loses StrategyProperties.shape ({} : StrategyProperties).toJson pathless ∧
    StrategyProperties.ofJson? pathless = none := by
  obtain ⟨-, -, ⟨kept, lost⟩, -⟩ := properties_kept
  have fixedField : Field.required "fixed" FixedStrategy.shape ∈
      [.required "fixed" FixedStrategy.shape, .required "content" ContentStrategy.shape] :=
    List.mem_cons_self
  have turned : Rewrites FixedStrategy.shape (FixedStrategy.toJson {}) (.object [(some "version", .null),
      (some "paths", .ofStrings defaultPaths), (some "enabled", .bool false)]) :=
    .reorder (@List.perm_append_comm _ [_] [_, _])
  have shortened : Rewrites FixedStrategy.shape (.object [(some "version", .null),
      (some "paths", .ofStrings defaultPaths), (some "enabled", .bool false)]) rearrangedFixed :=
    .leaveOut (List.mem_cons_of_mem _ List.mem_cons_self)
  have extended : Rewrites StrategyProperties.shape
      (.object [(some "fixed", rearrangedFixed), (some "content", ContentStrategy.toJson {})])
      (.object [(some "extra", .integer 1), (some "fixed", rearrangedFixed),
        (some "content", ContentStrategy.toJson {})]) :=
    .addUnknown _ (by decide)
  have rewritten : Relation.ReflTransGen (Rewrites StrategyProperties.shape)
      ({} : StrategyProperties).toJson rearranged :=
    .tail (.tail (.tail (.single (.within fixedField turned)) (.within fixedField shortened)) extended)
      (.reorder (@List.perm_append_comm _ [_, _] [_]))
  have losing : Loses StrategyProperties.shape ({} : StrategyProperties).toJson pathless :=
    @Loses.within _ [] _ _ _ _ _ fixedField
      (@Loses.here _ [_, _, _] "paths" .plain (List.mem_cons_of_mem _ (List.mem_cons_of_mem _ List.mem_cons_self)))
  exact ⟨rewritten, kept _ _ rewritten, losing, lost _ _ losing⟩

end Web

end Startup
