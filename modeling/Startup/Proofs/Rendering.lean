/-
Values written as texts. The text of a whole number, a truth value, a text, a list or a table is read as
the same number and the same truth value as the value itself, or like it as neither. So an environment
that has the text in place of the value answers alike, in whatever form the value is asked for.
-/
import Startup.Feature.Condition
import Startup.Proofs.Pieces
import Startup.Proofs.Ranking
import Startup.Proofs.Spelling

namespace Startup

/-! ## Decimal numbers -/

namespace Number

theorem digit?_of_isDigit {c : Char} (h : c.isDigit = true) : digit? c = some (c.toNat - '0'.toNat) := by
  rw [Char.isDigit_iff_toNat] at h
  exact if_pos h

theorem digitsFrom_eq : ∀ {cs : List Char} (acc : Nat), (∀ c ∈ cs, c.isDigit = true) →
    digitsFrom acc cs = some (Nat.ofDigitChars 10 cs acc)
  | [], _, _ => rfl
  | c :: rest, acc, h => by
    rw [digitsFrom, digit?_of_isDigit (h c (List.mem_cons_self ..)), Option.bind_some,
      digitsFrom_eq _ fun d hd => h d (List.mem_cons_of_mem _ hd), Nat.ofDigitChars_cons]

theorem isDigit_of_mem_toDigits {n : Nat} {c : Char} (h : c ∈ Nat.toDigits 10 n) : c.isDigit = true :=
  Nat.isDigit_of_mem_toDigits (by decide) (by decide) h

theorem natural?_toDigits (n : Nat) : natural? (Nat.toDigits 10 n) = some n := by
  have value : digitsFrom 0 (Nat.toDigits 10 n) = some n := by
    rw [digitsFrom_eq 0 fun c => isDigit_of_mem_toDigits, Nat.ofDigitChars_toDigits (by decide) (by decide)]
  rcases hdigits : Nat.toDigits 10 n with _ | ⟨c, rest⟩
  · exact absurd hdigits (by simp)
  · rwa [hdigits] at value

/-- Digits alone have no sign before them. -/
theorem signed?_of_digits {cs : List Char} (h : ∀ c ∈ cs, c.isDigit = true) :
    signed? cs = (natural? cs).map Int.ofNat := by
  cases cs with
  | nil => rfl
  | cons c rest =>
    have digit := h c (List.mem_cons_self ..)
    unfold signed?
    split
    · rename_i heq
      obtain ⟨rfl, -⟩ := List.cons.inj heq
      cases digit
    · unfold unsigned?
      split
      · rename_i heq
        obtain ⟨rfl, -⟩ := List.cons.inj heq
        cases digit
      · rfl

theorem signed?_decimal (n : Int) : signed? (decimal n).toList = some n := by
  cases n with
  | ofNat m =>
    rw [decimal, String.toList_ofList, signed?_of_digits fun c => isDigit_of_mem_toDigits,
      natural?_toDigits]
    rfl
  | negSucc m =>
    rw [decimal, String.toList_ofList, signed?, natural?_toDigits]
    rfl

/-- Every number of 64 bits is read back from its decimal text. -/
theorem int64?_decimal (n : Int64) : int64? (decimal n.toInt) = some n := by
  have low : Int64.minValue.toInt ≤ n.toInt := Int64.minValue_le_toInt n
  have high : n.toInt ≤ Int64.maxValue.toInt := Int64.toInt_le n
  rw [int64?, signed?_decimal, Option.bind_some, toInt64?, if_pos ⟨low, high⟩, Int64.ofInt_toInt]

/-- A decimal text has digits and perhaps a minus sign. -/
theorem mem_decimal {n : Int} {c : Char} (h : c ∈ (decimal n).toList) :
    c.toNat = 45 ∨ 48 ≤ c.toNat ∧ c.toNat ≤ 57 := by
  have digit {m : Nat} (h : c ∈ Nat.toDigits 10 m) : 48 ≤ c.toNat ∧ c.toNat ≤ 57 :=
    Char.isDigit_iff_toNat.1 (isDigit_of_mem_toDigits h)
  cases n with
  | ofNat m =>
    rw [decimal, String.toList_ofList] at h
    exact .inr (digit h)
  | negSucc m =>
    rw [decimal, String.toList_ofList] at h
    rcases List.mem_cons.1 h with rfl | h
    · exact .inl rfl
    · exact .inr (digit h)

end Number

/-! ## Words -/

namespace Text

theorem trimBlanks_eq_self {cs : List Char} (h : ∀ c ∈ cs, isBlank c = false) : trimBlanks cs = cs := by
  have solid : Solid cs :=
    ⟨fun c hc => h c (List.mem_of_mem_head? hc), fun c hc => h c (List.mem_of_mem_getLast? hc)⟩
  exact trimBlanks_eq_iff.2 ⟨solid, [], [], nofun, nofun, by simp⟩

/-- A text that begins with a visible sign keeps this sign. -/
theorem trim_of_cons {s : String} {c : Char} {rest : List Char} (hs : s.toList = c :: rest)
    (hc : isBlank c = false) : ∃ rest', (trim s).toList = c :: rest' := by
  rw [trim, String.toList_ofList, hs, trimBlanks, List.dropWhile_cons_of_neg (by simp [hc]), dropEnd,
    List.reverse_cons, List.dropWhile_append]
  split
  · exact ⟨[], by simp [hc]⟩
  · exact ⟨_, List.reverse_concat ..⟩

theorem toLower_of_cons {s : String} {c : Char} {rest : List Char} (hs : s.toList = c :: rest)
    (hc : c.toNat < 128) : ∃ rest', (toLower s).toList = asciiLower c :: rest' := by
  rw [toLower, String.toList_ofList, hs, lowerFrom_cons hc]
  exact ⟨_, rfl⟩

end Text

namespace Value

open Number Text

/-- No word for a truth value and no number begins with a bracket. -/
theorem unread_of_bracket {s : String} {c : Char} {rest : List Char} (hs : s.toList = c :: rest)
    (hc : c = '[' ∨ c = '\x7b') : truth? s = none ∧ int64? (trim s) = none := by
  have solid : isBlank c = false := by rcases hc with rfl | rfl <;> rfl
  have ascii : c.toNat < 128 := by rcases hc with rfl | rfl <;> decide
  obtain ⟨trimmed, htrim⟩ := trim_of_cons hs solid
  obtain ⟨lower, hlower⟩ := toLower_of_cons htrim ascii
  constructor
  · have word {w : String} (hw : ∀ d ∈ w.toList.head?, d ≠ '[' ∧ d ≠ '\x7b') :
        (toLower (trim s) == w) = false := by
      rw [beq_eq_false_iff_ne]
      rintro rfl
      rw [hlower] at hw
      rcases hc with rfl | rfl
      · exact (hw '[' rfl).1 rfl
      · exact (hw '\x7b' rfl).2 rfl
    unfold truth?
    simp only [word (w := "true") (by simp), word (w := "yes") (by simp), word (w := "1") (by simp),
      word (w := "false") (by simp), word (w := "no") (by simp), word (w := "0") (by simp)]
    rfl
  · rw [int64?, htrim]
    rcases hc with rfl | rfl <;> rfl

/-- A whole number's text is kept by trimming and in small letters. -/
theorem trim_decimal (n : Int) : trim (decimal n) = decimal n := by
  have solid : ∀ c ∈ (decimal n).toList, isBlank c = false := by
    intro c hc
    have := mem_decimal hc
    simp [isBlank, inRanges, blankRanges]
    omega
  rw [trim, trimBlanks_eq_self solid, String.ofList_toList]

theorem toLower_decimal (n : Int) : toLower (decimal n) = decimal n := by
  have ascii : IsAscii (decimal n) := by
    intro c hc
    have := mem_decimal hc
    omega
  have kept : (decimal n).toList.map asciiLower = (decimal n).toList := by
    refine (List.map_congr_left fun c hc => ?_).trans (List.map_id _)
    have := mem_decimal hc
    rw [← Char.toNat_inj, toNat_asciiLower, if_neg (by omega)]
    rfl
  rw [← String.toList_inj, toList_toLower ascii, kept]

/-- Of the texts of whole numbers only those of one and zero are words for truth values. -/
theorem truth?_decimal (n : Int64) :
    truth? (decimal n.toInt) = if n = 1 then some true else if n = 0 then some false else none := by
  have read := int64?_decimal n
  have other {w : String} (hw : int64? w = none) : (decimal n.toInt == w) = false := by
    rw [beq_eq_false_iff_ne]
    intro heq
    rw [heq, hw] at read
    cases read
  have number {w : String} {m : Int64} (hw : int64? w = some m) (hm : decimal m.toInt = w) :
      (decimal n.toInt == w) = decide (n = m) := by
    rw [Bool.eq_iff_iff, beq_iff_eq, decide_eq_true_eq]
    constructor
    · intro heq
      rw [heq, hw] at read
      exact (Option.some.inj read).symm
    · rintro rfl
      exact hm
  unfold truth?
  rw [trim_decimal, toLower_decimal]
  simp only [other (w := "true") rfl, other (w := "yes") rfl, other (w := "false") rfl,
    other (w := "no") rfl, number (w := "1") (m := 1) rfl rfl, number (w := "0") (m := 0) rfl rfl]
  simp

/-! ## Values and their texts -/

theorem toList_display_list (items : List Value) :
    ∃ rest, (list items).display.toList = '[' :: rest := by
  rw [display, String.toList_append, String.toList_append]
  exact ⟨_, rfl⟩

theorem toList_display_table (entries : List (String × Value)) :
    ∃ rest, (table entries).display.toList = '\x7b' :: rest := by
  rw [display, String.toList_append, String.toList_append]
  exact ⟨_, rfl⟩

variable {v : Value}

/-- A value that is no floating-point number is the same truth value and the same whole number as its
text, or like it none. -/
theorem read_display (whole : ∀ x, v ≠ .float x) :
    (text v.display).asBool? = v.asBool? ∧ (text v.display).asInt? = v.asInt? := by
  show truth? v.display = v.asBool? ∧ int64? (trim v.display) = v.asInt?
  cases v with
  | text s => exact ⟨rfl, rfl⟩
  | int n =>
    refine ⟨truth?_decimal n, ?_⟩
    show int64? (trim (decimal n.toInt)) = some n
    rw [trim_decimal, int64?_decimal]
  | float x => exact absurd rfl (whole x)
  | bool b => cases b <;> decide +kernel
  | list items =>
    obtain ⟨rest, hrest⟩ := toList_display_list items
    exact unread_of_bracket hrest (.inl rfl)
  | table entries =>
    obtain ⟨rest, hrest⟩ := toList_display_table entries
    exact unread_of_bracket hrest (.inr rfl)

end Value

/-- A floating-point number is never a truth value, though its text may be one. -/
example : (Value.float (.ofRatio false 1 1)).asBool? = none ∧
    (Value.text (Value.float (.ofRatio false 1 1)).display).asBool? = some true := by
  decide +kernel

/-! ## Texts in place of values -/

/-- The source with a value under a key, in place of what was there. -/
def Source.supply (s : Source) (key : String) (v : Value) : Source :=
  { s with get? := fun k => if k = key then some v else s.get? k }

@[simp] theorem Source.get?_supply_self (s : Source) (key : String) (v : Value) :
    (s.supply key v).get? key = some v :=
  if_pos rfl

/-- A key is read alike in two environments, in whatever form it is asked for, and conditions on it have
the same outcome. -/
structure Environment.ReadAlike (key : String) (env env' : Environment) : Prop where
  text : env'.getText? key = env.getText? key
  int : env'.getInt? key = env.getInt? key
  bool : env'.getBool? key = env.getBool? key
  triState : env'.getTriState key = env.getTriState key
  property : ∀ fallback, env'.getPropertyOr key fallback = env.getPropertyOr key fallback
  condition : ∀ c : PropertyCondition, c.key = key → c.outcome env' = c.outcome env

/-- A condition looks at the text of its property only. -/
theorem PropertyCondition.outcome_eq {c : PropertyCondition} {env env' : Environment}
    (h : env'.getText? c.key = env.getText? c.key) : c.outcome env' = c.outcome env := by
  unfold outcome
  rw [h]

namespace Environment

variable {env env' : Environment} {key : String} {v : Value}

theorem readAlike_of_text (won : env.get? key = some v) (whole : ∀ x, v ≠ .float x)
    (supplied : env'.get? key = some (.text v.display)) : ReadAlike key env env' := by
  have reads := reads_of_get? won
  have reads' := reads_of_get? supplied
  have same : (Value.text v.display).display = v.display := rfl
  have text : env'.getText? key = env.getText? key := reads'.text.trans reads.text.symm
  obtain ⟨bool, int⟩ := Value.read_display whole
  refine ⟨text, ?_, ?_, ?_, fun fallback => ?_, fun c hc => ?_⟩
  · rw [reads'.int, reads.int, int]
  · rw [reads'.bool, reads.bool, bool]
  · rw [reads'.triState, reads.triState, bool, same]
  · rw [reads'.property, reads.property, bool, same]
  · subst hc
    exact PropertyCondition.outcome_eq text

/-- The source that wins still does so with another value. -/
theorem Wins.supply {added : List Source} {place : Nat} (h : Wins added key place v) {s : Source}
    (hs : added[place]? = some s) (u : Value) : Wins (added.set place (s.supply key u)) key place u := by
  obtain ⟨s', hs', -, first⟩ := h
  obtain rfl : s = s' := Option.some.inj (hs.symm.trans hs')
  have bound : place < added.length := (List.getElem?_eq_some_iff.1 hs).1
  refine ⟨s.supply key u, List.getElem?_set_self bound, Source.get?_supply_self .., fun other t ht has => ?_⟩
  by_cases here : other = place
  · subst here
    rw [List.getElem?_set_self bound] at ht
    obtain rfl := Option.some.inj ht
    rintro (higher | ⟨-, earlier⟩)
    · exact Int.lt_irrefl _ higher
    · exact Nat.lt_irrefl _ earlier
  · rw [List.getElem?_set_ne (Ne.symm here)] at ht
    exact first other t ht has

/-- A source of the variables is asked before all sources of a lower priority. -/
theorem get?_add_variables {start : String} {vars : Variables} {value : String}
    (below : ∀ s ∈ env.sources, s.priority < 100)
    (found : vars.lookup (variableOfKey start key) = some value) :
    (env.add (.ofVariables start vars)).get? key = some (.text value) := by
  have first : (env.add (.ofVariables start vars)).sources = .ofVariables start vars :: env.sources := by
    show insertSource _ env.sources = _
    cases hsources : env.sources with
    | nil => rfl
    | cons t rest =>
      have lower : t.priority < (Source.ofVariables start vars).priority :=
        below t (hsources ▸ List.mem_cons_self ..)
      rw [insertSource, if_pos lower]
  have value : (Source.ofVariables start vars).get? key = some (.text value) := by
    show (vars.lookup (variableOfKey start key)).map Value.text = _
    rw [found]
    rfl
  rw [get?, first, List.findSome?_cons, value]

/-- Where the winning value of a key is no floating-point number, its text may stand in its place: in
the source that wins, in this source when it is added to an environment, or in a variable that goes
before all sources. The key is read alike in whatever form it is asked for, also where that is an error,
and conditions on it have the same outcome. -/
theorem text_in_place_of_value (key : String) (v : Value) (whole : ∀ x, v ≠ .float x) :
    (∀ env : Environment, env.get? key = some v → ∃ before s after,
      env.sources = before ++ s :: after ∧ (∀ t ∈ before, t.get? key = none) ∧ s.get? key = some v ∧
      ReadAlike key env
        { env with sources := before ++ s.supply key (.text v.display) :: after }) ∧
    (∀ added place s, Wins added key place v → added[place]? = some s →
      ReadAlike key (ofSources added)
        (ofSources (added.set place (s.supply key (.text v.display))))) ∧
    ∀ (env : Environment) start vars, env.get? key = some v → (∀ s ∈ env.sources, s.priority < 100) →
      vars.lookup (variableOfKey start key) = some v.display →
      ReadAlike key env (env.add (.ofVariables start vars)) := by
  refine ⟨fun env won => ?_, fun added place s wins hs => ?_, fun env start vars won below found => ?_⟩
  · obtain ⟨before, s, after, hsources, hs, missing⟩ := List.findSome?_eq_some_iff.1 won
    refine ⟨before, s, after, hsources, missing, hs, readAlike_of_text won whole ?_⟩
    rw [get?, List.findSome?_append, List.findSome?_eq_none_iff.2 missing, List.findSome?_cons,
      Source.get?_supply_self]
    rfl
  · exact readAlike_of_text (get?_ofSources_iff.2 ⟨place, wins⟩) whole
      (get?_ofSources_iff.2 ⟨place, wins.supply hs _⟩)
  · exact readAlike_of_text won whole (get?_add_variables below found)

/-- The least number of 64 bits before a text that is a truth value. -/
def leastNumber : List Source := [single 0 (.text "yes"), single 1 (.int Int64.minValue)]

theorem text_in_place_of_value_least :
    let env := ofSources leastNumber
    let supplied := (single 1 (.int Int64.minValue)).supply "k" (.text "-9223372036854775808")
    (∃ before s after, env.sources = before ++ s :: after ∧ s.get? "k" = some (.int Int64.minValue) ∧
      ReadAlike "k" env
        { env with sources := before ++ s.supply "k" (.text "-9223372036854775808") :: after }) ∧
    (ofSources (leastNumber.set 1 supplied)).getInt? "k" = some Int64.minValue ∧
    ReadAlike "k" env (env.add (.ofVariables "APP_" [("APP_K", "-9223372036854775808")])) := by
  intro env supplied
  have wins : Wins leastNumber "k" 1 (.int Int64.minValue) := by
    refine ⟨_, rfl, rfl, fun other t ht _ => ?_⟩
    match other, ht with
    | 0, ht => obtain rfl := Option.some.inj ht; decide
    | 1, ht => obtain rfl := Option.some.inj ht; decide
  have won : env.get? "k" = some (.int Int64.minValue) := get?_ofSources_iff.2 ⟨1, wins⟩
  have below : ∀ s ∈ env.sources, s.priority < 100 := by
    intro s hs
    rcases List.mem_cons.1 hs with rfl | hs
    · decide
    · obtain rfl := List.mem_singleton.1 hs
      decide
  have name : variableOfKey "APP_" "k" = "APP_K" := by decide +kernel
  obtain ⟨inPlace, added, asVariable⟩ := text_in_place_of_value "k" (.int Int64.minValue) (by simp)
  refine ⟨?_, ?_, asVariable env "APP_" _ won below (by rw [name]; rfl)⟩
  · obtain ⟨before, s, after, hsources, -, hs, alike⟩ := inPlace env won
    exact ⟨before, s, after, hsources, hs, alike⟩
  · exact (added leastNumber 1 _ wins rfl).int.trans (reads_of_get? won).int

end Environment

end Startup
