/-
Numerals: digits of any number, perhaps with a plus sign before them. A text is read as an unsigned number
of 64 bits exactly if it is a numeral of this number, so nothing is wrapped around or cut off. The cache
period is such a number, and a text or a whole number that is none is refused and shown.
-/
import Mathlib.Algebra.Group.Nat.Defs
import Startup.Proofs.Binding
import Startup.Proofs.Rendering

namespace Startup

namespace Number

/-! ## Digits -/

theorem isDigit_of_digit? {c : Char} {d : Nat} (h : digit? c = some d) : c.isDigit = true := by
  unfold digit? at h
  split at h
  · rename_i range
    exact Char.isDigit_iff_toNat.2 range
  · cases h

theorem isDigit_of_digitsFrom {cs : List Char} {acc n : Nat} (h : digitsFrom acc cs = some n) :
    ∀ c ∈ cs, c.isDigit = true := by
  induction cs generalizing acc with
  | nil => exact nofun
  | cons c rest ih =>
    obtain ⟨d, hd, hrest⟩ := Option.bind_eq_some_iff.1 h
    exact List.forall_mem_cons.2 ⟨isDigit_of_digit? hd, ih hrest⟩

/-- One or more digits are read as what they mean in base ten, and nothing else is read. -/
theorem natural?_eq_some {cs : List Char} {n : Nat} : natural? cs = some n ↔
    cs ≠ [] ∧ (∀ c ∈ cs, c.isDigit = true) ∧ n = Nat.ofDigitChars 10 cs 0 := by
  rcases cs with _ | ⟨c, rest⟩
  · simp [natural?]
  · rw [natural?]
    constructor
    · intro h
      have digits := isDigit_of_digitsFrom h
      rw [digitsFrom_eq 0 digits] at h
      exact ⟨List.cons_ne_nil _ _, digits, (Option.some.inj h).symm⟩
    · rintro ⟨-, digits, rfl⟩
      exact digitsFrom_eq 0 digits

/-! ## Numerals -/

/-- The text is made of one or more digits, perhaps with a plus sign before them, that mean `n` in base
ten. -/
def Denotes (s : String) (n : Nat) : Prop :=
  ∃ digits, digits ≠ [] ∧ (∀ c ∈ digits, c.isDigit = true) ∧
    (s.toList = digits ∨ s.toList = '+' :: digits) ∧ n = Nat.ofDigitChars 10 digits 0

theorem unsigned?_eq_some {s : String} {n : Nat} : unsigned? s.toList = some n ↔ Denotes s n := by
  unfold unsigned? Denotes
  split
  · rename_i rest hs
    rw [natural?_eq_some, hs]
    constructor
    · rintro ⟨filled, digits, hn⟩
      exact ⟨rest, filled, digits, .inr rfl, hn⟩
    · rintro ⟨cs, filled, digits, hcs | hcs, hn⟩
      · -- a plus sign is no digit
        have := digits '+' (hcs ▸ List.mem_cons_self ..)
        cases this
      · obtain ⟨-, rfl⟩ := List.cons.inj hcs
        exact ⟨filled, digits, hn⟩
  · rename_i unsigned
    rw [natural?_eq_some]
    constructor
    · rintro ⟨filled, digits, hn⟩
      exact ⟨s.toList, filled, digits, .inl rfl, hn⟩
    · rintro ⟨cs, filled, digits, rfl | hcs, hn⟩
      · exact ⟨filled, digits, hn⟩
      · exact absurd hcs (unsigned cs)

theorem toUInt64?_eq_some {n : Nat} {m : UInt64} : toUInt64? n = some m ↔ n = m.toNat := by
  unfold toUInt64?
  constructor
  · intro h
    split at h
    · rename_i small
      rw [← Option.some.inj h, UInt64.toNat_ofNat_of_lt' small]
    · cases h
  · rintro rfl
    rw [if_pos m.toNat_lt_size, UInt64.ofNat_toNat]

/-- A text is read as an unsigned number of 64 bits exactly if it is a numeral of this number. -/
theorem uint64?_eq_some {s : String} {m : UInt64} : uint64? s = some m ↔ Denotes s m.toNat := by
  rw [uint64?, Option.bind_eq_some_iff, ← unsigned?_eq_some]
  constructor
  · rintro ⟨n, hn, hm⟩
    rw [hn, toUInt64?_eq_some.1 hm]
  · intro h
    exact ⟨_, h, toUInt64?_eq_some.2 rfl⟩

theorem toUInt64?_eq_none {n : Nat} : toUInt64? n = none ↔ 2 ^ 64 ≤ n := by
  show (if n < 2 ^ 64 then some (UInt64.ofNat n) else none) = none ↔ 2 ^ 64 ≤ n
  split
  · rename_i small
    exact ⟨nofun, fun large => absurd small (Nat.not_lt.2 large)⟩
  · rename_i large
    exact ⟨fun _ => Nat.not_lt.1 large, fun _ => rfl⟩

/-- A numeral is unread only if its number is out of range. -/
theorem uint64?_eq_none {s : String} : uint64? s = none ↔ ∀ n, Denotes s n → 2 ^ 64 ≤ n := by
  simp only [← unsigned?_eq_some, ← toUInt64?_eq_none]
  unfold uint64?
  rcases unsigned? s.toList with _ | n <;> simp

theorem denotes_decimal (n : Nat) : Denotes (decimal n) n := by
  refine ⟨Nat.toDigits 10 n, by simp, fun c => isDigit_of_mem_toDigits, .inl ?_, ?_⟩
  · exact String.toList_ofList
  · rw [Nat.ofDigitChars_toDigits (by decide) (by decide)]

/-- A minus sign begins no numeral. -/
theorem not_denotes_negative {n : Int} (negative : n < 0) (m : Nat) : ¬ Denotes (decimal n) m := by
  obtain ⟨k, rfl⟩ := Int.eq_negSucc_of_lt_zero negative
  rintro ⟨digits, -, hdigits, hs | hs, -⟩ <;> rw [decimal, String.toList_ofList] at hs
  · -- it would have to be a digit
    have := hdigits '-' (hs ▸ List.mem_cons_self ..)
    cases this
  · cases (List.cons.inj hs).1

end Number

/-! ## The cache period -/

namespace Web

open ResourceProperties

variable {env : Environment}

/-- The period is read from the text of the value, whatever kind of value it is. -/
theorem cachePeriodOf_eq {v : Value} (won : env.get? cachePeriodKey = some v) : cachePeriodOf env =
    match Number.uint64? (Text.trim v.display) with
    | some n => .ok (some n)
    | none => .error (.binding cachePeriodKey v.display "a number of seconds") := by
  rcases read : Number.uint64? (Text.trim v.display) with _ | n <;>
    simp [cachePeriodOf, Environment.getText?, won, read]

theorem cachePeriodOf_eq_ok {v : Value} (won : env.get? cachePeriodKey = some v) {m : UInt64} :
    cachePeriodOf env = .ok (some m) ↔ Number.Denotes (Text.trim v.display) m.toNat := by
  rw [cachePeriodOf_eq won, ← Number.uint64?_eq_some]
  rcases Number.uint64? (Text.trim v.display) with _ | n <;> simp

theorem cachePeriodOf_eq_error {v : Value} (won : env.get? cachePeriodKey = some v) :
    cachePeriodOf env = .error (.binding cachePeriodKey v.display "a number of seconds") ↔
      ∀ n, Number.Denotes (Text.trim v.display) n → 2 ^ 64 ≤ n := by
  rw [cachePeriodOf_eq won, ← Number.uint64?_eq_none]
  rcases Number.uint64? (Text.trim v.display) with _ | n <;> simp

/-- What is demanded beside the period. -/
def furtherDemands : List Demand := .flag addMappingsKey :: chainDemands

/-- The period is read first, so its error is that of all properties. -/
theorem resources_of_period_error {e : StartupError} (h : cachePeriodOf env = .error e) :
    ResourceProperties.ofEnvironment env = .error e := by
  rw [ResourceProperties.ofEnvironment, h]
  rfl

theorem period_read {period : Option UInt64} (h : cachePeriodOf env = .ok period)
    {p : ResourceProperties} (bound : ResourceProperties.ofEnvironment env = .ok p) :
    p.cachePeriod = period := by
  simp only [ResourceProperties.ofEnvironment, Except.bind_eq_ok] at bound
  obtain ⟨read, hread, _, -, _, -, hp⟩ := bound
  rw [h] at hread
  cases hread
  cases hp
  rfl

/-- With a period that is read, the properties are bound exactly if the other demands are met. -/
theorem resources_of_period {period : Option UInt64} (h : cachePeriodOf env = .ok period) :
    (∃ p, ResourceProperties.ofEnvironment env = .ok p) ↔ ∀ d ∈ furtherDemands, d.Met env := by
  have first : secondsDemand.Met env :=
    (demands_cachePeriodOf env).ok_iff.1 ⟨_, h⟩ _ (List.mem_singleton_self _)
  rw [(demands_resourceProperties env).ok_iff, List.forall_mem_cons]
  exact and_iff_right first

/-- A whole number is the period if it is not negative, and is refused otherwise. -/
theorem cachePeriodOf_int {n : Int64} (won : env.get? cachePeriodKey = some (.int n)) :
    (0 ≤ n.toInt → ∃ m : UInt64, (m.toNat : Int) = n.toInt ∧ cachePeriodOf env = .ok (some m)) ∧
      (n.toInt < 0 → cachePeriodOf env =
        .error (.binding cachePeriodKey (Number.decimal n.toInt) "a number of seconds")) := by
  have text : Text.trim (Value.int n).display = Number.decimal n.toInt := Value.trim_decimal n.toInt
  constructor
  · intro positive
    obtain ⟨k, hk⟩ := Int.eq_ofNat_of_zero_le positive
    -- numbers with a sign have one bit less, so there is room for all that are not negative
    have small : n.toInt < 2 ^ 63 := Int64.toInt_lt n
    have value : (UInt64.ofNat k).toNat = k := UInt64.toNat_ofNat_of_lt' (by unfold UInt64.size; omega)
    refine ⟨.ofNat k, by rw [value, hk], (cachePeriodOf_eq_ok won).2 ?_⟩
    rw [text, value, hk]
    exact Number.denotes_decimal k
  · intro negative
    refine (cachePeriodOf_eq_error won).2 fun m hm => ?_
    rw [text] at hm
    exact absurd hm (Number.not_denotes_negative negative m)

/-- The cache period is exact. A whole number is bound as it is unless it is negative. A text is bound
exactly if it is, blanks at its ends aside, a numeral of a number below 2 to the power of 64, and as this
number; every other text is refused and shown. Where the period is refused the properties are, with the same
error, and otherwise they hold it and are bound exactly if all else can be. -/
theorem cache_period_exact (env : Environment) :
    (∀ n : Int64, env.get? cachePeriodKey = some (.int n) →
      (0 ≤ n.toInt → ∃ m : UInt64, (m.toNat : Int) = n.toInt ∧ cachePeriodOf env = .ok (some m)) ∧
      (n.toInt < 0 → cachePeriodOf env =
        .error (.binding cachePeriodKey (Number.decimal n.toInt) "a number of seconds"))) ∧
    (∀ s, env.get? cachePeriodKey = some (.text s) →
      (∀ m : Nat, (∃ period : UInt64, period.toNat = m ∧ cachePeriodOf env = .ok (some period)) ↔
        Number.Denotes (Text.trim s) m ∧ m < 2 ^ 64) ∧
      (cachePeriodOf env = .error (.binding cachePeriodKey s "a number of seconds") ↔
        ¬ ∃ m, Number.Denotes (Text.trim s) m ∧ m < 2 ^ 64)) ∧
    (∀ e, cachePeriodOf env = .error e → ResourceProperties.ofEnvironment env = .error e) ∧
    ∀ period, cachePeriodOf env = .ok period →
      (∀ p, ResourceProperties.ofEnvironment env = .ok p → p.cachePeriod = period) ∧
      ((∃ p, ResourceProperties.ofEnvironment env = .ok p) ↔ ∀ d ∈ furtherDemands, d.Met env) := by
  refine ⟨fun n won => cachePeriodOf_int won, fun s won => ⟨fun m => ?_, ?_⟩,
    fun e h => resources_of_period_error h, fun period h => ⟨fun p bound => period_read h bound,
      resources_of_period h⟩⟩
  · constructor
    · rintro ⟨period, rfl, bound⟩
      exact ⟨(cachePeriodOf_eq_ok won).1 bound, period.toNat_lt_size⟩
    · rintro ⟨numeral, small⟩
      have value : (UInt64.ofNat m).toNat = m := UInt64.toNat_ofNat_of_lt' small
      exact ⟨.ofNat m, value, (cachePeriodOf_eq_ok won).2 (by rwa [value])⟩
  · -- a text is refused if it is no numeral, and also if it is one of a number that is too great
    rw [← show (Value.text s).display = s from rfl, cachePeriodOf_eq_error won]
    constructor
    · rintro large ⟨m, numeral, small⟩
      have := large m numeral
      omega
    · intro unread m numeral
      by_contra small
      exact unread ⟨m, numeral, by omega⟩

/-- The greatest period with zeros before it, the next number, and the greatest number below zero. -/
theorem cache_period_exact_boundary :
    (∃ p, ResourceProperties.ofEnvironment (.only cachePeriodKey (.text "\t+0018446744073709551615 ")) =
      .ok p ∧ p.cachePeriod = some 18446744073709551615) ∧
    ResourceProperties.ofEnvironment (.only cachePeriodKey (.text "18446744073709551616")) =
      .error (.binding cachePeriodKey "18446744073709551616" "a number of seconds") ∧
    ResourceProperties.ofEnvironment (.only cachePeriodKey (.int (-1))) =
      .error (.binding cachePeriodKey "-1" "a number of seconds") := by
  have won (v : Value) := Environment.get?_only_self cachePeriodKey v
  refine ⟨?_, ?_, ?_⟩
  · obtain ⟨-, texts, -, bound⟩ :=
      cache_period_exact (.only cachePeriodKey (.text "\t+0018446744073709551615 "))
    have numeral : Number.Denotes (Text.trim "\t+0018446744073709551615 ") 18446744073709551615 :=
      ⟨"0018446744073709551615".toList, by decide, List.all_eq_true.1 (by decide), .inr (by decide),
        by decide⟩
    obtain ⟨period, value, hperiod⟩ := ((texts _ (won _)).1 _).2 ⟨numeral, by decide⟩
    obtain ⟨holds, all⟩ := bound _ hperiod
    have met : ∀ d ∈ furtherDemands, d.key ≠ cachePeriodKey := by decide
    obtain ⟨p, hp⟩ := all.2 fun d hd v hv => by
      rw [Environment.get?_only_of_ne (met d hd)] at hv
      cases hv
    refine ⟨p, hp, ?_⟩
    rw [holds p hp, ← UInt64.ofNat_toNat (x := period), value]
    rfl
  · obtain ⟨-, texts, refuses, -⟩ :=
      cache_period_exact (.only cachePeriodKey (.text "18446744073709551616"))
    refine refuses _ ((texts _ (won _)).2.2 ?_)
    rintro ⟨m, numeral, small⟩
    have read : Number.unsigned? (Text.trim "18446744073709551616").toList = some 18446744073709551616 := by
      decide +kernel
    rw [← Number.unsigned?_eq_some, read] at numeral
    obtain rfl := Option.some.inj numeral
    exact absurd small (by decide)
  · obtain ⟨numbers, -, refuses, -⟩ := cache_period_exact (.only cachePeriodKey (.int (-1)))
    exact refuses _ ((numbers (-1) (won _)).2 (by decide))

end Web

end Startup
