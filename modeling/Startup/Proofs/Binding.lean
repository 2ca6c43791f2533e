/-
Which properties can keep a web application from being set up. Its settings make demands on nine
properties, one after the other, and fail at the first whose value does not meet them; the error names
this property and shows its value. What was read once is not refused when it is read again, and no other
property has a part in it.
-/
import Startup.Proofs.Switching

namespace Startup

/-! ## Demands -/

/-- What is demanded of the value of a property, if it has one. -/
structure Demand where
  key : String
  accepts : Value → Bool
  /-- What a value that is not accepted should have been. -/
  expected : String

namespace Demand

/-- A truth value. -/
def flag (key : String) : Demand := ⟨key, fun v => v.asBool?.isSome, "a boolean"⟩

def Met (d : Demand) (env : Environment) : Prop := ∀ v, env.get? d.key = some v → d.accepts v = true

/-- The error that names the property and shows its value. -/
def blame (d : Demand) (v : Value) : StartupError := .binding d.key v.display d.expected

/-- The error about a demand that is not met. -/
def complaint? (d : Demand) (env : Environment) : Option StartupError :=
  (env.get? d.key).bind fun v => if d.accepts v then none else some (d.blame v)

variable {d : Demand} {env : Environment}

theorem complaint?_eq_none : d.complaint? env = none ↔ d.Met env := by
  unfold complaint? Met
  rcases env.get? d.key with _ | v
  · simp
  · cases hv : d.accepts v <;> simp [hv]

end Demand

/-! ## Readers that make demands -/

section Readers

variable {α β : Type} {env : Environment} {ds ds' : List Demand}

/-- The error of a reader, if it fails. -/
def failure? : Except StartupError α → Option StartupError
  | .error e => some e
  | .ok _ => none

theorem failure?_eq_none {x : Except StartupError α} : failure? x = none ↔ ∃ a, x = .ok a := by
  cases x <;> simp [failure?]

/-- A reader fails exactly at the first of its demands that is not met. -/
def Demands (env : Environment) (ds : List Demand) (x : Except StartupError α) : Prop :=
  failure? x = ds.findSome? (·.complaint? env)

/-- A reader succeeds exactly if all of its demands are met. -/
theorem Demands.ok_iff {x : Except StartupError α} (h : Demands env ds x) :
    (∃ a, x = .ok a) ↔ ∀ d ∈ ds, d.Met env := by
  rw [← failure?_eq_none, h, List.findSome?_eq_none_iff]
  exact forall₂_congr fun d _ => Demand.complaint?_eq_none

theorem demands_pure (a : α) : Demands env [] (pure a) := rfl

/-- Of two readers the second makes its demands where the first has succeeded. -/
theorem Demands.bind {x : Except StartupError α} {f : α → Except StartupError β} (hx : Demands env ds x)
    (hf : ∀ a, x = .ok a → Demands env ds' (f a)) : Demands env (ds ++ ds') (x >>= f) := by
  unfold Demands at hx ⊢
  rw [List.findSome?_append, ← hx]
  cases x with
  | error e => rfl
  | ok a => exact hf a rfl

theorem demands_getTriState (env : Environment) (key : String) :
    Demands env [.flag key] (env.getTriState key) := by
  unfold Demands Environment.getTriState
  rw [List.findSome?_singleton, Demand.complaint?]
  show _ = (env.get? key).bind _
  rcases env.get? key with _ | v
  · rfl
  · rcases hv : v.asBool? with _ | b <;> simp [failure?, Demand.flag, Demand.blame, hv]

theorem demands_getFlag (env : Environment) (key : String) (fallback : Bool) :
    Demands env [.flag key] (env.getFlag key fallback) := by
  have read := demands_getTriState env key
  unfold Demands at read ⊢
  rw [← read, Environment.getFlag]
  cases env.getTriState key <;> rfl

end Readers

namespace Web

/-! ## The demands of a web application -/

/-- An unsigned number of 64 bits, blanks at its ends aside. -/
def secondsDemand : Demand :=
  ⟨cachePeriodKey, fun v => (Number.uint64? (Text.trim v.display)).isSome, "a number of seconds"⟩

/-- The name of a source of locales. -/
def localeDemand : Demand :=
  ⟨localeResolverKey, fun v => (LocaleSource.ofText? v.display).isSome, "one of fixed, accept-header"⟩

def chainDemands : List Demand := [
  .flag chainEnabledKey, .flag chainCacheKey, .flag chainCompressedKey, .flag chainApplicationCacheKey,
  .flag fixedEnabledKey, .flag contentEnabledKey]

/-- The demands in the order they are made. -/
def demands : List Demand := secondsDemand :: .flag addMappingsKey :: chainDemands ++ [localeDemand]

variable {env : Environment}

theorem demands_cachePeriodOf (env : Environment) :
    Demands env [secondsDemand] (ResourceProperties.cachePeriodOf env) := by
  unfold Demands ResourceProperties.cachePeriodOf Environment.getText?
  rw [List.findSome?_singleton, Demand.complaint?]
  show _ = (env.get? cachePeriodKey).bind _
  rcases env.get? cachePeriodKey with _ | v
  · rfl
  · rcases hv : Number.uint64? (Text.trim v.display) with _ | n <;>
      simp [failure?, secondsDemand, Demand.blame, hv]

theorem demands_localeSourceOf (env : Environment) :
    Demands env [localeDemand] (MvcProperties.localeSourceOf env) := by
  unfold Demands MvcProperties.localeSourceOf Environment.getText?
  rw [List.findSome?_singleton, Demand.complaint?]
  show _ = (env.get? localeResolverKey).bind _
  rcases env.get? localeResolverKey with _ | v
  · rfl
  · rcases hv : LocaleSource.ofText? v.display with _ | source <;>
      simp [failure?, localeDemand, Demand.blame, hv]

theorem demands_chainProperties (env : Environment) :
    Demands env chainDemands (ChainProperties.ofEnvironment env) :=
  (demands_getTriState env _).bind fun _ _ => (demands_getFlag env _ _).bind fun _ _ =>
    (demands_getFlag env _ _).bind fun _ _ => (demands_getFlag env _ _).bind fun _ _ =>
      (demands_getFlag env _ _).bind fun _ _ => (demands_getFlag env _ _).bind fun _ _ => demands_pure _

theorem demands_resourceProperties (env : Environment) :
    Demands env (secondsDemand :: .flag addMappingsKey :: chainDemands)
      (ResourceProperties.ofEnvironment env) :=
  (demands_cachePeriodOf env).bind fun _ _ => (demands_getFlag env _ _).bind fun _ _ =>
    (demands_chainProperties env).bind fun _ _ => demands_pure _

theorem demands_mvcProperties (env : Environment) :
    Demands env [localeDemand] (MvcProperties.ofEnvironment env) :=
  (demands_localeSourceOf env).bind fun _ _ => demands_pure _

/-- The condition of the chain makes no further demands where its properties were read. -/
theorem demands_chainOutcome {p : ChainProperties} (h : ChainProperties.ofEnvironment env = .ok p)
    (probe : Probe) : Demands env [] (chainOutcome env probe) := by
  rw [chainOutcome_eq (switches_of_properties h)]
  rfl

theorem demands_configure (c : Configuration) (env : Environment) :
    Demands env demands (c.configure env) :=
  (demands_resourceProperties env).bind fun _ hresources =>
    (demands_mvcProperties env).bind fun _ _ =>
      (demands_chainOutcome (resources_read hresources) c.probe).bind fun _ _ => demands_pure _

/-- Two properties with values that are not accepted, of which the one that is demanded later is in the
source that is asked first. -/
def refused : List Source := [
  .ofPairs "low" 0 [(cachePeriodKey, .int (-1))],
  .ofPairs "high" 1 [(localeResolverKey, .text "cookie")]]

end Web

end Startup
