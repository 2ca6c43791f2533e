/-
The switch of the resource chain. The properties of the chain and its condition read the same three
keys of an environment, one key by key and the other below a common beginning. Wherever the properties
can be bound the condition decides as they do, and where the condition fails they cannot be bound.
-/
import Startup.Web.Settings

namespace Startup

/-! ## Reading in steps -/

section Steps

variable {α β ε : Type}

theorem Except.bind_eq_ok {x : Except ε α} {f : α → Except ε β} {b : β} :
    (x >>= f) = .ok b ↔ ∃ a, x = .ok a ∧ f a = .ok b := by
  cases x <;> simp [bind, Except.bind]

end Steps

namespace Environment

variable {env : Environment} {key : String}

/-- A switch that was set to a truth value, or not set. -/
theorem getTriState_eq_ok {b : Option Bool} : env.getTriState key = .ok b ↔
    (env.get? key).map (·.asBool?) = b.map some := by
  unfold getTriState
  rcases env.get? key with _ | v
  · cases b <;> simp
  · rcases hv : v.asBool? with _ | x <;> cases b <;> simp [hv]

/-- The error of a switch names its key and shows its value, which is no truth value. -/
theorem getTriState_eq_error {e : StartupError} : env.getTriState key = .error e ↔
    ∃ v, env.get? key = some v ∧ v.asBool? = none ∧ e = .binding key v.display "a boolean" := by
  unfold getTriState
  rcases env.get? key with _ | v
  · simp
  · rcases hv : v.asBool? with _ | x <;> simp [hv, eq_comm]

end Environment

namespace Web

variable {env : Environment}

/-! ## The two readers -/

/-- The condition reads the keys of the properties. -/
theorem switches_eq (env : Environment) : Switches.ofEnvironment env chainPath = (do
    let fixed ← env.getFlag fixedEnabledKey false
    let content ← env.getFlag contentEnabledKey false
    let chain ← env.getTriState chainEnabledKey
    pure ⟨fixed, content, chain⟩) := by
  have fixedKey : chainPath ++ "strategy.fixed.enabled" = fixedEnabledKey := rfl
  have contentKey : chainPath ++ "strategy.content.enabled" = contentEnabledKey := rfl
  have chainKey : chainPath ++ "enabled" = chainEnabledKey := rfl
  unfold Switches.ofEnvironment
  rw [fixedKey, contentKey, chainKey]
  unfold Environment.getPropertyOr Environment.getFlag
  rcases env.getTriState fixedEnabledKey with _ | fixed
  · rfl
  rcases env.getTriState contentEnabledKey with _ | content
  · rfl
  rcases env.getTriState chainEnabledKey with _ | chain
  · rfl
  cases fixed <;> cases content <;> cases chain <;> rfl

theorem switches_eq_ok {s : Switches} : Switches.ofEnvironment env chainPath = .ok s ↔
    env.getFlag fixedEnabledKey false = .ok s.fixed ∧
      env.getFlag contentEnabledKey false = .ok s.content ∧
      env.getTriState chainEnabledKey = .ok s.chain := by
  simp only [switches_eq, Except.bind_eq_ok]
  constructor
  · rintro ⟨fixed, hfixed, content, hcontent, chain, hchain, hs⟩
    cases hs
    exact ⟨hfixed, hcontent, hchain⟩
  · rintro ⟨hfixed, hcontent, hchain⟩
    exact ⟨_, hfixed, _, hcontent, _, hchain, rfl⟩

/-- The switches among the properties of the chain. -/
def switchesOf (p : ChainProperties) : Switches where
  fixed := p.strategy.fixed.enabled
  content := p.strategy.content.enabled
  chain := p.enabled

/-- Properties that were bound have read the switches. -/
theorem switches_of_properties {p : ChainProperties} (h : ChainProperties.ofEnvironment env = .ok p) :
    Switches.ofEnvironment env chainPath = .ok (switchesOf p) := by
  simp only [ChainProperties.ofEnvironment, Except.bind_eq_ok] at h
  obtain ⟨enabled, henabled, _, -, _, -, _, -, fixed, hfixed, content, hcontent, hp⟩ := h
  cases hp
  exact switches_eq_ok.2 ⟨hfixed, hcontent, henabled⟩

theorem resources_read {r : ResourceProperties} (h : ResourceProperties.ofEnvironment env = .ok r) :
    ChainProperties.ofEnvironment env = .ok r.chain := by
  simp only [ResourceProperties.ofEnvironment, Except.bind_eq_ok] at h
  obtain ⟨_, -, _, -, p, hp, hr⟩ := h
  cases hr
  exact hp

/-- The outcome of a decision, and without one of the probe. -/
def outcomeOf (decision : Option Bool) (present : Bool) : Outcome :=
  match decision with
  | some true => .matched "enabled"
  | some false => .unmatched "disabled"
  | none =>
    if present then .matched ("found feature " ++ locatorFeature)
    else .unmatched ("did not find feature " ++ locatorFeature)

theorem chainOutcome_eq {s : Switches} (h : Switches.ofEnvironment env chainPath = .ok s)
    (probe : Probe) : chainOutcome env probe = .ok (outcomeOf s.decide? (probe locatorFeature)) := by
  unfold chainOutcome outcomeOf
  rw [h]
  simp only [bind, Except.bind]
  rcases s.decide? with _ | _ | _
  · cases probe locatorFeature <;> rfl
  · rfl
  · rfl

end Web

end Startup
