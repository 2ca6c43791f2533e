/-
When a feature is switched on. An explicit switch decides; without one, either of two strategies
switches the feature on; without any sign the presence of something else decides.
-/
import Startup.Config.Environment

namespace Startup

/-- What the three switches of a feature say, if they say anything. -/
def decide? (fixed content : Bool) (chain : Option Bool) : Option Bool :=
  match chain with
  | some b => some b
  | none => if fixed || content then some true else none

/-- A decision, or what the fallback says. -/
def resolve (decision : Option Bool) (fallback : Bool) : Bool := decision.getD fallback

structure Switches where
  fixed : Bool
  content : Bool
  chain : Option Bool
  deriving DecidableEq, Repr

namespace Switches

/-- The switches under a common beginning of their keys. -/
def ofEnvironment (env : Environment) (start : String) : Except StartupError Switches := do
  let fixed ← env.getPropertyOr (start ++ "strategy.fixed.enabled") (some false)
  let content ← env.getPropertyOr (start ++ "strategy.content.enabled") (some false)
  let chain ← env.getPropertyOr (start ++ "enabled") none
  pure ⟨fixed.getD false, content.getD false, chain⟩

def decide? (s : Switches) : Option Bool := Startup.decide? s.fixed s.content s.chain

end Switches

/-- Which features are present, by name. -/
abbrev Probe := String → Bool

end Startup
