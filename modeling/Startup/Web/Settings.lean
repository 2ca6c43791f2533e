/-
The settings of a web application, computed from an environment: its properties, whether the
resource chain is on, the registry of mappings, and which further parts are on.
-/
import Startup.Feature.Condition
import Startup.Web.Locale
import Startup.Web.Registry

namespace Startup.Web

/-! ## The resource chain -/

/-- The feature that switches the resource chain on when nothing else is said. -/
def locatorFeature : String := "webjars-locator"

def chainConditionName : String := "OnEnabledResourceChainCondition"

/-- Whether the resource chain is on, and why. -/
def chainOutcome (env : Environment) (probe : Probe) : Except StartupError Outcome := do
  let switches ← Switches.ofEnvironment env chainPath
  match switches.decide? with
  | some true => pure (.matched "enabled")
  | some false => pure (.unmatched "disabled")
  | none =>
    if probe locatorFeature then pure (.matched ("found feature " ++ locatorFeature))
    else pure (.unmatched ("did not find feature " ++ locatorFeature))

/-! ## All settings -/

structure Settings where
  resources : ResourceProperties
  mvc : MvcProperties
  chain : Outcome
  registry : Registry
  localeOutcome : Outcome
  locale : Option LocaleResolver
  icon : Outcome
  iconMapping : Option IconMapping
  hiddenMethodFilter : Outcome
  formContentFilter : Outcome
  deriving DecidableEq, Repr

/-- How a web application is set up: which features are present, and the mappings of its own, which
go before the default ones. -/
structure Configuration where
  probe : Probe
  handlers : List (Registry → Registry) := []

namespace Configuration

/-- The registry that the application's own mappings make. -/
def ownRegistry (c : Configuration) : Registry := c.handlers.foldl (fun reg f => f reg) {}

/-- A part that is on unless it is switched off. -/
def partOutcome (env : Environment) (path : String) : Outcome :=
  ((PropertyCondition.ofPath path "enabled").matchIfMissing true).outcome env

def configure (c : Configuration) (env : Environment) : Except StartupError Settings := do
  let resources ← ResourceProperties.ofEnvironment env
  let mvc ← MvcProperties.ofEnvironment env
  let chain ← chainOutcome env c.probe
  let customize := if chain.isMatch then resources.chain.customize else id
  let localeOutcome := (PropertyCondition.ofPath "mvc" "locale").anyValue.outcome env
  let icon := partOutcome env "mvc.favicon"
  pure {
    resources, mvc, chain
    registry := c.ownRegistry.addDefaults resources mvc.staticPattern customize
    localeOutcome
    locale := if localeOutcome.isMatch then LocaleResolver.ofProperties? mvc else none
    icon
    iconMapping := if icon.isMatch then some (IconMapping.ofProperties resources) else none
    hiddenMethodFilter := partOutcome env "mvc.hiddenmethod.filter"
    formContentFilter := partOutcome env "mvc.formcontent.filter" }

end Configuration

/-- The line of the log about settings that were put into effect. -/
def Settings.summary (s : Settings) : String :=
  "Web MVC configured: " ++ Number.decimal s.registry.registrations.length ++
    " resource mapping(s), resource chain " ++ if s.chain.isMatch then "enabled" else "disabled"

end Startup.Web
