/-
Properties of static resources and of views and locales: their defaults, and how an environment
binds them. The first property that cannot be bound is the error.
-/
import Startup.Feature.Switch

namespace Startup.Web

/-! ## Keys and defaults -/

def addMappingsKey : String := "resources.add-mappings"
def staticLocationsKey : String := "resources.static-locations"
def cachePeriodKey : String := "resources.cache.period"

/-- The beginning of every key of the resource chain. -/
def chainPath : String := "resources.chain."

def chainEnabledKey : String := "resources.chain.enabled"
def chainCacheKey : String := "resources.chain.cache"
def chainCompressedKey : String := "resources.chain.compressed"
def chainApplicationCacheKey : String := "resources.chain.html-application-cache"
def fixedEnabledKey : String := "resources.chain.strategy.fixed.enabled"
def fixedVersionKey : String := "resources.chain.strategy.fixed.version"
def fixedPathsKey : String := "resources.chain.strategy.fixed.paths"
def contentEnabledKey : String := "resources.chain.strategy.content.enabled"
def contentPathsKey : String := "resources.chain.strategy.content.paths"

def staticPatternKey : String := "mvc.static-path-pattern"
def localeKey : String := "mvc.locale"
def localeResolverKey : String := "mvc.locale-resolver"
def viewPrefixKey : String := "mvc.view.prefix"
def viewSuffixKey : String := "mvc.view.suffix"

def defaultStaticPattern : String := "/**"

def defaultStaticLocations : List String := [
  "classpath:/META-INF/resources/", "classpath:/resources/", "classpath:/static/",
  "classpath:/public/"]

def defaultPaths : List String := ["/**"]

/-! ## Static resources -/

/-- Versions of resources given by one fixed text. -/
structure FixedStrategy where
  enabled : Bool := false
  version : Option String := none
  paths : List String := defaultPaths
  deriving DecidableEq, Repr

/-- Versions of resources computed from their content. -/
structure ContentStrategy where
  enabled : Bool := false
  paths : List String := defaultPaths
  deriving DecidableEq, Repr

structure StrategyProperties where
  fixed : FixedStrategy := {}
  content : ContentStrategy := {}
  deriving DecidableEq, Repr

structure ChainProperties where
  /-- The explicit switch; without one the strategies decide. -/
  enabled : Option Bool := none
  cache : Bool := true
  compressed : Bool := false
  applicationCache : Bool := false
  strategy : StrategyProperties := {}
  deriving DecidableEq, Repr

structure ResourceProperties where
  addMappings : Bool := true
  staticLocations : List String := defaultStaticLocations
  /-- How long resources may be cached, in seconds. -/
  cachePeriod : Option UInt64 := none
  chain : ChainProperties := {}
  deriving DecidableEq, Repr

namespace ChainProperties

def ofEnvironment (env : Environment) : Except StartupError ChainProperties := do
  let enabled ← env.getTriState chainEnabledKey
  let cache ← env.getFlag chainCacheKey true
  let compressed ← env.getFlag chainCompressedKey false
  let applicationCache ← env.getFlag chainApplicationCacheKey false
  let fixedEnabled ← env.getFlag fixedEnabledKey false
  let contentEnabled ← env.getFlag contentEnabledKey false
  let fixed : FixedStrategy := {
    enabled := fixedEnabled
    version := env.getText? fixedVersionKey
    paths := (env.getTexts? fixedPathsKey).getD defaultPaths }
  let content : ContentStrategy := {
    enabled := contentEnabled
    paths := (env.getTexts? contentPathsKey).getD defaultPaths }
  pure { enabled, cache, compressed, applicationCache, strategy := { fixed, content } }

/-- What the switches of the chain say, if they say anything. -/
def effective? (p : ChainProperties) : Option Bool :=
  decide? p.strategy.fixed.enabled p.strategy.content.enabled p.enabled

end ChainProperties

/-- A location with a slash at its end. -/
def withSlash (location : String) : String :=
  if Text.endsWith location '/' then location else location ++ "/"

namespace ResourceProperties

/-- The cache period: a text that is an unsigned number of 64 bits, blanks at its ends aside. -/
def cachePeriodOf (env : Environment) : Except StartupError (Option UInt64) :=
  match env.getText? cachePeriodKey with
  | none => .ok none
  | some s =>
    match Number.uint64? (Text.trim s) with
    | some n => .ok (some n)
    | none => .error (.binding cachePeriodKey s "a number of seconds")

def ofEnvironment (env : Environment) : Except StartupError ResourceProperties := do
  let cachePeriod ← cachePeriodOf env
  let addMappings ← env.getFlag addMappingsKey true
  let staticLocations := match env.getTexts? staticLocationsKey with
    | some locations => locations.map withSlash
    | none => defaultStaticLocations
  let chain ← ChainProperties.ofEnvironment env
  pure { addMappings, staticLocations, cachePeriod, chain }

end ResourceProperties

/-! ## Views and locales -/

/-- Where a request's locale comes from. -/
inductive LocaleSource where
  | fixed
  | acceptHeader
  deriving DecidableEq, Repr

def LocaleSource.name : LocaleSource → String
  | .fixed => "fixed"
  | .acceptHeader => "accept-header"

/-- A source of locales by its name, in any case, with blanks around it and with underscores in
place of dashes. -/
def LocaleSource.ofText? (s : String) : Option LocaleSource :=
  let word := (Text.toLower (Text.trim s)).map fun c => if c == '_' then '-' else c
  [LocaleSource.fixed, .acceptHeader].find? (·.name == word)

structure ViewProperties where
  before : String := ""
  behind : String := ""
  deriving DecidableEq, Repr

structure MvcProperties where
  staticPattern : String := defaultStaticPattern
  locale : Option String := none
  localeSource : LocaleSource := .acceptHeader
  view : ViewProperties := {}
  deriving DecidableEq, Repr

namespace MvcProperties

def localeSourceOf (env : Environment) : Except StartupError LocaleSource :=
  match env.getText? localeResolverKey with
  | none => .ok .acceptHeader
  | some s =>
    match LocaleSource.ofText? s with
    | some source => .ok source
    | none => .error (.binding localeResolverKey s "one of fixed, accept-header")

def ofEnvironment (env : Environment) : Except StartupError MvcProperties := do
  let localeSource ← localeSourceOf env
  pure {
    staticPattern := env.getTextOr staticPatternKey defaultStaticPattern
    locale := env.getText? localeKey
    localeSource
    view := {
      before := env.getTextOr viewPrefixKey ""
      behind := env.getTextOr viewSuffixKey "" } }

end MvcProperties

end Startup.Web
