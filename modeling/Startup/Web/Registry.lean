/-
The registry of resource mappings. Each registration maps a pattern to locations; the default
mappings are added behind what is there, and only for patterns that are not mapped yet.
-/
import Startup.Web.Properties

namespace Startup.Web

/-! ## Resource chains -/

structure FixedVersion where
  version : Option String
  paths : List String
  deriving DecidableEq, Repr

/-- How resolved paths bear versions: a fixed one, or one computed from the content. -/
structure VersionStrategies where
  fixed : Option FixedVersion
  contentPaths : Option (List String)
  deriving DecidableEq, Repr

inductive Resolver where
  /-- Takes a compressed resource where there is one. -/
  | encoded
  | version (strategies : VersionStrategies)
  deriving DecidableEq, Repr

inductive Transformer where
  | appCacheManifest
  deriving DecidableEq, Repr

structure ResourceChain where
  cache : Bool
  resolvers : List Resolver := []
  transformers : List Transformer := []
  deriving DecidableEq, Repr

/-! ## Registrations -/

structure Registration where
  pattern : String
  locations : List String := []
  cachePeriod : Option UInt64 := none
  chain : Option ResourceChain := none
  deriving DecidableEq, Repr

namespace Registration

def addLocations (r : Registration) (locations : List String) : Registration :=
  { r with locations := r.locations ++ locations }

/-- The chain of a registration; the first call makes it, with or without a cache. -/
def resourceChain (r : Registration) (cache : Bool) : ResourceChain :=
  r.chain.getD { cache }

/-- A change of the chain, made by `resourceChain` if there is none. -/
def modifyChain (r : Registration) (cache : Bool) (f : ResourceChain → ResourceChain) :
    Registration :=
  { r with chain := some (f (r.resourceChain cache)) }

end Registration

/-- Registrations in the order they were made. -/
structure Registry where
  registrations : List Registration := []
  deriving DecidableEq, Repr

namespace Registry

def add (reg : Registry) (r : Registration) : Registry :=
  { reg with registrations := reg.registrations ++ [r] }

def hasMapping (reg : Registry) (pattern : String) : Bool :=
  reg.registrations.any (·.pattern == pattern)

/-- The first registration of a pattern. -/
def registration? (reg : Registry) (pattern : String) : Option Registration :=
  reg.registrations.find? (·.pattern == pattern)

def isEmpty (reg : Registry) : Bool := reg.registrations.isEmpty

end Registry

/-! ## Default mappings -/

/-- The strategies that are enabled. -/
def ChainProperties.strategies (p : ChainProperties) : VersionStrategies where
  fixed :=
    if p.strategy.fixed.enabled then
      some ⟨p.strategy.fixed.version, p.strategy.fixed.paths⟩
    else none
  contentPaths := if p.strategy.content.enabled then some p.strategy.content.paths else none

/-- The resolvers that the properties ask for, in the order they are asked. -/
def ChainProperties.resolvers (p : ChainProperties) : List Resolver :=
  (if p.compressed then [.encoded] else []) ++
    if p.strategies.fixed.isSome || p.strategies.contentPaths.isSome then [.version p.strategies]
    else []

def ChainProperties.transformers (p : ChainProperties) : List Transformer :=
  if p.applicationCache then [.appCacheManifest] else []

/-- A registration with the chain that the properties describe. -/
def ChainProperties.customize (p : ChainProperties) (r : Registration) : Registration :=
  r.modifyChain p.cache fun chain => { chain with
    resolvers := chain.resolvers ++ p.resolvers
    transformers := chain.transformers ++ p.transformers }

def webjarsPattern : String := "/webjars/**"
def webjarsLocation : String := "classpath:/META-INF/resources/webjars/"

namespace Registry

/-- A further mapping that is cached as the properties say, unless its pattern is mapped. -/
def addMapping (reg : Registry) (p : ResourceProperties) (customize : Registration → Registration)
    (pattern : String) (locations : List String) : Registry :=
  if reg.hasMapping pattern then reg
  else reg.add (customize { pattern, locations, cachePeriod := p.cachePeriod })

/-- The registry with the default mappings: that of packaged libraries, and that of the static
locations. -/
def addDefaults (reg : Registry) (p : ResourceProperties) (staticPattern : String)
    (customize : Registration → Registration) : Registry :=
  if p.addMappings then
    let reg := reg.addMapping p customize webjarsPattern [webjarsLocation]
    reg.addMapping p customize staticPattern p.staticLocations
  else reg

end Registry

end Startup.Web
