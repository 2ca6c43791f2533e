/-
The written form of the property types as JSON. A record is an object with a name for each field,
or the list of its fields in order; unknown names are passed over, a known name stands at most once,
and only a field that may be absent can be left out.
-/
import Startup.Json.Access
import Startup.Web.Properties

namespace Startup

namespace Json

/-! ## Reading -/

def asTexts? : Json → Option (List String)
  | .array items => items.mapM asText?
  | _ => none

/-- A whole number of 64 bits without a sign. -/
def asUInt64? : Json → Option UInt64
  | .integer n => if n < 0 then none else Number.toUInt64? n.toNat
  | _ => none

/-- A name: a string, or an object with one entry of that name that holds nothing. -/
def asName? : Json → Option String
  | .string s => s
  | .object [(some s, .null)] => some s
  | _ => none

/-- What stands under a name; it must not stand there twice. -/
def under? (entries : List (Option String × Json)) (name : String) : Option (Option Json) :=
  match entries.filter (·.1 == some name) with
  | [] => some none
  | [(_, v)] => some (some v)
  | _ => none

/-- The fields of a record in the order of their names, each with what stands there. -/
def fields? (names : List String) : Json → Option (List (Option Json))
  | .array items => if items.length = names.length then some (items.map some) else none
  | .object entries => if entries.all (·.1.isSome) then names.mapM (under? entries) else none
  | _ => none

/-- A field that must be there. -/
def required {α : Type} (read : Json → Option α) : Option Json → Option α
  | some v => read v
  | none => none

/-- A field that may be absent or hold nothing. -/
def absent {α : Type} (read : Json → Option α) : Option Json → Option (Option α)
  | none | some .null => some none
  | some v => (read v).map some

end Json

open Json

def Phase.toJson (p : Phase) : Json := .ofString p.name
def Phase.ofJson? (j : Json) : Option Phase := j.asName?.bind Phase.ofName?

namespace Web

/-! ## Locales and views -/

def LocaleSource.toJson (s : LocaleSource) : Json := .ofString s.name

def LocaleSource.ofJson? (j : Json) : Option LocaleSource :=
  j.asName?.bind fun name => [LocaleSource.fixed, .acceptHeader].find? (·.name == name)

def ViewProperties.toJson (v : ViewProperties) : Json :=
  .ofEntries [("prefix", .ofString v.before), ("suffix", .ofString v.behind)]

def ViewProperties.ofJson? (j : Json) : Option ViewProperties := do
  match ← j.fields? ["prefix", "suffix"] with
  | [before, behind] => pure {
      before := ← required asText? before
      behind := ← required asText? behind }
  | _ => none

def MvcProperties.toJson (p : MvcProperties) : Json :=
  .ofEntries [("static-path-pattern", .ofString p.staticPattern),
    ("locale", .ofOption .ofString p.locale), ("locale-resolver", p.localeSource.toJson),
    ("view", p.view.toJson)]

def MvcProperties.ofJson? (j : Json) : Option MvcProperties := do
  match ← j.fields? ["static-path-pattern", "locale", "locale-resolver", "view"] with
  | [staticPattern, locale, localeSource, view] => pure {
      staticPattern := ← required asText? staticPattern
      locale := ← absent asText? locale
      localeSource := ← required LocaleSource.ofJson? localeSource
      view := ← required ViewProperties.ofJson? view }
  | _ => none

/-! ## Static resources -/

def FixedStrategy.toJson (s : FixedStrategy) : Json :=
  .ofEntries [("enabled", .bool s.enabled), ("version", .ofOption .ofString s.version),
    ("paths", .ofStrings s.paths)]

def FixedStrategy.ofJson? (j : Json) : Option FixedStrategy := do
  match ← j.fields? ["enabled", "version", "paths"] with
  | [enabled, version, paths] => pure {
      enabled := ← required asBool? enabled
      version := ← absent asText? version
      paths := ← required asTexts? paths }
  | _ => none

def ContentStrategy.toJson (s : ContentStrategy) : Json :=
  .ofEntries [("enabled", .bool s.enabled), ("paths", .ofStrings s.paths)]

def ContentStrategy.ofJson? (j : Json) : Option ContentStrategy := do
  match ← j.fields? ["enabled", "paths"] with
  | [enabled, paths] => pure {
      enabled := ← required asBool? enabled
      paths := ← required asTexts? paths }
  | _ => none

def StrategyProperties.toJson (s : StrategyProperties) : Json :=
  .ofEntries [("fixed", s.fixed.toJson), ("content", s.content.toJson)]

def StrategyProperties.ofJson? (j : Json) : Option StrategyProperties := do
  match ← j.fields? ["fixed", "content"] with
  | [fixed, content] => pure {
      fixed := ← required FixedStrategy.ofJson? fixed
      content := ← required ContentStrategy.ofJson? content }
  | _ => none

def ChainProperties.toJson (p : ChainProperties) : Json :=
  .ofEntries [("enabled", .ofOption .bool p.enabled), ("cache", .bool p.cache),
    ("compressed", .bool p.compressed), ("html-application-cache", .bool p.applicationCache),
    ("strategy", p.strategy.toJson)]

def ChainProperties.ofJson? (j : Json) : Option ChainProperties := do
  match ← j.fields? ["enabled", "cache", "compressed", "html-application-cache", "strategy"] with
  | [enabled, cache, compressed, applicationCache, strategy] => pure {
      enabled := ← absent asBool? enabled
      cache := ← required asBool? cache
      compressed := ← required asBool? compressed
      applicationCache := ← required asBool? applicationCache
      strategy := ← required StrategyProperties.ofJson? strategy }
  | _ => none

def ResourceProperties.toJson (p : ResourceProperties) : Json :=
  .ofEntries [("add-mappings", .bool p.addMappings),
    ("static-locations", .ofStrings p.staticLocations),
    ("cache-period", .ofOption (fun n => .integer n.toNat) p.cachePeriod),
    ("chain", p.chain.toJson)]

def ResourceProperties.ofJson? (j : Json) : Option ResourceProperties := do
  match ← j.fields? ["add-mappings", "static-locations", "cache-period", "chain"] with
  | [addMappings, staticLocations, cachePeriod, chain] => pure {
      addMappings := ← required asBool? addMappings
      staticLocations := ← required asTexts? staticLocations
      cachePeriod := ← absent asUInt64? cachePeriod
      chain := ← required ChainProperties.ofJson? chain }
  | _ => none

end Web

end Startup
