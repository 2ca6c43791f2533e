/-
What a web application was set up with, as JSON: its mappings, its locale and its settings as a
whole.
-/
import Startup.Web.Form
import Startup.Web.Settings

namespace Startup

/-- An outcome of a condition with the way it is shown. -/
def Outcome.toJson (o : Outcome) : Json :=
  .ofEntries [("match", .bool o.isMatch), ("message", .ofString o.message),
    ("text", .ofString o.shown)]

namespace Web

def LocaleResolver.toJson : LocaleResolver → Json
  | .fixed l => .ofEntries [("fixed", .ofString l)]
  | .acceptHeader l => .ofEntries [("accept-header", .ofString l)]

def IconMapping.toJson (m : IconMapping) : Json :=
  .ofEntries [("pattern", .ofString m.pattern), ("locations", .ofStrings m.locations)]

/-! ## Mappings -/

def Resolver.toJson : Resolver → Json
  | .encoded => .ofString "encoded"
  | .version s => .ofEntries [("version", .ofEntries [
      ("fixed", .ofOption (fun f => .ofEntries [("version", .ofOption .ofString f.version),
        ("paths", .ofStrings f.paths)]) s.fixed),
      ("content", .ofOption .ofStrings s.contentPaths)])]

def ResourceChain.toJson (c : ResourceChain) : Json :=
  .ofEntries [("cache", .bool c.cache), ("resolvers", .array (c.resolvers.map (·.toJson))),
    ("transformers", .array (c.transformers.map fun _ => .ofString "app-cache-manifest"))]

def Registration.toJson (r : Registration) : Json :=
  .ofEntries [("pattern", .ofString r.pattern), ("locations", .ofStrings r.locations),
    ("cache_period", .ofOption (fun n => .ofString (Number.decimal n.toNat)) r.cachePeriod),
    ("chain", .ofOption (·.toJson) r.chain)]

def Registry.toJson (r : Registry) : Json := .array (r.registrations.map (·.toJson))

/-- The mapping that is described by its pattern, its locations and, if they are there, a period
and whether its chain caches. -/
def Registration.ofJson (j : Json) : Registration :=
  let r : Registration := {
    pattern := j.str "pattern"
    locations := j.strs "locations"
    cachePeriod := (j.str? "cache_period").bind Number.uint64? }
  match j.flag? "chain" with
  | some cache => r.modifyChain cache id
  | none => r

/-! ## Settings -/

def Settings.toJson (s : Settings) : Json :=
  .ofEntries [("resources", s.resources.toJson), ("mvc", s.mvc.toJson),
    ("chain_enabled", .bool s.chain.isMatch),
    ("static_path_pattern", .ofString s.mvc.staticPattern),
    ("resource_chain", s.chain.toJson), ("registry", s.registry.toJson),
    ("view", .ofStrings [s.mvc.view.before, s.mvc.view.behind]),
    ("locale_condition", s.localeOutcome.toJson), ("locale", .ofOption (·.toJson) s.locale),
    ("favicon", s.icon.toJson), ("favicon_mapping", .ofOption (·.toJson) s.iconMapping),
    ("hidden_method_filter", s.hiddenMethodFilter.toJson),
    ("form_content_filter", s.formContentFilter.toJson)]

end Web

end Startup
