/-
What the settings of views and locales mean: the full name of a view, the locale of a request, and
where the icon of a site is looked for.
-/
import Startup.Web.Properties

namespace Startup.Web

/-! ## Views -/

/-- The name of a view with what stands before and behind every name. -/
def ViewProperties.resolve (v : ViewProperties) (name : String) : String :=
  v.before ++ name ++ v.behind

/-! ## Locales -/

inductive LocaleResolver where
  /-- One locale for every request. -/
  | fixed (locale : String)
  /-- The locale that a request prefers, or a default. -/
  | acceptHeader (fallback : String)
  deriving DecidableEq, Repr

namespace LocaleResolver

/-- Without a locale in the properties there is no resolver. -/
def ofProperties? (p : MvcProperties) : Option LocaleResolver :=
  p.locale.map fun locale =>
    match p.localeSource with
    | .fixed => .fixed locale
    | .acceptHeader => .acceptHeader locale

/-- The first tag of a header: the first item between commas, without its parameters. -/
def firstTag (header : String) : String :=
  let item := (Text.pieces (· == ',') header.toList).headD []
  let tag := (Text.pieces (· == ';') item).headD []
  .ofList (Text.trimBlanks tag)

/-- The locale of a request with the given header. -/
def resolve (r : LocaleResolver) (header : Option String) : String :=
  match r with
  | .fixed locale => locale
  | .acceptHeader fallback =>
    match header.map firstTag with
    | some tag => if tag.isEmpty then fallback else tag
    | none => fallback

end LocaleResolver

/-! ## The icon of a site -/

structure IconMapping where
  pattern : String
  locations : List String
  deriving DecidableEq, Repr

/-- The icon is looked for in the static locations and then at the root. -/
def IconMapping.ofProperties (p : ResourceProperties) : IconMapping where
  pattern := "**/favicon.ico"
  locations := p.staticLocations ++ ["classpath:/"]

end Startup.Web
