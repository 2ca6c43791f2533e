/-
The settings of a web application agree with each other and with the environment they were computed from.
Each part is there exactly if its condition matched, although condition and part read the environment
apart, and the application's own mappings are those it makes without any environment.
-/
import Startup.Proofs.Mappings
import Startup.Proofs.Switching

namespace Startup

/-! ## Conditions -/

/-- Whether a text is a word, given in small letters, but for blanks at its ends and the case of ASCII
letters. -/
def Text.IsWord (word text : String) : Prop := (trim text).toList.map asciiLower = word.toList

theorem Text.isWord_iff (word text : String) (small : word.toList.map asciiLower = word.toList) :
    sameUpToAsciiCase (trim text) word = true ↔ IsWord word text := by
  unfold sameUpToAsciiCase IsWord
  rw [small, beq_iff_eq]

namespace PropertyCondition

variable {c : PropertyCondition} {env : Environment}

/-- A condition decides by the text of its property, and by itself where there is none. -/
theorem isMatch_outcome (c : PropertyCondition) (env : Environment) : (c.outcome env).isMatch =
    match env.getText? c.key with
    | none => c.whenMissing
    | some text => c.accepts text := by
  unfold outcome
  rcases env.getText? c.key with _ | text
  · cases c.whenMissing <;> rfl
  · cases accepted : c.accepts text
    · rcases c.expected with _ | expected <;> simp [accepted, Outcome.unmatched]
    · simp [accepted, Outcome.matched]

/-- Any text of a property will do, except for `false`. -/
theorem isMatch_anyValue (anything : c.expected = none) (needed : c.whenMissing = false) :
    (c.outcome env).isMatch = true ↔
      ∃ text, env.getText? c.key = some text ∧ ¬ Text.IsWord "false" text := by
  rw [isMatch_outcome]
  rcases env.getText? c.key with _ | text
  · simp [needed]
  · simp [accepts, anything, ← Text.isWord_iff "false" _ rfl]

/-- No text will do other than `true`, but there need not be one. -/
theorem isMatch_unlessSwitched (switch : c.expected = some "true") (missing : c.whenMissing = true) :
    (c.outcome env).isMatch = true ↔
      ∀ text, env.getText? c.key = some text → Text.IsWord "true" text := by
  rw [isMatch_outcome]
  rcases env.getText? c.key with _ | text
  · simp [missing]
  · simp [accepts, switch, ← Text.isWord_iff "true" _ rfl]

end PropertyCondition

namespace Web

variable {c : Configuration} {env : Environment} {s : Settings}

/-! ## Properties -/

theorem withSlash_ends (location : String) : ∃ start, withSlash location = start ++ "/" := by
  unfold withSlash
  split
  · rename_i ends
    have last : location.toList.getLast? = some '/' := by simpa [Text.endsWith] using ends
    obtain ⟨start, hstart⟩ := List.getLast?_eq_some_iff.1 last
    refine ⟨.ofList start, String.toList_injective ?_⟩
    simp [hstart]
  · exact ⟨location, rfl⟩

/-- The locations that are bound end in a slash, the default ones too. -/
theorem staticLocations_end {p : ResourceProperties} (h : ResourceProperties.ofEnvironment env = .ok p) :
    ∀ location ∈ p.staticLocations, ∃ start, location = start ++ "/" := by
  simp only [ResourceProperties.ofEnvironment, Except.bind_eq_ok] at h
  obtain ⟨_, -, _, -, _, -, hp⟩ := h
  cases hp
  rcases env.getTexts? staticLocationsKey with _ | locations
  · intro location hlocation
    simp only [defaultStaticLocations, List.mem_cons, List.not_mem_nil, or_false] at hlocation
    rcases hlocation with rfl | rfl | rfl | rfl
    · exact ⟨"classpath:/META-INF/resources", rfl⟩
    · exact ⟨"classpath:/resources", rfl⟩
    · exact ⟨"classpath:/static", rfl⟩
    · exact ⟨"classpath:/public", rfl⟩
  · intro location hlocation
    obtain ⟨written, -, rfl⟩ := List.mem_map.1 hlocation
    exact withSlash_ends written

theorem locale_read {p : MvcProperties} (h : MvcProperties.ofEnvironment env = .ok p) :
    p.locale = env.getText? localeKey := by
  simp only [MvcProperties.ofEnvironment, Except.bind_eq_ok] at h
  obtain ⟨_, -, hp⟩ := h
  cases hp
  rfl

/-! ## Settings -/

/-- The condition of the locale. -/
def localeCondition : PropertyCondition := (PropertyCondition.ofPath "mvc" "locale").anyValue

/-- Where the parts of settings come from. -/
structure Configured (c : Configuration) (env : Environment) (s : Settings) : Prop where
  resources : ResourceProperties.ofEnvironment env = .ok s.resources
  mvc : MvcProperties.ofEnvironment env = .ok s.mvc
  registry : s.registry = c.ownRegistry.addDefaults s.resources s.mvc.staticPattern
    (if s.chain.isMatch then s.resources.chain.customize else id)
  localeOutcome : s.localeOutcome = localeCondition.outcome env
  locale : s.locale = if s.localeOutcome.isMatch then LocaleResolver.ofProperties? s.mvc else none
  icon : s.icon = Configuration.partOutcome env "mvc.favicon"
  iconMapping : s.iconMapping = if s.icon.isMatch then some (IconMapping.ofProperties s.resources) else none

theorem configured (h : c.configure env = .ok s) : Configured c env s := by
  simp only [Configuration.configure, Except.bind_eq_ok] at h
  obtain ⟨resources, hresources, mvc, hmvc, chain, -, hs⟩ := h
  cases hs
  exact ⟨hresources, hmvc, rfl, rfl, rfl, rfl, rfl⟩

namespace Configured

/-- The application's own registrations come first, and all others have a chain or none has. -/
theorem registrations (h : Configured c env s) : ∃ defaults,
    s.registry.registrations = c.ownRegistry.registrations ++ defaults ∧
      ∀ r ∈ defaults, r.chain.isSome = s.chain.isMatch := by
  have extending : Extending (if s.chain.isMatch then s.resources.chain.customize else id) := by
    split
    · exact s.resources.chain.extending_customize
    · exact extending_id
  obtain ⟨new, all, made⟩ := Registry.addDefaults_made extending s.mvc.staticPattern
  refine ⟨new, h.registry ▸ all, fun r hr => ?_⟩
  obtain ⟨fresh, bare, rfl⟩ := made r hr
  cases s.chain.isMatch with
  | false => simp [bare]
  | true => simp [s.resources.chain.customize_eq bare]

theorem localeOutcome_iff (h : Configured c env s) : s.localeOutcome.isMatch = true ↔
    ∃ text, env.getText? localeKey = some text ∧ ¬ Text.IsWord "false" text := by
  have key : localeCondition.key = localeKey := by decide
  rw [h.localeOutcome, PropertyCondition.isMatch_anyValue rfl rfl, key]

theorem icon_iff (h : Configured c env s) : s.icon.isMatch = true ↔
    ∀ text, env.getText? "mvc.favicon.enabled" = some text → Text.IsWord "true" text := by
  rw [h.icon]
  exact PropertyCondition.isMatch_unlessSwitched rfl rfl

/-- There is a resolver exactly if the condition matched, which it does not without a locale. -/
theorem locale_isSome (h : Configured c env s) : s.locale.isSome = s.localeOutcome.isMatch := by
  rw [h.locale]
  cases matched : s.localeOutcome.isMatch with
  | false => rfl
  | true =>
    obtain ⟨text, htext, -⟩ := h.localeOutcome_iff.1 matched
    have read := locale_read h.mvc
    simp [LocaleResolver.ofProperties?, read, htext]

theorem iconMapping_isSome (h : Configured c env s) : s.iconMapping.isSome = s.icon.isMatch := by
  rw [h.iconMapping]
  cases s.icon.isMatch <;> rfl

end Configured

/-- The locale that a resolver was made with. -/
def LocaleResolver.locale : LocaleResolver → String
  | .fixed locale => locale
  | .acceptHeader fallback => fallback

theorem LocaleResolver.locale_ofProperties {p : MvcProperties} {resolver : LocaleResolver}
    (h : ofProperties? p = some resolver) : p.locale = some resolver.locale := by
  obtain ⟨text, htext, hresolver⟩ := Option.map_eq_some_iff.1 h
  rw [htext, ← hresolver]
  cases p.localeSource <;> rfl

namespace Configured

/-- A resolver has the text of the property, as it is. -/
theorem locale_text (h : Configured c env s) {resolver : LocaleResolver} (made : s.locale = some resolver) :
    env.getText? localeKey = some resolver.locale := by
  rw [h.locale] at made
  split at made
  · rw [← locale_read h.mvc]
    exact LocaleResolver.locale_ofProperties made
  · cases made

theorem icon_locations (h : Configured c env s) {mapping : IconMapping}
    (made : s.iconMapping = some mapping) :
    mapping.locations = s.resources.staticLocations ++ ["classpath:/"] := by
  rw [h.iconMapping] at made
  split at made
  · cases made
    rfl
  · cases made

end Configured

/-- Settings that were computed are consistent. Their registry begins with the mappings that the
application's functions make one after the other from none, the same whatever the environment and the
features say; every further registration has a chain if the chain is on, and none has if it is off. There
is a resolver of locales exactly if its condition matched, which it does exactly if a locale is set to a
text other than `false`, and the resolver has this text as it is. There is a mapping of the icon exactly
if its condition matched, which it does unless the switch has a text other than `true`, and the icon is
looked for in the static locations, which all end in a slash, and then at the root. -/
theorem configure_consistent (h : c.configure env = .ok s) :
    (∃ defaults, s.registry.registrations =
        (c.handlers.foldl (fun reg f => f reg) ({} : Registry)).registrations ++ defaults ∧
      ∀ r ∈ defaults, (∃ chain, r.chain = some chain) ↔ s.chain.isMatch = true) ∧
    (∀ (probe : Probe) (env' : Environment) (s' : Settings),
      ({ c with probe } : Configuration).configure env' = .ok s' →
        (c.handlers.foldl (fun reg f => f reg) ({} : Registry)).registrations <+: s'.registry.registrations) ∧
    ((∃ resolver, s.locale = some resolver) ↔ s.localeOutcome.isMatch = true) ∧
    (s.localeOutcome.isMatch = true ↔
      ∃ text, env.getText? localeKey = some text ∧ ¬ Text.IsWord "false" text) ∧
    (∀ resolver, s.locale = some resolver → env.getText? localeKey = some resolver.locale) ∧
    ((∃ mapping, s.iconMapping = some mapping) ↔ s.icon.isMatch = true) ∧
    (s.icon.isMatch = true ↔
      ∀ text, env.getText? "mvc.favicon.enabled" = some text → Text.IsWord "true" text) ∧
    (∀ mapping, s.iconMapping = some mapping →
      mapping.locations = s.resources.staticLocations ++ ["classpath:/"]) ∧
    ResourceProperties.ofEnvironment env = .ok s.resources ∧
    ∀ location ∈ s.resources.staticLocations, ∃ start, location = start ++ "/" := by
  have parts := configured h
  refine ⟨?_, fun probe env' s' h' => ?_, ?_, parts.localeOutcome_iff, fun _ => parts.locale_text, ?_,
    parts.icon_iff, fun _ => parts.icon_locations, parts.resources, staticLocations_end parts.resources⟩
  · obtain ⟨defaults, all, chained⟩ := parts.registrations
    refine ⟨defaults, all, fun r hr => ?_⟩
    rw [← Option.isSome_iff_exists, chained r hr]
  · obtain ⟨defaults, all, -⟩ := (configured h').registrations
    exact ⟨defaults, all.symm⟩
  · rw [← Option.isSome_iff_exists, parts.locale_isSome]
  · rw [← Option.isSome_iff_exists, parts.iconMapping_isSome]

/-- An application that maps the pattern of the static resources itself. -/
def mapped : Configuration := ⟨fun _ => false, [fun reg => reg.add { pattern := "/**" }]⟩

/-- A locale with blanks around it, a location without a slash, and the chain switched on. -/
def localized : Environment :=
  .ofSources [.ofPairs "" 0 [(localeKey, .text " en_US "), (staticLocationsKey, .text "file:/srv"),
    (chainEnabledKey, .text "yes")]]

theorem configure_consistent_localized : ∃ s, mapped.configure localized = .ok s ∧
    (∃ defaults, s.registry.registrations = { pattern := "/**" } :: defaults) ∧
    (∃ resolver, s.locale = some resolver ∧ resolver.locale = " en_US ") ∧
    ∃ mapping, s.iconMapping = some mapping := by
  obtain ⟨s, hs⟩ : ∃ s, mapped.configure localized = .ok s := ⟨_, rfl⟩
  obtain ⟨⟨defaults, all, -⟩, -, resolved, matched, exact, icon, switched, -⟩ := configure_consistent hs
  have set : localized.getText? localeKey = some " en_US " := rfl
  obtain ⟨resolver, hresolver⟩ := resolved.2 (matched.2 ⟨_, set, by unfold Text.IsWord; decide⟩)
  refine ⟨s, hs, ⟨defaults, all⟩, ⟨resolver, hresolver, ?_⟩,
    icon.2 (switched.2 fun text htext => ?_)⟩
  · have same := exact resolver hresolver
    rw [set] at same
    exact (Option.some.inj same).symm
  · cases htext

end Web

end Startup
