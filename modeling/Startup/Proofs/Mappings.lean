/-
The default mappings of a registry. They go behind the registrations that are there, which stay as they
are, and each only where its pattern is not mapped yet, be it by the other one; what is added is
customized once. To add them once more changes nothing.
-/
import Startup.Web.Registry

namespace Startup.Web

/-! ## Customizers -/

/-- A customizer that adds locations and sets up the chain, and leaves all else as it is. -/
structure Extending (customize : Registration → Registration) : Prop where
  pattern : ∀ r, (customize r).pattern = r.pattern
  locations : ∀ r, r.locations <+: (customize r).locations
  cachePeriod : ∀ r, (customize r).cachePeriod = r.cachePeriod

/-- Without a customizer a registration stays as it was made. -/
theorem extending_id : Extending id := ⟨fun _ => rfl, fun _ => List.prefix_rfl, fun _ => rfl⟩

namespace ChainProperties

/-- The chain that the properties describe: compressed resources are asked for first, then those with
versions, with the strategies that are enabled, and the manifest is transformed if it is to be cached. -/
def described (p : ChainProperties) : ResourceChain where
  cache := p.cache
  resolvers :=
    (if p.compressed then [.encoded] else []) ++
      if p.strategy.fixed.enabled ∨ p.strategy.content.enabled then
        [.version {
          fixed :=
            if p.strategy.fixed.enabled then
              some { version := p.strategy.fixed.version, paths := p.strategy.fixed.paths }
            else none
          contentPaths := if p.strategy.content.enabled then some p.strategy.content.paths else none }]
      else []
  transformers := if p.applicationCache then [.appCacheManifest] else []

/-- Some strategy is among the enabled ones exactly if one is enabled. -/
theorem strategies_present (p : ChainProperties) :
    (p.strategies.fixed.isSome || p.strategies.contentPaths.isSome) =
      (p.strategy.fixed.enabled || p.strategy.content.enabled) := by
  unfold strategies
  cases p.strategy.fixed.enabled <;> cases p.strategy.content.enabled <;> rfl

theorem resolvers_eq (p : ChainProperties) : p.resolvers = p.described.resolvers := by
  unfold resolvers described
  rw [strategies_present]
  simp only [Bool.or_eq_true]
  rfl

theorem extending_customize (p : ChainProperties) : Extending p.customize :=
  ⟨fun _ => rfl, fun _ => List.prefix_rfl, fun _ => rfl⟩

/-- A registration without a chain gets the one that is described, and nothing else. -/
theorem customize_eq (p : ChainProperties) {r : Registration} (h : r.chain = none) :
    p.customize r = { r with chain := some p.described } := by
  unfold customize Registration.modifyChain Registration.resourceChain
  rw [h]
  simp only [Option.getD_none, List.nil_append, resolvers_eq]
  rfl

end ChainProperties

namespace Registry

/-! ## One mapping -/

section Mapping

variable {reg : Registry} {p : ResourceProperties} {customize : Registration → Registration}
  {pattern : String} {locations : List String}

theorem hasMapping_iff : reg.hasMapping pattern = true ↔ ∃ r ∈ reg.registrations, r.pattern = pattern := by
  simp [hasMapping]

/-- What is added for a pattern behind the registrations that are there: nothing where it is mapped, and
else the registration that is made for it, customized once. -/
structure Added (p : ResourceProperties) (customize : Registration → Registration)
    (before : List Registration) (pattern : String) (locations : List String)
    (new : List Registration) : Prop where
  mapped : (∃ r ∈ before, r.pattern = pattern) → new = []
  unmapped : (∀ r ∈ before, r.pattern ≠ pattern) →
    new = [customize { pattern, locations, cachePeriod := p.cachePeriod }]
  pattern : ∀ r ∈ new, r.pattern = pattern
  locations : ∀ r ∈ new, locations <+: r.locations
  cachePeriod : ∀ r ∈ new, r.cachePeriod = p.cachePeriod

theorem addMapping_of_mapped (h : reg.hasMapping pattern = true) :
    reg.addMapping p customize pattern locations = reg := by
  unfold addMapping
  rw [if_pos h]

/-- A mapping that is added goes behind the others. -/
theorem addMapping_added (h : Extending customize) (reg : Registry) (p : ResourceProperties)
    (pattern : String) (locations : List String) : ∃ new,
    (reg.addMapping p customize pattern locations).registrations = reg.registrations ++ new ∧
      Added p customize reg.registrations pattern locations new := by
  by_cases mapped : reg.hasMapping pattern = true
  · refine ⟨[], ?_, ⟨fun _ => rfl, fun none => ?_, by simp, by simp, by simp⟩⟩
    · rw [addMapping_of_mapped mapped, List.append_nil]
    · obtain ⟨r, hr, hpattern⟩ := hasMapping_iff.1 mapped
      exact absurd hpattern (none r hr)
  · refine ⟨[customize { pattern, locations, cachePeriod := p.cachePeriod }], ?_,
      ⟨fun some => absurd (hasMapping_iff.2 some) mapped, fun _ => rfl, ?_, ?_, ?_⟩⟩
    · unfold addMapping
      rw [if_neg mapped]
      rfl
    all_goals
      intro r hr
      obtain rfl := List.mem_singleton.1 hr
    · exact h.pattern _
    · exact h.locations { pattern, locations, cachePeriod := p.cachePeriod }
    · exact h.cachePeriod _

/-- What is mapped stays so. -/
theorem hasMapping_addMapping_of_mapped {other : String} (h : reg.hasMapping other = true) :
    (reg.addMapping p customize pattern locations).hasMapping other = true := by
  unfold addMapping
  split
  · exact h
  · obtain ⟨r, hr, hpattern⟩ := hasMapping_iff.1 h
    exact hasMapping_iff.2 ⟨r, List.mem_append_left _ hr, hpattern⟩

/-- A pattern is mapped after a mapping of it was added, or not needed. -/
theorem hasMapping_addMapping (h : Extending customize) :
    (reg.addMapping p customize pattern locations).hasMapping pattern = true := by
  unfold addMapping
  split
  · assumption
  · exact hasMapping_iff.2 ⟨_, List.mem_append_right _ (List.mem_singleton.2 rfl), h.pattern _⟩

/-- What is added is made for the pattern and customized. -/
theorem Added.made {before new : List Registration} (h : Added p customize before pattern locations new)
    {r : Registration} (hr : r ∈ new) :
    r = customize { pattern, locations, cachePeriod := p.cachePeriod } := by
  by_cases mapped : ∃ r ∈ before, r.pattern = pattern
  · rw [h.mapped mapped] at hr
    cases hr
  · rw [h.unmapped fun r hr hpattern => mapped ⟨r, hr, hpattern⟩] at hr
    exact List.mem_singleton.1 hr

/-! ## Both mappings -/

theorem addDefaults_unwanted {staticPattern : String} (off : p.addMappings = false) :
    reg.addDefaults p staticPattern customize = reg := by
  unfold addDefaults
  rw [off]
  rfl

theorem addDefaults_added (h : Extending customize) (reg : Registry) (on : p.addMappings = true)
    (staticPattern : String) : ∃ packaged static,
      (reg.addDefaults p staticPattern customize).registrations =
        reg.registrations ++ packaged ++ static ∧
      Added p customize reg.registrations webjarsPattern [webjarsLocation] packaged ∧
      Added p customize (reg.registrations ++ packaged) staticPattern p.staticLocations static := by
  obtain ⟨packaged, hfirst, addedFirst⟩ := addMapping_added h reg p webjarsPattern [webjarsLocation]
  obtain ⟨static, hsecond, addedSecond⟩ :=
    addMapping_added h (reg.addMapping p customize webjarsPattern [webjarsLocation]) p staticPattern
      p.staticLocations
  rw [hfirst] at hsecond addedSecond
  refine ⟨packaged, static, ?_, addedFirst, addedSecond⟩
  unfold addDefaults
  rw [if_pos on, hsecond]

/-- Whatever is added was made without a chain and customized. -/
theorem addDefaults_made (h : Extending customize) (staticPattern : String) : ∃ new,
    (reg.addDefaults p staticPattern customize).registrations = reg.registrations ++ new ∧
      ∀ r ∈ new, ∃ made : Registration, made.chain = none ∧ r = customize made := by
  cases on : p.addMappings with
  | false =>
    refine ⟨[], ?_, by simp⟩
    rw [addDefaults_unwanted on, List.append_nil]
  | true =>
    obtain ⟨packaged, static, all, first, second⟩ := addDefaults_added h reg on staticPattern
    refine ⟨packaged ++ static, by rw [all, List.append_assoc], fun r hr => ?_⟩
    rcases List.mem_append.1 hr with hr | hr
    · exact ⟨_, rfl, first.made hr⟩
    · exact ⟨_, rfl, second.made hr⟩

/-- Both patterns are mapped when the mappings are added again. -/
theorem addDefaults_again (h : Extending customize) (staticPattern : String) :
    (reg.addDefaults p staticPattern customize).addDefaults p staticPattern customize =
      reg.addDefaults p staticPattern customize := by
  unfold addDefaults
  split
  · -- the second mapping of the first round keeps what the first one mapped
    have packaged : ((reg.addMapping p customize webjarsPattern [webjarsLocation]).addMapping p customize
        staticPattern p.staticLocations).hasMapping webjarsPattern = true :=
      hasMapping_addMapping_of_mapped (hasMapping_addMapping h)
    rw [addMapping_of_mapped packaged, addMapping_of_mapped (hasMapping_addMapping h)]
  · rfl

end Mapping

/-- Default mappings never disturb the registrations that are there: those stay, in their places, and
behind them goes one for the packaged libraries and then one for the static locations, each exactly if
nothing before it has its pattern. If default mappings are not wanted nothing happens, and nothing happens
when they are added again. No customizer is as good as one that leaves a registration as it is; that of
the resource chain gives a new registration the chain that its properties describe, and nothing else. -/
theorem defaults_added (reg : Registry) (p : ResourceProperties) (staticPattern : String)
    {customize : Registration → Registration} (h : Extending customize) :
    (p.addMappings = false → reg.addDefaults p staticPattern customize = reg) ∧
    (p.addMappings = true → ∃ packaged static,
      (reg.addDefaults p staticPattern customize).registrations =
        reg.registrations ++ packaged ++ static ∧
      Added p customize reg.registrations webjarsPattern [webjarsLocation] packaged ∧
      Added p customize (reg.registrations ++ packaged) staticPattern p.staticLocations static) ∧
    (reg.addDefaults p staticPattern customize).addDefaults p staticPattern customize =
      reg.addDefaults p staticPattern customize ∧
    Extending id ∧ ∀ c : ChainProperties, Extending c.customize ∧ ∀ r : Registration, r.chain = none →
      c.customize r = { r with chain := some c.described } := by
  exact ⟨addDefaults_unwanted, fun on => addDefaults_added h reg on staticPattern,
    addDefaults_again h staticPattern, extending_id,
    fun c => ⟨c.extending_customize, fun _ => c.customize_eq⟩⟩

/-- A registry with a pattern twice, and one of a default mapping among its patterns. -/
def crowded : Registry := ⟨[{ pattern := "/a" }, { pattern := "/webjars/**" }, { pattern := "/a" }]⟩

/-- A chain with everything but a fixed version. -/
def busy : ChainProperties where
  compressed := true
  applicationCache := true
  strategy := { content := { enabled := true, paths := ["/css/**"] } }

theorem defaults_added_crowded :
    Extending busy.customize ∧
    (crowded.addDefaults { cachePeriod := some 600 } "/**" busy.customize).registrations =
      crowded.registrations ++ [{
        pattern := "/**", locations := defaultStaticLocations, cachePeriod := some 600
        chain := some {
          cache := true
          resolvers := [.encoded, .version ⟨none, some ["/css/**"]⟩]
          transformers := [.appCacheManifest] } }] := by
  obtain ⟨-, added, -, -, chains⟩ := defaults_added crowded { cachePeriod := some 600 } "/**"
    busy.extending_customize
  obtain ⟨packaged, static, all, first, second⟩ := added rfl
  have known : packaged = [] := first.mapped ⟨{ pattern := "/webjars/**" }, by simp [crowded], rfl⟩
  subst known
  refine ⟨busy.extending_customize, ?_⟩
  rw [all, List.append_nil, second.unmapped (by simp [crowded]), (chains busy).2 _ rfl]
  rfl

end Registry

end Startup.Web
