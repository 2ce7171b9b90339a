import TokenAcquisition.Proofs.Cloud.Registry
import TokenAcquisition.Proofs.Url.LetterCase

/-!
The host that credentials are cached under.  It is one for all names of a cloud, unless a later
cloud has taken a name over, and it does not depend on how the authority is spelled.
-/

namespace TokenAcquisition

variable {s : Strategy} {clouds : List Cloud} {cloud : Cloud} {url other : Url}

namespace Strategy

theorem cacheHost_of_lookup (found : s.registry.lookup url.host = some cloud) :
    s.cacheHost url = cloud.cacheHost := by
  rw [cacheHost, found]

theorem cacheHost_of_unknown (unknown : s.registry.lookup url.host = none) :
    s.cacheHost url = url.host := by
  rw [cacheHost, unknown]

/-- Nothing of a URL but its host counts. -/
theorem cacheHost_congr (s : Strategy) (same : other.host = url.host) :
    s.cacheHost other = s.cacheHost url := by
  rw [cacheHost, cacheHost, same]

end Strategy

namespace CloudRegistry

/-- A registry finds some clouds by all their names, the last one of several that share a name,
and collapses the names of each to the host that it caches under. -/
structure Collapses (registry : CloudRegistry) (clouds : List Cloud) : Prop where
  found : ∀ host cloud, registry.lookup host = some cloud ↔ Cloud.IsLastNaming clouds host cloud
  unknown : ∀ host, registry.lookup host = none ↔ ∀ cloud ∈ clouds, ¬ cloud.Names host
  size : registry.size = ((clouds.flatMap Cloud.hosts).map Text.lowerAscii).eraseDups.length
  /-- A cloud that is found by one of its names is found by the host that it caches under. -/
  stable : ∀ host cloud, registry.lookup host = some cloud →
    ∃ before after, clouds = before ++ cloud :: after ∧ (∀ later ∈ after, ¬ later.Names host) ∧
      (registry.lookup cloud.cacheHost = some cloud ∨
        ∃ later ∈ after, later.Names cloud.cacheHost)
  /-- All authorities on hosts of a cloud are cached under one host. -/
  oneHost : ∀ s : Strategy, s.registry = registry →
    ∀ before cloud after, clouds = before ++ cloud :: after →
      ∀ url : Url, cloud.Names url.host → (∀ later ∈ after, ¬ later.Names url.host) →
        s.cacheHost url = cloud.cacheHost
  ownHost : ∀ s : Strategy, s.registry = registry →
    ∀ url : Url, (∀ cloud ∈ clouds, ¬ cloud.Names url.host) → s.cacheHost url = url.host
  /-- The letters of an authority may be written in either case. -/
  anyCase : ∀ s : Strategy, s.registry = registry →
    ∀ first second url, Text.sameIgnoringCase first second = true → Url.parse first = .ok url →
      (url.scheme = "http" ∨ url.scheme = "https") →
      ∃ other, Url.parse second = .ok other ∧ other.host = url.host ∧
        s.cacheHost other = s.cacheHost url

theorem Holds.collapse {registry : CloudRegistry} (holds : registry.Holds clouds) :
    registry.Collapses clouds where
  found _ _ := holds.lookup_eq_some_iff
  unknown _ := holds.lookup_eq_none_iff
  size := holds.size_eq
  stable _ _ := holds.lookup_cacheHost
  oneHost := by
    rintro s rfl before cloud after parts url named unnamed
    refine Strategy.cacheHost_of_lookup (holds.lookup_eq_some_iff.mpr ?_)
    exact ⟨before, after, parts, named, unnamed⟩
  ownHost := by
    rintro s rfl url unnamed
    exact Strategy.cacheHost_of_unknown (holds.lookup_eq_none_iff.mpr unnamed)
  anyCase := by
    rintro s - first second url same read isWeb
    obtain ⟨other, read', sites⟩ := Url.site_of_sameIgnoringCase same read isWeb
    have host : other.host = url.host := congrArg Url.Site.host sites
    exact ⟨other, read', host, s.cacheHost_congr host⟩

/-- Clouds may be registered in any number and order, on their own or behind the well-known ones,
as those of the settings are. -/
theorem collapses :
    (∀ clouds, (({} : CloudRegistry).registerAll clouds).Collapses clouds) ∧
    (∀ clouds, (wellKnown.registerAll clouds).Collapses (knownClouds ++ clouds)) ∧
    ∀ settings : Settings, settings.cloudRegistry.Collapses (knownClouds ++ settings.clouds) :=
  ⟨fun clouds => (holds_nil.registerAll clouds).collapse,
    fun clouds => (holds_wellKnown.registerAll clouds).collapse,
    fun settings => (holds_wellKnown.registerAll settings.clouds).collapse⟩

end CloudRegistry

end TokenAcquisition
