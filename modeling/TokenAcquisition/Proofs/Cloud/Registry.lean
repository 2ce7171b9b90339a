import TokenAcquisition.Proofs.Credential.Store
import TokenAcquisition.Proofs.Lists
import TokenAcquisition.Settings

/-!
Registries of clouds.  Clouds may name the same hosts.  Whatever clouds are registered in whatever
order, a registry knows each host as that of the last cloud that names it, and knows no others.
-/

namespace TokenAcquisition

/-- How many keys a map has. -/
theorem SortedMap.size_eq {V : Type} {m : SortedMap V} {keys : List String}
    (held : ∀ key, (m.find? key).isSome ↔ key ∈ keys) : m.size = keys.eraseDups.length := by
  have distinct : (m.entries.map Prod.fst).Nodup :=
    List.pairwise_map.mpr (m.ascending.imp fun before => String.ne_of_lt before)
  have inside (key : String) : key ∈ m.entries.map Prod.fst ↔ key ∈ keys.eraseDups := by
    rw [List.mem_eraseDups, ← held, Option.isSome_iff_exists]
    simp [← mem_entries_iff]
  have same := (List.perm_ext_iff_of_nodup distinct (Lists.nodup_eraseDups keys)).mpr inside
  rw [SortedMap.size, ← same.length_eq, List.length_map]

/-- When one value is put under several keys, it is found under all of them. -/
theorem SortedMap.find?_foldl_insert_value {α V : Type} (keyOf : α → String) (value : V)
    (owners : List α) (m : SortedMap V) (key : String) :
    (owners.foldl (fun m owner => m.insert (keyOf owner) value) m).find? key =
      if key ∈ owners.map keyOf then some value else m.find? key := by
  induction owners generalizing m with
  | nil => simp
  | cons owner owners inductionHypothesis =>
      rw [List.foldl_cons, inductionHypothesis, SortedMap.find?_insert]
      by_cases later : key ∈ owners.map keyOf
      · simp [later]
      · simp only [later, if_false, List.map_cons, List.mem_cons, or_false]

namespace Cloud

/-- The small-letter forms of the hosts of a cloud, which it is registered under. -/
def keys (cloud : Cloud) : List String :=
  cloud.hosts.map Text.lowerAscii

/-- A cloud names a host that is one of its own up to case. -/
def Names (cloud : Cloud) (host : String) : Prop :=
  ∃ own, (own ∈ cloud.aliases ∨ own = cloud.networkHost ∨ own = cloud.cacheHost) ∧
    Text.sameIgnoringCase own host = true

theorem names_iff (cloud : Cloud) (host : String) :
    cloud.Names host ↔ Text.lowerAscii host ∈ cloud.keys := by
  constructor
  · rintro ⟨own, among, same⟩
    have inside : own ∈ cloud.hosts := by simpa [hosts] using among
    exact (Text.sameIgnoringCase_eq_true_iff own host).mp same ▸ List.mem_map_of_mem inside
  · intro inside
    obtain ⟨own, among, same⟩ := List.mem_map.mp inside
    exact ⟨own, by simpa [hosts] using among,
      (Text.sameIgnoringCase_eq_true_iff own host).mpr same⟩

theorem names_cacheHost (cloud : Cloud) : cloud.Names cloud.cacheHost :=
  ⟨cloud.cacheHost, .inr (.inr rfl), by simp⟩

/-- Of some clouds, the last one that names a host. -/
def IsLastNaming (clouds : List Cloud) (host : String) (cloud : Cloud) : Prop :=
  ∃ before after, clouds = before ++ cloud :: after ∧ cloud.Names host ∧
    ∀ later ∈ after, ¬ later.Names host

end Cloud

namespace CloudRegistry

variable {registry : CloudRegistry} {clouds : List Cloud} {cloud : Cloud} {host key : String}

/-! ### Registrations -/

/-- A registration takes over all hosts of its cloud and no others. -/
theorem find?_register (registry : CloudRegistry) (cloud : Cloud) (key : String) :
    (registry.register cloud).byHost.find? key =
      if key ∈ cloud.keys then some cloud else registry.byHost.find? key :=
  SortedMap.find?_foldl_insert_value Text.lowerAscii cloud cloud.hosts registry.byHost key

/-- A registry that holds each host of the clouds with the last cloud that names it. -/
def Holds (registry : CloudRegistry) (clouds : List Cloud) : Prop :=
  ∀ key, registry.byHost.find? key = clouds.reverse.find? fun cloud => key ∈ cloud.keys

theorem holds_nil : ({} : CloudRegistry).Holds [] :=
  fun _ => rfl

theorem Holds.register (holds : registry.Holds clouds) (cloud : Cloud) :
    (registry.register cloud).Holds (clouds ++ [cloud]) := by
  intro key
  rw [find?_register, List.reverse_concat, List.find?_cons, holds key]
  by_cases named : key ∈ cloud.keys <;> simp [named]

theorem Holds.registerAll (holds : registry.Holds clouds) (more : List Cloud) :
    (registry.registerAll more).Holds (clouds ++ more) := by
  induction more generalizing registry clouds with
  | nil => simpa [CloudRegistry.registerAll] using holds
  | cons cloud more inductionHypothesis =>
      rw [List.append_cons]
      exact inductionHypothesis (holds.register cloud)

theorem holds_wellKnown : wellKnown.Holds knownClouds :=
  holds_nil.registerAll knownClouds

/-! ### What a registry knows -/

namespace Holds

variable (holds : registry.Holds clouds)
include holds

theorem lookup_eq_some_iff :
    registry.lookup host = some cloud ↔ Cloud.IsLastNaming clouds host cloud := by
  rw [CloudRegistry.lookup, holds, List.find?_eq_some_iff_append]
  constructor
  · rintro ⟨named, after, before, parts, unnamed⟩
    refine ⟨before.reverse, after.reverse, ?_, ?_, fun later inside => ?_⟩
    · rw [← List.reverse_inj, parts]
      simp
    · simpa [Cloud.names_iff] using named
    · simpa [Cloud.names_iff] using unnamed later (List.mem_reverse.mp inside)
  · rintro ⟨before, after, rfl, named, unnamed⟩
    refine ⟨by simpa [Cloud.names_iff] using named, after.reverse, before.reverse, by simp,
      fun later inside => ?_⟩
    simpa [Cloud.names_iff] using unnamed later (List.mem_reverse.mp inside)

theorem lookup_eq_none_iff :
    registry.lookup host = none ↔ ∀ cloud ∈ clouds, ¬ cloud.Names host := by
  rw [CloudRegistry.lookup, holds, List.find?_eq_none]
  simp [Cloud.names_iff]

theorem size_eq :
    registry.size = ((clouds.flatMap Cloud.hosts).map Text.lowerAscii).eraseDups.length := by
  refine SortedMap.size_eq fun key => ?_
  rw [holds, List.find?_isSome, List.map_flatMap]
  simp [Cloud.keys]

/-- The last cloud that names a host is found by the host that it caches under, unless a later one
has taken that over. -/
theorem lookup_cacheHost (found : registry.lookup host = some cloud) :
    ∃ before after, clouds = before ++ cloud :: after ∧ (∀ later ∈ after, ¬ later.Names host) ∧
      (registry.lookup cloud.cacheHost = some cloud ∨
        ∃ later ∈ after, later.Names cloud.cacheHost) := by
  obtain ⟨before, after, parts, -, unnamed⟩ := holds.lookup_eq_some_iff.mp found
  refine ⟨before, after, parts, unnamed, ?_⟩
  by_cases taken : ∃ later ∈ after, later.Names cloud.cacheHost
  · exact .inr taken
  · refine .inl (holds.lookup_eq_some_iff.mpr ?_)
    exact ⟨before, after, parts, cloud.names_cacheHost, by simpa using taken⟩

end Holds

end CloudRegistry

end TokenAcquisition
