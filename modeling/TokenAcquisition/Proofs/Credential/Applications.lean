import TokenAcquisition.Proofs.Credential.Family

/-!
What is kept of applications.  Of each client in each environment there is one entry at most, the
last that was saved with a credential; nothing else changes the entries, and they are read back
from the file.  The entries are a set: they have no order of their own, in memory or in the file.
-/

namespace TokenAcquisition

/-- Whose entry it is. -/
def AppMetadata.owner (entry : AppMetadata) : String × String :=
  (entry.clientId, entry.environment)

theorem AppMetadata.sameOwner_iff_owner_eq {a b : AppMetadata} :
    a.sameOwner b = true ↔ a.owner = b.owner := by
  rw [sameOwner_iff, owner, owner, Prod.mk.injEq]

theorem Store.IsSound.perm {s t : Store} (sound : s.IsSound) (perm : t.metadata.Perm s.metadata) :
    t.IsSound where
  distinct := perm.nodup_iff.mpr sound.distinct
  fits entry inside := sound.fits entry (perm.subset inside)

namespace Cache

/-- What is done with a cache. -/
inductive Use where
  | call (call : Call)
  /-- The cache is loaded anew from its file. -/
  | reload
  /-- The entries for applications come to be listed in another order. -/
  | relist

namespace Use

/-- The entry for an application that comes with a credential. -/
def brought? : Use → Option AppMetadata
  | .call (Call.save _ _ metadata) => metadata
  | _ => none

def Fits : Use → Prop
  | .call change => change.Fits
  | _ => True

end Use

/-- A use that does not fail. -/
inductive Step : Cache → Use → Cache → Prop where
  | call {cache after call told} :
      call.perform cache = (.ok told, after) → Step cache (.call call) after
  | reload {cache after} : Cache.load cache.file = .ok after → Step cache .reload after
  | relist {cache : Cache} {order} :
      order.Perm cache.store.metadata →
      Step cache .relist { cache with store := { cache.store with metadata := order } }

inductive Run (start : Cache) : List Use → Cache → Prop where
  | refl : Run start [] start
  | step {uses use cache after} :
      Run start uses cache → use.Fits → Step cache use after → Run start (uses ++ [use]) after

/-- The entry came with a credential, and none of the same owner did since. -/
def LastBrought (uses : List Use) (entry : AppMetadata) : Prop :=
  ∃ before use after, uses = before ++ use :: after ∧ use.brought? = some entry ∧
    ∀ later ∈ after, ∀ other ∈ later.brought?, entry.sameOwner other = false

variable {start cache after : Cache} {use : Use} {uses : List Use} {entry : AppMetadata}

/-- An entry is the last that came if the last use brought it, or brought none of its owner. -/
theorem lastBrought_concat :
    LastBrought (uses ++ [use]) entry ↔
      use.brought? = some entry ∨
        LastBrought uses entry ∧ ∀ other ∈ use.brought?, entry.sameOwner other = false := by
  constructor
  · rintro ⟨before, bringer, rest, whole, brings, passed⟩
    rcases List.eq_nil_or_concat rest with rfl | ⟨rest, last, rfl⟩
    · obtain ⟨-, same⟩ := List.append_inj' whole rfl
      obtain rfl := List.singleton_inj.mp same
      exact .inl brings
    · rw [List.concat_eq_append] at whole passed
      have whole : uses ++ [use] = (before ++ bringer :: rest) ++ [last] := by simpa using whole
      obtain ⟨front, same⟩ := List.append_inj' whole rfl
      obtain rfl := List.singleton_inj.mp same
      refine .inr ⟨⟨before, bringer, rest, front, brings, fun later member => ?_⟩, ?_⟩
      · exact passed later (List.mem_append_left _ member)
      · exact passed use (by simp)
  · rintro (brings | ⟨⟨before, bringer, rest, rfl, brings, passed⟩, last⟩)
    · exact ⟨uses, use, [], rfl, brings, List.forall_mem_nil _⟩
    · refine ⟨before, bringer, rest ++ [use], by simp, brings, fun later member => ?_⟩
      rcases List.mem_append.mp member with inside | new
      · exact passed later inside
      · exact List.mem_singleton.mp new ▸ last

/-- The entries can be written and are read back from the file, in whatever order; no two have
one owner. -/
structure Registers (cache : Cache) : Prop where
  sound : cache.store.IsSound
  single : ∀ a ∈ cache.store.metadata, ∀ b ∈ cache.store.metadata, a.sameOwner b = true → a = b
  loads : ∃ loaded, Cache.load cache.file = .ok loaded ∧ loaded.file = cache.file ∧
    loaded.store.metadata.Perm cache.store.metadata

theorem load_eq_ok {file : CacheFile} {store : Store} (loads : file.load = .ok (store, file)) :
    Cache.load file = .ok { store, file } := by
  rw [load, loads]

theorem load_of_holding {store : Store} (file : CacheFile) (sound : store.IsSound) :
    Cache.load (file.holding store) = .ok { store, file := file.holding store } :=
  load_eq_ok (CacheFile.load_holding file sound)

/-- What was loaded can be loaded once more. -/
theorem load_load {file : CacheFile} (loads : Cache.load file = .ok start)
    (empty : start.store = {}) : Cache.load start.file = .ok start := by
  obtain ⟨store, own⟩ := start
  obtain rfl : store = {} := empty
  unfold load at loads
  split at loads
  next store kept read =>
    cases loads
    rcases (CacheFile.load_cases read).2 with rfl | rfl
    · exact load_eq_ok read
    · exact load_of_holding file Store.isSound_empty
  next => cases loads

theorem registers_of_load {file : CacheFile} (loads : Cache.load file = .ok start)
    (empty : start.store = {}) : start.Registers where
  sound := empty ▸ Store.isSound_empty
  single a member := by simp [empty] at member
  loads := ⟨start, load_load loads empty, rfl, .rfl⟩

/-- An entry is there after a call if it came with it, or was there and is of another owner than
the one that came. -/
theorem Call.mem_metadata_of_change? {store changed : Store} {call : Call}
    (change : call.change? store = some changed) (entry : AppMetadata) :
    entry ∈ changed.metadata ↔
      (Use.call call).brought? = some entry ∨
        entry ∈ store.metadata ∧
          ∀ other ∈ (Use.call call).brought?, entry.sameOwner other = false := by
  cases call with
  | save clientId c metadata =>
      obtain rfl := Option.some.inj change
      exact store.mem_metadata_save { clientId, credential := c, metadata } entry
  | invalidate =>
      obtain ⟨_, -, rfl⟩ := Store.invalidate?_eq_some_iff.mp change
      simp [Use.brought?]
  | remove =>
      obtain ⟨_, rfl⟩ := Store.remove?_eq_some_iff.mp change
      simp [Use.brought?]

theorem Use.brought?_of_unchanged {store : Store} {call : Call}
    (nothing : call.change? store = none) : (Use.call call).brought? = none := by
  cases call with
  | save => cases nothing
  | invalidate | remove => rfl

/-- A call that does not fail has nothing to change, or what it changes is written. -/
theorem Call.cases_of_perform {call : Call} {told : Option Bool}
    (performed : call.perform cache = (.ok told, after)) :
    (call.change? cache.store = none ∧ after = cache) ∨
      ∃ store, call.change? cache.store = some store ∧
        after = { store, file := cache.file.holding store } := by
  rcases call.perform_cases cache with
    ⟨nothing, same⟩ | ⟨store, changed, same | ⟨failure, failed⟩⟩
  · exact .inl ⟨nothing, congrArg Prod.snd (performed.symm.trans same)⟩
  · exact .inr ⟨store, changed, congrArg Prod.snd (performed.symm.trans same)⟩
  · cases congrArg Prod.fst (performed.symm.trans failed)

/-- The calls that bring an entry change the store. -/
theorem Step.mem_metadata_iff (step : cache.Step use after) (registers : cache.Registers)
    (entry : AppMetadata) :
    entry ∈ after.store.metadata ↔
      use.brought? = some entry ∨
        entry ∈ cache.store.metadata ∧ ∀ other ∈ use.brought?, entry.sameOwner other = false := by
  cases step with
  | @call _ call _ performed =>
      rcases Call.cases_of_perform performed with ⟨nothing, rfl⟩ | ⟨store, changed, rfl⟩
      · simp [Use.brought?_of_unchanged nothing]
      · exact Call.mem_metadata_of_change? changed entry
  | reload read =>
      obtain ⟨loaded, again, -, perm⟩ := registers.loads
      obtain rfl := Except.ok.inj (read.symm.trans again)
      simp [Use.brought?, perm.mem_iff]
  | relist perm => simp [Use.brought?, perm.mem_iff]

theorem Step.registers (step : cache.Step use after) (fits : use.Fits)
    (registers : cache.Registers) : after.Registers := by
  have member := step.mem_metadata_iff registers
  have single : ∀ a ∈ after.store.metadata, ∀ b ∈ after.store.metadata,
      a.sameOwner b = true → a = b := by
    intro a inside b inside' same
    -- Of one owner both came now or both were there before: what came drops what was there.
    rcases (member a).mp inside with new | ⟨old, unlike⟩
    · rcases (member b).mp inside' with new' | ⟨-, unlike'⟩
      · exact Option.some.inj (new.symm.trans new')
      · have differs := unlike' a new
        rw [AppMetadata.sameOwner_trans_left same (AppMetadata.sameOwner_self a)] at differs
        cases differs
    · rcases (member b).mp inside' with new' | ⟨old', -⟩
      · cases (unlike b new').symm.trans same
      · exact registers.single a old b old' same
  cases step with
  | @call _ call _ performed =>
      rcases Call.cases_of_perform performed with ⟨-, rfl⟩ | ⟨store, changed, rfl⟩
      · exact registers
      · have sound := registers.sound.change? fits changed
        exact ⟨sound, single, _, load_of_holding cache.file sound, rfl, .rfl⟩
  | reload read =>
      obtain ⟨loaded, again, own, perm⟩ := registers.loads
      obtain rfl := Except.ok.inj (read.symm.trans again)
      exact ⟨registers.sound.perm perm, single, after, own ▸ again, rfl, .rfl⟩
  | relist perm =>
      obtain ⟨loaded, again, own, listed⟩ := registers.loads
      exact ⟨registers.sound.perm perm, single, loaded, again, own, listed.trans perm.symm⟩

theorem Run.registers (run : start.Run uses cache) (registers : start.Registers) :
    cache.Registers := by
  induction run with
  | refl => exact registers
  | step _ fits step inductionHypothesis => exact step.registers fits inductionHypothesis

/-- The entries after a run are those that came last. -/
theorem Run.mem_metadata_iff (run : start.Run uses cache) (registers : start.Registers)
    (empty : start.store.metadata = []) (entry : AppMetadata) :
    entry ∈ cache.store.metadata ↔ LastBrought uses entry := by
  induction run with
  | refl => simp [empty, LastBrought]
  | step before _ step inductionHypothesis =>
      rw [step.mem_metadata_iff (before.registers registers), lastBrought_concat,
        inductionHypothesis]

/-- What the entries for applications are after some uses, and what becomes of them in the next. -/
structure KeepsApplications (uses : List Use) (cache : Cache) : Prop where
  /-- There is one for each owner at most. -/
  distinct : (cache.store.metadata.map AppMetadata.owner).Nodup
  latest : ∀ entry, entry ∈ cache.store.metadata ↔ LastBrought uses entry
  reloads : ∃ after, cache.Step .reload after
  /-- Saves that bring no entry, and all else, leave the entries as they are. -/
  unchanged : ∀ {use after}, use.Fits → cache.Step use after → use.brought? = none →
    after.store.metadata.Perm cache.store.metadata
  /-- An entry that comes is the only one of its owner, and those of others stay. -/
  replaced : ∀ {use after entry}, use.Fits → cache.Step use after → use.brought? = some entry →
    (after.store.metadata.filter fun other => other.sameOwner entry) = [entry] ∧
      ∀ other, other.sameOwner entry = false →
        (other ∈ after.store.metadata ↔ other ∈ cache.store.metadata)

theorem Registers.nodup_owners (registers : cache.Registers) :
    (cache.store.metadata.map AppMetadata.owner).Nodup :=
  List.Nodup.map_on
    (fun a inside b inside' same =>
      registers.single a inside b inside' (AppMetadata.sameOwner_iff_owner_eq.mpr same))
    registers.sound.distinct

/-- The entries of an owner are one entry. -/
theorem Registers.filter_eq_singleton (registers : cache.Registers)
    (inside : entry ∈ cache.store.metadata) :
    (cache.store.metadata.filter fun other => other.sameOwner entry) = [entry] := by
  have members (other : AppMetadata) :
      other ∈ cache.store.metadata.filter (fun other => other.sameOwner entry) ↔
        other ∈ [entry] := by
    rw [List.mem_filter, List.mem_singleton]
    constructor
    · rintro ⟨there, same⟩
      exact registers.single other there entry inside same
    · rintro rfl
      exact ⟨inside, AppMetadata.sameOwner_self other⟩
  have distinct := registers.sound.distinct.filter fun other => other.sameOwner entry
  have perm := (List.perm_ext_iff_of_nodup distinct (List.nodup_singleton entry)).mpr members
  exact List.perm_singleton.mp perm

theorem Run.keepsApplications {file : CacheFile} (loads : Cache.load file = .ok start)
    (empty : start.store = {}) (run : start.Run uses cache) : KeepsApplications uses cache := by
  have fresh := registers_of_load loads empty
  have registers := run.registers fresh
  constructor
  case distinct => exact registers.nodup_owners
  case latest => exact run.mem_metadata_iff fresh (by rw [empty])
  case reloads =>
    obtain ⟨loaded, again, -⟩ := registers.loads
    exact ⟨loaded, .reload again⟩
  case unchanged =>
    intro use after fits step nothing
    refine (List.perm_ext_iff_of_nodup (step.registers fits registers).sound.distinct
      registers.sound.distinct).mpr fun entry => ?_
    simp [step.mem_metadata_iff registers, nothing]
  case replaced =>
    intro use after entry fits step brought
    have member := step.mem_metadata_iff registers
    constructor
    · exact (step.registers fits registers).filter_eq_singleton ((member entry).mpr (.inl brought))
    · intro other unlike
      rw [member, brought]
      constructor
      · rintro (same | ⟨old, -⟩)
        · obtain rfl := Option.some.inj same
          cases unlike.symm.trans (AppMetadata.sameOwner_self entry)
        · exact old
      · exact fun old => .inr ⟨old, fun brought same => Option.some.inj same ▸ unlike⟩

/-- An entry for the sample application, with or without the mark of a family. -/
def sampleEntry (foci : Option String) : AppMetadata :=
  { clientId := "app", environment := "e", foci, applicationUid := 1000 }

/-- A credential of the sample account is saved with such an entry. -/
def sampleRegistration (foci : Option String) : Use :=
  .call (.save "app" { account := sampleAccount } (some (sampleEntry foci)))

/-- A cache that can be written takes what is registered. -/
theorem Run.register (run : start.Run uses cache) (writable : cache.file.IsWritable)
    (foci : Option String) :
    ∃ after, start.Run (uses ++ [sampleRegistration foci]) after ∧ after.file.IsWritable := by
  let store := cache.store.save "app" { account := sampleAccount } (some (sampleEntry foci))
  have performed : Call.perform cache
      (.save "app" { account := sampleAccount } (some (sampleEntry foci))) =
        (.ok none, { store, file := cache.file.holding store }) := by
    rw [Call.perform_of_some rfl, replace_of_isWritable writable]
    rfl
  have fits : (sampleRegistration foci).Fits := by
    intro entry brought
    obtain rfl := Option.some.inj brought
    have uid : (-2147483648 : Int) ≤ 1000 ∧ (1000 : Int) < 2147483648 := by decide
    exact uid
  exact ⟨_, run.step fits (.call performed), writable.holding store⟩

/-- The application is registered, and then as one of a family: that entry is the only one. -/
theorem sample_keepsApplications :
    ∃ start cache, Cache.load {} = .ok start ∧ start.store = {} ∧
      start.Run ([] ++ [sampleRegistration none] ++ [sampleRegistration (some "1")]) cache ∧
      KeepsApplications ([] ++ [sampleRegistration none] ++ [sampleRegistration (some "1")]) cache ∧
      sampleEntry (some "1") ∈ cache.store.metadata ∧
      sampleEntry none ∉ cache.store.metadata := by
  let start : Cache := { store := {}, file := CacheFile.holding {} {} }
  have writable : start.file.IsWritable := ⟨rfl, rfl, nofun, nofun⟩
  obtain ⟨registered, run, stillWritable⟩ := Run.register .refl writable none
  obtain ⟨cache, run, -⟩ := run.register stillWritable (some "1")
  have loads : Cache.load {} = .ok start := rfl
  have keeps := Run.keepsApplications loads rfl run
  have inside : sampleEntry (some "1") ∈ cache.store.metadata :=
    (keeps.latest _).mpr (lastBrought_concat.mpr (.inl rfl))
  have outside : sampleEntry none ∉ cache.store.metadata := by
    intro there
    rcases lastBrought_concat.mp ((keeps.latest _).mp there) with same | ⟨-, unlike⟩
    · exact absurd same (by decide)
    · exact absurd (unlike _ rfl) (by decide)
  exact ⟨start, cache, loads, rfl, run, keeps, inside, outside⟩

end Cache

end TokenAcquisition
