import TokenAcquisition.Credential.File
import TokenAcquisition.Proofs.Credential.Store

/-!
Calls on a cache whose file may not be writable.  A call changes the store in memory first and
writes it then.  When writing fails the file is as it was, but memory is not: it holds what was to
be written.  To save or to drop tokens once more makes up for that.  To remove once more does not,
since the credential is no longer in memory: nothing is written, and the file holds it still.
After any number of calls memory holds what it would hold if all of them had been written.
-/

namespace TokenAcquisition

namespace CacheFile

variable {file : CacheFile}

/-- Nothing is in the way of a write. -/
def IsWritable (file : CacheFile) : Prop :=
  file.hasParent = true ∧ file.folderExists = true ∧ file.entry ≠ .unreadable ∧
    file.entry ≠ .impossible

instance (file : CacheFile) : Decidable file.IsWritable :=
  inferInstanceAs (Decidable (_ ∧ _ ∧ _ ∧ _))

/-- The file with a store in it. -/
def holding (file : CacheFile) (store : Store) : CacheFile :=
  { file with entry := .text (print store), mode := ownerOnly }

theorem write_of_isWritable (writable : file.IsWritable) (store : Store) :
    file.write store = .ok (file.holding store) := by
  obtain ⟨parent, folder, readable, possible⟩ := writable
  simp [write, parent, folder, readable, possible, holding]

theorem IsWritable.holding (writable : file.IsWritable) (store : Store) :
    (file.holding store).IsWritable :=
  ⟨writable.1, writable.2.1, nofun, nofun⟩

theorem exists_fault_of_not_isWritable (blocked : ¬ file.IsWritable) (store : Store) :
    ∃ fault, file.write store = .error fault := by
  unfold write
  split
  next => exact ⟨_, rfl⟩
  next parent =>
    split
    next => exact ⟨_, rfl⟩
    next folder =>
      split
      next => exact ⟨_, rfl⟩
      next usable =>
        obtain ⟨readable, possible⟩ := not_or.mp usable
        have writable : file.IsWritable :=
          ⟨by simpa using parent, by simpa using folder, readable, possible⟩
        exact absurd writable blocked

end CacheFile

namespace Cache

variable {cache after : Cache} {store : Store} {failure : Failure}

theorem replace_of_isWritable (writable : cache.file.IsWritable) (store : Store) :
    cache.replace store = (.ok (), { store, file := cache.file.holding store }) := by
  simp only [replace, CacheFile.write_of_isWritable writable]

/-- Whether or not the store can be written, memory holds it. -/
theorem replace_cases (cache : Cache) (store : Store) :
    cache.replace store = (.ok (), { store, file := cache.file.holding store }) ∨
      ∃ failure, cache.replace store = (.error failure, { cache with store }) := by
  by_cases writable : cache.file.IsWritable
  · exact .inl (replace_of_isWritable writable store)
  · obtain ⟨fault, failed⟩ := CacheFile.exists_fault_of_not_isWritable writable store
    exact .inr ⟨fault.failure, by simp only [replace, failed]⟩

/-- A call that may change a cache. -/
inductive Call where
  | save (clientId : String) (c : Credential) (metadata : Option AppMetadata)
  | invalidate (clientId : String) (account : Account)
  | remove (clientId : String) (account : Account)

namespace Call

/-- The store that is to take the place of one, if there is anything to change. -/
def change? (store : Store) : Call → Option Store
  | .save clientId c metadata => some (store.save clientId c metadata)
  | .invalidate clientId account => store.invalidate? clientId account
  | .remove clientId account => store.remove? clientId account

def isRemoval : Call → Bool
  | .remove _ _ => true
  | _ => false

/-- What is told of a call that did not fail: of a removal, whether there was anything to remove. -/
def told (changed : Bool) (call : Call) : Option Bool :=
  if call.isRemoval then some changed else none

def perform (cache : Cache) : Call → Except Failure (Option Bool) × Cache
  | .save clientId c metadata =>
      let (saved, after) := cache.save clientId c metadata
      (saved.map fun _ => none, after)
  | .invalidate clientId account =>
      let (dropped, after) := cache.invalidate clientId account
      (dropped.map fun _ => none, after)
  | .remove clientId account =>
      let (removed, after) := cache.remove clientId account
      (removed.map some, after)

variable {call : Call}

theorem perform_of_none (nothing : call.change? cache.store = none) :
    call.perform cache = (.ok (call.told false), cache) := by
  cases call with
  | save => cases nothing
  | invalidate clientId account =>
      have nothing : cache.store.invalidate? clientId account = none := nothing
      simp only [perform, Cache.invalidate, nothing]
      rfl
  | remove clientId account =>
      have nothing : cache.store.remove? clientId account = none := nothing
      simp only [perform, Cache.remove, nothing]
      rfl

theorem perform_of_some (changed : call.change? cache.store = some store) :
    call.perform cache =
      ((cache.replace store).1.map fun _ => call.told true, (cache.replace store).2) := by
  cases call with
  | save =>
      obtain rfl := Option.some.inj changed
      rfl
  | invalidate clientId account =>
      have changed : cache.store.invalidate? clientId account = some store := changed
      simp only [perform, Cache.invalidate, changed]
      rfl
  | remove clientId account =>
      have changed : cache.store.remove? clientId account = some store := changed
      simp only [perform, Cache.remove, changed]
      cases (cache.replace store).1 <;> rfl

/-- Done once more, a call has the same to change, unless it is a removal. -/
theorem change?_change? (changed : call.change? cache.store = some store) :
    call.change? store = if call.isRemoval then none else some store := by
  cases call with
  | save clientId c metadata =>
      obtain rfl := Option.some.inj changed
      exact congrArg some (cache.store.save_save clientId c metadata)
  | invalidate => exact Store.invalidate?_of_invalidate? changed
  | remove => exact Store.remove?_of_remove? changed

/-- A call has nothing to change, changes and writes the store, or changes it and fails to write
it. -/
theorem perform_cases (call : Call) (cache : Cache) :
    (call.change? cache.store = none ∧ call.perform cache = (.ok (call.told false), cache)) ∨
    ∃ store, call.change? cache.store = some store ∧
      (call.perform cache =
          (.ok (call.told true), { store, file := cache.file.holding store }) ∨
        ∃ failure, call.perform cache = (.error failure, { cache with store })) := by
  cases changed : call.change? cache.store with
  | none => exact .inl ⟨rfl, perform_of_none changed⟩
  | some store =>
      refine .inr ⟨store, rfl, ?_⟩
      rw [perform_of_some changed]
      rcases cache.replace_cases store with written | ⟨failure, failed⟩
      · rw [written]
        exact .inl rfl
      · rw [failed]
        exact .inr ⟨failure, rfl⟩

/-- What a call makes of a store. -/
def made (store : Store) (call : Call) : Store :=
  (call.change? store).getD store

/-- Memory holds what a call makes of it, written or not. -/
theorem perform_store (call : Call) (cache : Cache) :
    (call.perform cache).2.store = call.made cache.store := by
  rcases call.perform_cases cache with
    ⟨nothing, same⟩ | ⟨store, changed, same | ⟨failure, same⟩⟩
  · rw [same, made, nothing, Option.getD_none]
  · rw [same, made, changed, Option.getD_some]
  · rw [same, made, changed, Option.getD_some]

/-- A failed call leaves the file as it was, but memory holds what was to be written. -/
theorem of_failed (failed : (call.perform cache).1 = .error failure) :
    ∃ store, call.change? cache.store = some store ∧
      (call.perform cache).2 = { cache with store } := by
  rcases call.perform_cases cache with ⟨-, same⟩ | ⟨store, changed, same | ⟨failure, same⟩⟩
  · rw [same] at failed
    cases failed
  · rw [same] at failed
    cases failed
  · exact ⟨store, changed, by rw [same]⟩

/-- The same call makes up for a failure, but a removal finds nothing to remove. -/
theorem perform_perform (failed : (call.perform cache).1 = .error failure) {file : CacheFile}
    (writable : file.IsWritable) :
    call.perform { (call.perform cache).2 with file } =
      (.ok (call.told !call.isRemoval),
        { (call.perform cache).2 with
          file :=
            if call.isRemoval then file else file.holding (call.perform cache).2.store }) := by
  obtain ⟨store, changed, same⟩ := of_failed failed
  rw [same]
  have again := change?_change? changed
  cases removes : call.isRemoval with
  | true =>
      rw [removes, if_pos rfl] at again
      have nothing :=
        perform_of_none (show call.change? (Cache.mk store file).store = none from again)
      simpa using nothing
  | false =>
      rw [removes, if_neg nofun] at again
      have redone :=
        perform_of_some (show call.change? (Cache.mk store file).store = some store from again)
      rw [redone, replace_of_isWritable writable]
      simp [Except.map]

end Call

/-- Calls one after another, each with the file as it is by then. -/
def performAll (cache : Cache) : List (CacheFile × Call) → Cache
  | [] => cache
  | (file, call) :: rest => (call.perform { cache with file }).2.performAll rest

theorem performAll_store (cache : Cache) (calls : List (CacheFile × Call)) :
    (cache.performAll calls).store =
      calls.foldl (fun store entry => entry.2.made store) cache.store := by
  induction calls generalizing cache with
  | nil => rfl
  | cons entry rest inductionHypothesis =>
      obtain ⟨file, call⟩ := entry
      rw [performAll, inductionHypothesis, Call.perform_store, List.foldl_cons]

/-- What a removal tells, and what it leaves. -/
theorem remove_cases (cache : Cache) (clientId : String) (account : Account) :
    (cache.store.get? clientId account = none ∧
      cache.remove clientId account = (.ok false, cache)) ∨
    ∃ store, (cache.store.get? clientId account).isSome ∧ store.get? clientId account = none ∧
      (cache.remove clientId account = (.ok true, { store, file := cache.file.holding store }) ∨
        ∃ failure, cache.remove clientId account = (.error failure, { cache with store })) := by
  cases removed : cache.store.remove? clientId account with
  | none =>
      have nothing : cache.store.get? clientId account = none := Option.map_eq_none_iff.mp removed
      exact .inl ⟨nothing, by simp only [remove, removed]⟩
  | some store =>
      have gone := Store.find?_of_remove? removed (Credential.keyOf clientId account)
      rw [if_pos rfl] at gone
      refine .inr ⟨store, (Store.remove?_eq_some_iff.mp removed).1, gone, ?_⟩
      simp only [remove, removed]
      rcases cache.replace_cases store with written | ⟨failure, failed⟩
      · rw [written]
        exact .inl rfl
      · rw [failed]
        exact .inr ⟨failure, rfl⟩

/-- What becomes of a cache in a call, and in the same call once more. -/
structure Performs (call : Call) (cache : Cache) : Prop where
  /-- A failed call leaves the file as it was, but memory holds what was to be written. -/
  failed : ∀ {failure : Failure}, (call.perform cache).1 = .error failure →
    ∃ store, call.change? cache.store = some store ∧
      (call.perform cache).2 = { cache with store }
  /-- When the file can be written again the same call makes up for that; only a removal finds
  nothing to remove, and writes nothing. -/
  again : ∀ {failure : Failure} {file : CacheFile},
    (call.perform cache).1 = .error failure → file.IsWritable →
    call.perform { (call.perform cache).2 with file } =
      (.ok (call.told !call.isRemoval),
        { (call.perform cache).2 with
          file :=
            if call.isRemoval then file else file.holding (call.perform cache).2.store })

/-- What a removal tells of the credential of an account. -/
structure Removes (clientId : String) (account : Account) (cache : Cache) : Prop where
  removed : (cache.remove clientId account).1 = .ok true →
    (cache.remove clientId account).2.store.get? clientId account = none ∧
      (cache.remove clientId account).2.file =
        cache.file.holding (cache.remove clientId account).2.store
  /-- Nothing is written when memory holds no credential, whatever the file holds. -/
  missed : (cache.remove clientId account).1 = .ok false →
    (cache.remove clientId account).2 = cache
  /-- A credential that could not be removed from the file is nevertheless not found any more. -/
  failed : ∀ {failure : Failure}, (cache.remove clientId account).1 = .error failure →
    (cache.store.get? clientId account).isSome ∧
      (cache.remove clientId account).2.store.get? clientId account = none ∧
      (cache.remove clientId account).2.file = cache.file

theorem performs (call : Call) (cache : Cache) : Performs call cache :=
  ⟨Call.of_failed, fun failed writable => Call.perform_perform failed writable⟩

theorem removes (clientId : String) (account : Account) (cache : Cache) :
    Removes clientId account cache := by
  rcases cache.remove_cases clientId account with
    ⟨-, same⟩ | ⟨store, held, gone, same | ⟨failure, same⟩⟩
  · constructor
    · rw [same]
      nofun
    · rw [same]
      exact fun _ => rfl
    · rw [same]
      nofun
  · constructor
    · rw [same]
      exact fun _ => ⟨gone, rfl⟩
    · rw [same]
      nofun
    · rw [same]
      nofun
  · constructor
    · rw [same]
      nofun
    · rw [same]
      nofun
    · rw [same]
      exact fun _ => ⟨held, gone, rfl⟩

/-- Failed calls on a cache lose nothing but removals: memory never tells them from others, and
all but removals make up for a failure when they are done once more. -/
theorem calls_performed (cache : Cache) :
    (∀ call, Performs call cache) ∧ (∀ clientId account, Removes clientId account cache) ∧
      ∀ calls, (cache.performAll calls).store =
        calls.foldl (fun store entry => entry.2.made store) cache.store := by
  refine ⟨?_, ?_, ?_⟩
  · exact fun call => performs call cache
  · exact fun clientId account => removes clientId account cache
  · exact cache.performAll_store

def sampleAccount : Account :=
  { homeAccountId := "u", environment := "e" }

/-- A cache file with a credential of the sample account. -/
def sampleFile : CacheFile :=
  { entry := .text <|
      "\x7b\"credentials\":\x7b\"u-e-app\":\x7b\"account\":" ++
        "\x7b\"home_account_id\":\"u\",\"environment\":\"e\"\x7d\x7d\x7d\x7d" }

theorem sampleFile_load :
    ∃ store, Cache.load sampleFile = .ok { store, file := sampleFile } ∧
      (store.get? "app" sampleAccount).isSome = true := by
  have read : ((Cache.load sampleFile).toOption.any fun loaded =>
      (loaded.store.get? "app" sampleAccount).isSome && decide (loaded.file = sampleFile)) =
        true := by decide +kernel
  cases loads : Cache.load sampleFile with
  | error failure =>
      rw [loads] at read
      cases read
  | ok loaded =>
      obtain ⟨store, file⟩ := loaded
      rw [loads] at read
      have both : ((store.get? "app" sampleAccount).isSome && decide (file = sampleFile)) = true :=
        read
      obtain ⟨held, rfl⟩ : (store.get? "app" sampleAccount).isSome = true ∧ file = sampleFile := by
        simpa using both
      exact ⟨store, rfl, held⟩

/-- While the folder of the file is away a removal fails, and the credential is not found any
more.  When the folder is back there is nothing to remove, and the file still holds the
credential. -/
theorem failed_removal_lost :
    ∃ loaded failure after, Cache.load sampleFile = .ok loaded ∧
      (loaded.store.get? "app" sampleAccount).isSome = true ∧
      Cache.remove { loaded with file := { sampleFile with folderExists := false } } "app"
        sampleAccount = (.error failure, after) ∧
      after.store.get? "app" sampleAccount = none ∧
      Cache.remove { after with file := sampleFile } "app" sampleAccount =
        (.ok false, { after with file := sampleFile }) := by
  obtain ⟨store, loads, held⟩ := sampleFile_load
  obtain ⟨removed, removes⟩ : ∃ removed, store.remove? "app" sampleAccount = some removed :=
    ⟨_, Store.remove?_eq_some_iff.mpr ⟨held, rfl⟩⟩
  have gone := Store.find?_of_remove? removes (Credential.keyOf "app" sampleAccount)
  rw [if_pos rfl] at gone
  have again := Store.remove?_of_remove? removes
  refine ⟨_, (CacheFile.Fault.writing "no such folder").failure,
    { store := removed, file := { sampleFile with folderExists := false } },
    loads, held, ?_, gone, ?_⟩
  · simp only [Cache.remove, removes]
    rfl
  · simp only [Cache.remove, again]

end Cache

end TokenAcquisition
