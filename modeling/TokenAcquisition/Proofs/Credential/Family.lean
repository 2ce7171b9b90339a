import Mathlib.Data.List.Sort
import TokenAcquisition.Proofs.Credential.Encoding

/-!
Several credentials saved one after another.  When their keys differ, and those of one application
come with one entry for it, their order does not matter: each is kept under its own key, and each
application has the entry that came with it.
-/

namespace TokenAcquisition

/-- Two maps that have the same values are the same. -/
theorem SortedMap.ext_find? {V : Type} {first second : SortedMap V}
    (same : ∀ key, first.find? key = second.find? key) : first = second := by
  have distinct (m : SortedMap V) : m.entries.Nodup :=
    m.ascending.imp fun before same => String.ne_of_lt before (congrArg Prod.fst same)
  have members (entry : String × V) : entry ∈ first.entries ↔ entry ∈ second.entries := by
    obtain ⟨key, value⟩ := entry
    rw [mem_entries_iff, mem_entries_iff, same]
  have perm := (List.perm_ext_iff_of_nodup (distinct first) (distinct second)).mpr members
  have entries : first.entries = second.entries :=
    perm.eq_of_pairwise (fun _ _ _ _ before after => absurd after (String.lt_asymm before))
      first.ascending second.ascending
  obtain ⟨_, _⟩ := first
  obtain ⟨_, _⟩ := second
  cases entries
  rfl

namespace AppMetadata

variable {a b c : AppMetadata}

theorem sameOwner_iff :
    a.sameOwner b = true ↔ a.clientId = b.clientId ∧ a.environment = b.environment := by
  simp [sameOwner]

theorem sameOwner_self (a : AppMetadata) : a.sameOwner a = true :=
  sameOwner_iff.mpr ⟨rfl, rfl⟩

/-- Of two that share the owner of a third, each shares that of the other. -/
theorem sameOwner_trans_left (first : a.sameOwner b = true) (second : a.sameOwner c = true) :
    b.sameOwner c = true := by
  rw [sameOwner_iff] at *
  exact ⟨first.1.symm.trans second.1, first.2.symm.trans second.2⟩

theorem sameOwner_congr (same : b.sameOwner c = true) : a.sameOwner b = a.sameOwner c := by
  obtain ⟨client, environment⟩ := sameOwner_iff.mp same
  simp only [sameOwner, client, environment]

end AppMetadata

/-- A credential that is to be saved, with what is kept of its application. -/
structure Save where
  clientId : String
  credential : Credential
  metadata : Option AppMetadata := none

namespace Save

def key (save : Save) : String :=
  Credential.keyOf save.clientId save.credential.account

def call (save : Save) : Cache.Call :=
  .save save.clientId save.credential save.metadata

/-- The credential as it is kept: with its own refresh token, or with the one that it replaces. -/
def kept (save : Save) (store : Store) : Credential :=
  { save.credential with
    refreshToken := save.credential.refreshToken <|>
      (store.credentials.find? save.key).bind Credential.refreshToken }

end Save

/-- No two are kept under one key, and of one application they bring one entry. -/
structure Save.Compatible (family : List Save) : Prop where
  distinct : (family.map Save.key).Nodup
  agreeing : ∀ save ∈ family, ∀ other ∈ family, ∀ entry ∈ save.metadata, ∀ entry' ∈ other.metadata,
    entry.sameOwner entry' = true → entry = entry'

theorem Save.Compatible.perm {family order : List Save} (compatible : Save.Compatible family)
    (perm : order.Perm family) : Save.Compatible order where
  distinct := (perm.map Save.key).nodup_iff.mpr compatible.distinct
  agreeing own inside other inside' :=
    compatible.agreeing own (perm.subset inside) other (perm.subset inside')

theorem Save.Compatible.of_append {family rest : List Save}
    (compatible : Save.Compatible (family ++ rest)) : Save.Compatible family where
  distinct := by
    have distinct := compatible.distinct
    rw [List.map_append, List.nodup_append] at distinct
    exact distinct.1
  agreeing own inside other inside' :=
    compatible.agreeing own (by simp [inside]) other (by simp [inside'])

namespace Store

def saveAll (store : Store) (family : List Save) : Store :=
  family.foldl (fun store save => store.save save.clientId save.credential save.metadata) store

/-- What a store holds after some credentials were saved to another one. -/
structure Saves (before : Store) (family : List Save) (after : Store) : Prop where
  saved : ∀ save ∈ family, after.credentials.find? save.key = some (save.kept before)
  untouched : ∀ key, (∀ save ∈ family, save.key ≠ key) →
    after.credentials.find? key = before.credentials.find? key
  /-- The entries are those that were saved, and those of other applications. -/
  entries : ∀ entry, entry ∈ after.metadata ↔
    (∃ save ∈ family, save.metadata = some entry) ∨
      entry ∈ before.metadata ∧
        ∀ save ∈ family, ∀ brought ∈ save.metadata, entry.sameOwner brought = false
  single : ∀ save ∈ family, ∀ brought ∈ save.metadata,
    (after.metadata.filter fun entry => entry.sameOwner brought) = [brought]

variable {before after other : Store} {family : List Save} {save : Save}

theorem mem_metadata_save (store : Store) (save : Save) (entry : AppMetadata) :
    entry ∈ (store.save save.clientId save.credential save.metadata).metadata ↔
      save.metadata = some entry ∨
        entry ∈ store.metadata ∧ ∀ brought ∈ save.metadata, entry.sameOwner brought = false := by
  unfold Store.save
  cases save.metadata with
  | none => simp
  | some brought =>
      simp only [withMetadata, List.mem_append, List.mem_filter, List.mem_singleton,
        Option.mem_def, Option.some.injEq, Bool.not_eq_true', forall_eq']
      rw [or_comm, eq_comm]

/-- The entries of an application are those that were there, or the one that was saved. -/
theorem filter_metadata_save (store : Store) (save : Save) (own : AppMetadata) :
    ((store.save save.clientId save.credential save.metadata).metadata.filter
        fun entry => entry.sameOwner own) =
      if save.metadata.any fun brought => brought.sameOwner own then save.metadata.toList
      else store.metadata.filter fun entry => entry.sameOwner own := by
  unfold Store.save
  cases save.metadata with
  | none => rfl
  | some brought =>
      simp only [withMetadata, List.filter_append, List.filter_filter, Option.any_some,
        Option.toList_some]
      split
      next same =>
        have replaced : ∀ entry : AppMetadata,
            (entry.sameOwner own && !entry.sameOwner brought) = false := fun entry => by
          rw [AppMetadata.sameOwner_congr same, Bool.and_not_self]
        simp [replaced, same]
      next different =>
        have kept : ∀ entry : AppMetadata,
            (entry.sameOwner own && !entry.sameOwner brought) = entry.sameOwner own :=
          fun entry => by
            cases belongs : entry.sameOwner own with
            | false => rfl
            | true =>
                rw [Bool.true_and, Bool.not_eq_true', ← Bool.not_eq_true]
                intro same
                exact different (AppMetadata.sameOwner_trans_left same belongs)
        simp [kept, different]

theorem saves_nil (before : Store) : Saves before [] before := by
  constructor <;> simp

/-- One more is kept beside those that were saved. -/
theorem Saves.concat (saves : Saves before family after)
    (compatible : Save.Compatible (family ++ [save])) :
    Saves before (family ++ [save])
      (after.save save.clientId save.credential save.metadata) := by
  have fresh : ∀ earlier ∈ family, earlier.key ≠ save.key := by
    have distinct := compatible.distinct
    rw [List.map_append, List.nodup_append] at distinct
    exact fun earlier inside => distinct.2.2 _ (List.mem_map_of_mem inside) _ (by simp)
  have old : after.get? save.clientId save.credential.account =
      before.credentials.find? save.key := saves.untouched save.key fresh
  have found (key : String) :
      (after.save save.clientId save.credential save.metadata).credentials.find? key =
        if key = save.key then some (save.kept before) else after.credentials.find? key := by
    rw [find?_save, old]
    rfl
  have agrees {own : Save} (inside : own ∈ family) {brought entry : AppMetadata}
      (isBrought : own.metadata = some brought) (last : save.metadata = some entry)
      (same : brought.sameOwner entry = true) : brought = entry :=
    compatible.agreeing own (by simp [inside]) save (by simp) brought isBrought entry last same
  constructor
  case saved =>
    intro own inside
    rw [found]
    rcases List.mem_append.mp inside with earlier | last
    · rw [if_neg (fresh own earlier), saves.saved own earlier]
    · obtain rfl := List.mem_singleton.mp last
      rw [if_pos rfl]
  case untouched =>
    intro key unlike
    rw [found, if_neg (Ne.symm (unlike save (by simp)))]
    exact saves.untouched key fun earlier inside => unlike earlier (by simp [inside])
  case entries =>
    intro entry
    rw [mem_metadata_save, saves.entries]
    constructor
    · rintro (last | ⟨⟨own, inside, isBrought⟩ | ⟨kept, others⟩, unlike⟩)
      · exact .inl ⟨save, by simp, last⟩
      · exact .inl ⟨own, by simp [inside], isBrought⟩
      · refine .inr ⟨kept, fun own inside => ?_⟩
        rcases List.mem_append.mp inside with earlier | last
        · exact others own earlier
        · obtain rfl := List.mem_singleton.mp last
          exact unlike
    · rintro (⟨own, inside, isBrought⟩ | ⟨kept, unlike⟩)
      · rcases List.mem_append.mp inside with earlier | last
        · by_cases again : save.metadata = some entry
          · exact .inl again
          · refine .inr ⟨.inl ⟨own, earlier, isBrought⟩, fun brought last => ?_⟩
            refine Bool.eq_false_iff.mpr fun same => again ?_
            rw [agrees earlier isBrought last same]
            exact last
        · obtain rfl := List.mem_singleton.mp last
          exact .inl isBrought
      · exact .inr ⟨.inr ⟨kept, fun own inside => unlike own (by simp [inside])⟩,
          unlike save (by simp)⟩
  case single =>
    intro own inside brought isBrought
    rw [filter_metadata_save]
    rcases List.mem_append.mp inside with earlier | last
    · split
      next again =>
        cases last : save.metadata with
        | none => simp [last] at again
        | some entry =>
            have same : entry.sameOwner brought = true := by simpa [last] using again
            rw [agrees earlier isBrought last
              (AppMetadata.sameOwner_trans_left same (AppMetadata.sameOwner_self entry))]
            rfl
      next => exact saves.single own earlier brought isBrought
    · obtain rfl := List.mem_singleton.mp last
      have same : own.metadata = some brought := isBrought
      rw [same]
      simp [AppMetadata.sameOwner_self]

theorem saves_saveAll (before : Store) (compatible : Save.Compatible family) :
    Saves before family (before.saveAll family) := by
  induction family using List.reverseRecOn with
  | nil => exact saves_nil before
  | append_singleton family save inductionHypothesis =>
      have saves := (inductionHypothesis compatible.of_append).concat compatible
      simpa only [saveAll, List.foldl_append, List.foldl_cons, List.foldl_nil] using saves

namespace Saves

/-- What was saved does not depend on the order. -/
theorem perm {order : List Save} (saves : Saves before order after) (perm : order.Perm family) :
    Saves before family after where
  saved save inside := saves.saved save (perm.symm.subset inside)
  untouched key unlike := saves.untouched key fun save inside => unlike save (perm.subset inside)
  entries entry := by
    simp only [saves.entries, perm.mem_iff]
  single save inside := saves.single save (perm.symm.subset inside)

theorem credentials_eq (saves : Saves before family after) (same : Saves before family other) :
    after.credentials = other.credentials := by
  refine SortedMap.ext_find? fun key => ?_
  by_cases own : ∃ save ∈ family, save.key = key
  · obtain ⟨save, inside, rfl⟩ := own
    rw [saves.saved save inside, same.saved save inside]
  · have unlike : ∀ save ∈ family, save.key ≠ key := fun save inside same =>
      own ⟨save, inside, same⟩
    rw [saves.untouched key unlike, same.untouched key unlike]

theorem metadata_perm (saves : Saves before family after) (same : Saves before family other)
    (sound : after.IsSound) (sound' : other.IsSound) : after.metadata.Perm other.metadata :=
  (List.perm_ext_iff_of_nodup sound.distinct sound'.distinct).mpr fun entry => by
    rw [saves.entries, same.entries]

end Saves

end Store

end TokenAcquisition
