import Mathlib.Data.List.Forall2
import TokenAcquisition.CommandLine.Invocation
import TokenAcquisition.Proofs.Credential.File

/-!
Caches that differ in the texts of tokens only.  Whatever is done with the two of them, they go on
to differ in no more than that, and what is told of them is the same, but for the tokens that are
found.
-/

namespace TokenAcquisition

/-! ### Related options and lists -/

section Related

variable {α β γ δ : Type} {R : α → β → Prop} {S : γ → δ → Prop}

theorem optionRel_cases {a : Option α} {b : Option β} (related : Option.Rel R a b) :
    (a = none ∧ b = none) ∨ ∃ x y, a = some x ∧ b = some y ∧ R x y := by
  cases related with
  | none => exact .inl ⟨rfl, rfl⟩
  | some related => exact .inr ⟨_, _, rfl, rfl, related⟩

theorem optionRel_bind {a : Option α} {b : Option β} {f : α → Option γ} {g : β → Option δ}
    (related : Option.Rel R a b) (next : ∀ {x y}, R x y → Option.Rel S (f x) (g y)) :
    Option.Rel S (a >>= f) (b >>= g) := by
  cases related with
  | none => exact .none
  | some related => exact next related

theorem forall_of_forall₂ {P : α → Prop} {entries : List α} {others : List β}
    (related : List.Forall₂ R entries others) (holds : ∀ {x y}, R x y → P x) :
    ∀ entry ∈ entries, P entry := by
  induction related with
  | nil => exact List.forall_mem_nil _
  | cons first _ inductionHypothesis =>
      exact List.forall_mem_cons.mpr ⟨holds first, inductionHypothesis⟩

theorem forall₂_getElem? {entries : List α} {others : List β}
    (related : List.Forall₂ R entries others) (n : Nat) :
    Option.Rel R entries[n]? others[n]? := by
  induction related generalizing n with
  | nil => exact .none
  | cons first _ inductionHypothesis =>
      cases n with
      | zero => exact .some first
      | succ n => exact inductionHypothesis n

theorem forall₂_set {entries : List α} {others : List β} {x : α} {y : β}
    (related : List.Forall₂ R entries others) (n : Nat) (new : R x y) :
    List.Forall₂ R (entries.set n x) (others.set n y) := by
  induction related generalizing n with
  | nil => exact .nil
  | cons first rest inductionHypothesis =>
      cases n with
      | zero => exact .cons new rest
      | succ n => exact .cons first (inductionHypothesis n)

theorem forall₂_modify {entries : List α} {others : List β} {f : α → α} {g : β → β}
    (related : List.Forall₂ R entries others) (n : Nat) (new : ∀ {x y}, R x y → R (f x) (g y)) :
    List.Forall₂ R (entries.modify n f) (others.modify n g) := by
  induction related generalizing n with
  | nil => cases n <;> exact .nil
  | cons first rest inductionHypothesis =>
      cases n with
      | zero => exact .cons (new first) rest
      | succ n => exact .cons first (inductionHypothesis n)

end Related

/-! ### Entries of the same keys -/

section Entries

variable {V : Type} {R : V → V → Prop} {entries others : List (String × V)}

/-- Entries of the same keys in the same order, with values that are related. -/
abbrev EntriesAlike (R : V → V → Prop) : List (String × V) → List (String × V) → Prop :=
  List.Forall₂ fun entry other => other.1 = entry.1 ∧ R entry.2 other.2

theorem EntriesAlike.lookup (alike : EntriesAlike R entries others) (key : String) :
    Option.Rel R (entries.lookup key) (others.lookup key) := by
  induction alike with
  | nil => exact .none
  | @cons entry other _ _ same _ inductionHypothesis =>
      obtain ⟨sameKey, related⟩ := same
      rw [List.lookup_cons, List.lookup_cons, sameKey]
      cases key == entry.1 with
      | true => exact .some related
      | false => exact inductionHypothesis

theorem EntriesAlike.insertEntry (alike : EntriesAlike R entries others) (key : String)
    {value otherValue : V} (related : R value otherValue) :
    EntriesAlike R (insertEntry key value entries)
      (TokenAcquisition.insertEntry key otherValue others) := by
  induction alike with
  | nil => exact .cons ⟨rfl, related⟩ .nil
  | @cons entry other _ _ same rest inductionHypothesis =>
      rw [TokenAcquisition.insertEntry, TokenAcquisition.insertEntry, same.1]
      split
      · exact .cons ⟨rfl, related⟩ (.cons same rest)
      split
      · exact .cons ⟨rfl, related⟩ rest
      · exact .cons same inductionHypothesis

/-- What is made alike of related values is the same for the entries with some keys. -/
theorem EntriesAlike.map_filter {α : Type} (alike : EntriesAlike R entries others)
    (chosen : String → Bool) {f : V → α}
    (same : ∀ {value other}, R value other → f other = f value) :
    (others.filter fun entry => chosen entry.1).map (fun entry => f entry.2) =
      (entries.filter fun entry => chosen entry.1).map fun entry => f entry.2 := by
  induction alike with
  | nil => rfl
  | @cons entry other _ _ sameEntry _ inductionHypothesis =>
      rw [List.filter_cons, List.filter_cons, sameEntry.1]
      split
      · rw [List.map_cons, List.map_cons, same sameEntry.2, inductionHypothesis]
      · exact inductionHypothesis

end Entries

/-! ### Credentials and stores -/

/-- Credentials that differ in the texts of their tokens only.  A token that is empty is as good as
none. -/
structure Credential.Alike (c other : Credential) : Prop where
  account : other.account = c.account
  hasAccessToken : other.hasAccessToken = c.hasAccessToken
  hasRefreshToken : other.hasRefreshToken = c.hasRefreshToken
  expiresOn : other.expiresOn = c.expiresOn
  scopes : other.scopes = c.scopes
  tenantId : other.tenantId = c.tenantId

structure Store.Alike (s t : Store) : Prop where
  credentials : EntriesAlike Credential.Alike s.credentials.entries t.credentials.entries
  metadata : t.metadata = s.metadata

inductive Lookup.Alike : Lookup → Lookup → Prop where
  | found {c other : Credential} : c.Alike other → Alike (.found c) (.found other)
  | notFound : Alike .notFound .notFound
  | uiRequired : Alike .uiRequired .uiRequired

namespace Credential

variable {c other : Credential}

theorem Alike.refl (c : Credential) : c.Alike c :=
  ⟨rfl, rfl, rfl, rfl, rfl, rfl⟩

theorem Alike.hasValidAccessToken (alike : c.Alike other) (scopes : List String) (now : UInt64) :
    other.hasValidAccessToken scopes now = c.hasValidAccessToken scopes now := by
  rw [Credential.hasValidAccessToken, Credential.hasValidAccessToken, alike.hasAccessToken,
    alike.expiresOn, covers, covers, alike.scopes]

theorem Alike.withoutTokens (alike : c.Alike other) : c.withoutTokens.Alike other.withoutTokens :=
  ⟨alike.account, rfl, rfl, rfl, alike.scopes, alike.tenantId⟩

/-- A credential without a refresh token takes over one that was kept. -/
theorem alike_taking (c : Credential) {kept otherKept : Option Secret}
    (same : otherKept.any Secret.isFilled = kept.any Secret.isFilled) :
    Alike { c with refreshToken := c.refreshToken <|> kept }
      { c with refreshToken := c.refreshToken <|> otherKept } where
  account := rfl
  hasAccessToken := rfl
  hasRefreshToken := by
    cases own : c.refreshToken with
    | some token => rfl
    | none => exact same
  expiresOn := rfl
  scopes := rfl
  tenantId := rfl

end Credential

namespace Store

variable {s t : Store}

theorem Alike.refl (s : Store) : s.Alike s :=
  ⟨List.forall₂_same.mpr fun entry _ => ⟨rfl, .refl entry.2⟩, rfl⟩

theorem Alike.find? (alike : s.Alike t) (key : String) :
    Option.Rel Credential.Alike (s.credentials.find? key) (t.credentials.find? key) :=
  alike.credentials.lookup key

theorem Alike.lookup (alike : s.Alike t) (clientId : String) (account : Account) :
    (s.lookup clientId account).Alike (t.lookup clientId account) := by
  unfold Store.lookup get?
  rcases optionRel_cases (alike.find? (Credential.keyOf clientId account)) with
    ⟨absent, absentToo⟩ | ⟨c, other, held, heldToo, same⟩
  · rw [absent, absentToo]
    exact .notFound
  · rw [held, heldToo]
    dsimp only
    rw [same.hasRefreshToken, same.hasAccessToken]
    split
    · exact .found same
    · exact .uiRequired

theorem Alike.accounts (alike : s.Alike t) (clientId : String) :
    t.accounts clientId = s.accounts clientId := by
  have listed := alike.credentials.map_filter
    (fun key => ("-" ++ Text.lowerAscii clientId).toList.isSuffixOf key.toList)
    fun same => same.account
  simp only [Store.accounts, listed]

theorem Alike.selectAccount (alike : s.Alike t) (clientId : String) (wanted : Option String) :
    CommandLine.selectAccount t clientId wanted = CommandLine.selectAccount s clientId wanted := by
  simp only [CommandLine.selectAccount, alike.accounts]

theorem Alike.save (alike : s.Alike t) (clientId : String) (c : Credential)
    (metadata : Option AppMetadata) :
    (s.save clientId c metadata).Alike (t.save clientId c metadata) where
  credentials := by
    refine alike.credentials.insertEntry _ (c.alike_taking ?_)
    rcases optionRel_cases (alike.find? (Credential.keyOf clientId c.account)) with
      ⟨absent, absentToo⟩ | ⟨own, other, held, heldToo, same⟩
    · rw [absent, absentToo]
    · rw [held, heldToo]
      exact same.hasRefreshToken
  metadata := by simp only [Store.save, alike.metadata]

theorem Alike.invalidate? (alike : s.Alike t) (clientId : String) (account : Account) :
    Option.Rel Alike (s.invalidate? clientId account) (t.invalidate? clientId account) := by
  unfold Store.invalidate? get?
  rcases optionRel_cases (alike.find? (Credential.keyOf clientId account)) with
    ⟨absent, absentToo⟩ | ⟨c, other, held, heldToo, same⟩
  · rw [absent, absentToo]
    exact .none
  · rw [held, heldToo]
    exact .some ⟨alike.credentials.insertEntry _ same.withoutTokens, alike.metadata⟩

end Store

/-! ### Files -/

/-- Files that are written alike: a write fails for both, with the same fault, or for neither. -/
structure CacheFile.WritesAlike (file other : CacheFile) : Prop where
  hasParent : other.hasParent = file.hasParent
  folderExists : other.folderExists = file.folderExists
  blocked : (other.entry = .unreadable ∨ other.entry = .impossible) ↔
    (file.entry = .unreadable ∨ file.entry = .impossible)

/-- Files that hold the same, or stores that differ in the texts of tokens only. -/
inductive CacheFile.Entry.Alike : CacheFile.Entry → CacheFile.Entry → Prop where
  | same (entry : CacheFile.Entry) : Alike entry entry
  | texts {text other : String} {s t : Store} :
      CacheFile.parse text = .ok s → CacheFile.parse other = .ok t → s.Alike t →
      Alike (.text text) (.text other)

structure CacheFile.Alike (file other : CacheFile) : Prop where
  hasParent : other.hasParent = file.hasParent
  folderExists : other.folderExists = file.folderExists
  entry : file.entry.Alike other.entry

structure Cache.Alike (cache other : Cache) : Prop where
  store : cache.store.Alike other.store
  file : cache.file.WritesAlike other.file

namespace CacheFile

variable {file other : CacheFile} {s t : Store}

theorem WritesAlike.holding (alike : file.WritesAlike other) (s t : Store) :
    (file.holding s).WritesAlike (other.holding t) :=
  ⟨alike.hasParent, alike.folderExists, by simp [CacheFile.holding]⟩

theorem WritesAlike.write (alike : file.WritesAlike other) (s t : Store) :
    (∃ fault, file.write s = .error fault ∧ other.write t = .error fault) ∨
      file.write s = .ok (file.holding s) ∧ other.write t = .ok (other.holding t) := by
  simp only [CacheFile.write, alike.hasParent, alike.folderExists, alike.blocked]
  split
  next => exact .inl ⟨_, rfl, rfl⟩
  split
  next => exact .inl ⟨_, rfl, rfl⟩
  split
  next => exact .inl ⟨_, rfl, rfl⟩
  next => exact .inr ⟨rfl, by simp only [CacheFile.holding, alike.hasParent, alike.folderExists]⟩

theorem Alike.writesAlike (alike : file.Alike other) : file.WritesAlike other where
  hasParent := alike.hasParent
  folderExists := alike.folderExists
  blocked := by
    have entry := alike.entry
    revert entry
    generalize file.entry = own
    generalize other.entry = another
    rintro (_ | _) <;> simp

end CacheFile

namespace Cache

variable {cache other : Cache} {s t : Store} {file otherFile : CacheFile}

/-- A store that takes the place of another one is told of alike. -/
theorem Alike.replace (alike : cache.Alike other) (same : s.Alike t) :
    (other.replace t).1 = (cache.replace s).1 ∧
      (cache.replace s).2.Alike (other.replace t).2 := by
  unfold Cache.replace
  rcases alike.file.write s t with ⟨fault, failed, failedToo⟩ | ⟨written, writtenToo⟩
  · rw [failed, failedToo]
    exact ⟨rfl, same, alike.file⟩
  · rw [written, writtenToo]
    exact ⟨rfl, same, alike.file.holding s t⟩

theorem load_of_text {text : String} (own : file.entry = .text text) :
    Cache.load file =
      (CacheFile.parse text).mapError CacheFile.Fault.failure >>= fun store =>
        .ok { store, file } := by
  rw [load, CacheFile.load, own]
  dsimp only
  cases CacheFile.parse text <;> rfl

/-- Files that are alike are loaded alike, or refused for the same fault. -/
theorem load_cases (alike : file.Alike otherFile) :
    (∃ failure, Cache.load file = .error failure ∧ Cache.load otherFile = .error failure) ∨
      ∃ cache other, Cache.load file = .ok cache ∧ Cache.load otherFile = .ok other ∧
        cache.Alike other := by
  have writes := alike.writesAlike
  -- Only stores that were read can differ; what is missing is made empty for both.
  have entry := alike.entry
  generalize own : file.entry = kept at entry
  generalize another : otherFile.entry = otherKept at entry
  cases entry with
  | texts read readToo same =>
      rw [load_of_text own, load_of_text another, read, readToo]
      exact .inr ⟨_, _, rfl, rfl, same, writes⟩
  | same =>
      cases kept with
      | unreadable =>
          rw [load, load, CacheFile.load, CacheFile.load, own, another]
          exact .inl ⟨_, rfl, rfl⟩
      | text text =>
          rw [load_of_text own, load_of_text another]
          cases CacheFile.parse text with
          | error fault => exact .inl ⟨_, rfl, rfl⟩
          | ok store => exact .inr ⟨_, _, rfl, rfl, .refl store, writes⟩
      | absent | impossible =>
          rw [load, load, CacheFile.load, CacheFile.load, own, another]
          dsimp only
          rcases writes.write {} {} with ⟨fault, failed, failedToo⟩ | ⟨written, writtenToo⟩
          · rw [failed, failedToo]
            exact .inl ⟨_, rfl, rfl⟩
          · rw [written, writtenToo]
            exact .inr ⟨_, _, rfl, rfl, .refl {}, writes.holding {} {}⟩

end Cache

end TokenAcquisition
