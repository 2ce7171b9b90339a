import TokenAcquisition.Credential.Store

/-!
What each operation on a store makes of the credential of an account.  Two accounts can share a
key, for keys do not tell capital letters from small ones.
-/

namespace TokenAcquisition

namespace SortedMap

variable {V : Type}

theorem lookup_cons (key : String) (entry : String × V) (rest : List (String × V)) :
    (entry :: rest).lookup key = if key = entry.1 then some entry.2 else rest.lookup key := by
  by_cases here : key = entry.1
  · rw [if_pos here, List.lookup_cons, here, beq_self_eq_true]
  · rw [if_neg here, List.lookup_cons, beq_false_of_ne here]

theorem lookup_insertEntry (key other : String) (value : V) (entries : List (String × V)) :
    (insertEntry key value entries).lookup other =
      if other = key then some value else entries.lookup other := by
  induction entries with
  | nil => simp [insertEntry, lookup_cons]
  | cons entry rest inductionHypothesis =>
      unfold insertEntry
      split
      · rw [lookup_cons]
      · split
        next same =>
          subst same
          rw [lookup_cons, lookup_cons]
          split <;> rfl
        next different =>
          rw [lookup_cons, lookup_cons, inductionHypothesis]
          by_cases here : other = entry.1
          · subst here
            simp [Ne.symm different]
          · simp [here]

theorem mem_entries_iff (m : SortedMap V) {key : String} {value : V} :
    (key, value) ∈ m.entries ↔ m.find? key = some value := by
  obtain ⟨entries, ascending⟩ := m
  simp only [find?]
  induction entries with
  | nil => simp
  | cons entry rest inductionHypothesis =>
      have ⟨above, inOrder⟩ := List.pairwise_cons.mp ascending
      rw [lookup_cons, List.mem_cons, inductionHypothesis inOrder]
      split
      next same =>
        subst same
        have absent : rest.lookup entry.1 ≠ some value := fun found =>
          String.lt_irrefl entry.1
            (above (entry.1, value) ((inductionHypothesis inOrder).mpr found))
        simp only [absent, or_false, Option.some.injEq]
        exact ⟨fun same => (congrArg Prod.snd same).symm, fun same => by rw [← same]⟩
      next different =>
        have apart : (key, value) ≠ entry := fun same => different (congrArg Prod.fst same)
        simp only [apart, false_or]

theorem find?_insert (m : SortedMap V) (key other : String) (value : V) :
    (m.insert key value).find? other = if other = key then some value else m.find? other :=
  lookup_insertEntry key other value m.entries

theorem find?_erase (m : SortedMap V) (key other : String) :
    (m.erase key).find? other = if other = key then none else m.find? other := by
  obtain ⟨entries, ascending⟩ := m
  simp only [find?, erase]
  clear ascending
  induction entries with
  | nil => simp
  | cons entry rest inductionHypothesis =>
      by_cases dropped : entry.1 = key
      · subst dropped
        rw [List.filter_cons_of_neg (by simp), inductionHypothesis, lookup_cons]
        split <;> rfl
      · rw [List.filter_cons_of_pos (by simp [dropped]), lookup_cons, lookup_cons,
          inductionHypothesis]
        by_cases here : other = entry.1
        · subst here
          simp [dropped]
        · simp [here]

theorem insertEntry_insertEntry (key : String) (value : V) (entries : List (String × V)) :
    insertEntry key value (insertEntry key value entries) = insertEntry key value entries := by
  have irrefl : ¬ key < key := String.lt_irrefl key
  induction entries with
  | nil => simp only [insertEntry, if_neg irrefl, if_pos]
  | cons entry rest inductionHypothesis =>
      rw [insertEntry]
      split
      next => simp only [insertEntry, if_neg irrefl, if_pos]
      next above =>
        split
        next => simp only [insertEntry, if_neg irrefl, if_pos]
        next different =>
          rw [insertEntry, if_neg above, if_neg different, inductionHypothesis]

theorem insert_insert (m : SortedMap V) (key : String) (value : V) :
    (m.insert key value).insert key value = m.insert key value := by
  simp only [insert, insertEntry_insertEntry]

end SortedMap

namespace Store

variable {s t : Store} {clientId clientId' : String} {account account' : Account} {c : Credential}

theorem invalidate?_eq_some_iff :
    s.invalidate? clientId account = some t ↔
      ∃ held, s.get? clientId account = some held ∧
        { s with
          credentials :=
            s.credentials.insert (Credential.keyOf clientId account) held.withoutTokens } = t := by
  simp only [invalidate?, Option.map_eq_some_iff]

theorem remove?_eq_some_iff :
    s.remove? clientId account = some t ↔
      (s.get? clientId account).isSome ∧
        { s with credentials := s.credentials.erase (Credential.keyOf clientId account) } = t := by
  simp only [remove?, Option.map_eq_some_iff, Option.isSome_iff_exists, exists_and_right]

/-- Tokens are dropped of the one credential, and nothing else changes. -/
theorem find?_of_invalidate? (dropped : s.invalidate? clientId account = some t)
    (key : String) :
    t.credentials.find? key =
      if key = Credential.keyOf clientId account then
        (s.get? clientId account).map Credential.withoutTokens
      else s.credentials.find? key := by
  obtain ⟨held, found, rfl⟩ := invalidate?_eq_some_iff.mp dropped
  rw [SortedMap.find?_insert, found]
  rfl

theorem get?_of_lookup {cached : Credential}
    (found : s.lookup clientId account = .found cached) :
    s.get? clientId account = some cached := by
  unfold lookup at found
  split at found
  next => cases found
  next held same =>
    split at found
    next => rw [same, Lookup.found.inj found]
    next => cases found

theorem lookup_of_missing (missing : s.get? clientId account = none) :
    s.lookup clientId account = .notFound := by
  rw [lookup, missing]

theorem lookup_of_held (held : s.get? clientId account = some c)
    (tokens : c.hasRefreshToken = true ∨ c.hasAccessToken = true) :
    s.lookup clientId account = .found c := by
  rw [lookup, held]
  exact if_pos (Bool.or_eq_true_iff.mpr tokens)

theorem lookup_of_tokenless (held : s.get? clientId account = some c)
    (accessless : c.hasAccessToken = false) (refreshless : c.hasRefreshToken = false) :
    s.lookup clientId account = .uiRequired := by
  rw [lookup, held]
  exact if_neg (by simp [accessless, refreshless])

theorem lookup_of_invalidate? (dropped : s.invalidate? clientId account = some t) :
    t.lookup clientId account = .uiRequired := by
  obtain ⟨held, found, -⟩ := invalidate?_eq_some_iff.mp dropped
  have tokenless : t.get? clientId account = some held.withoutTokens := by
    rw [get?, find?_of_invalidate? dropped, if_pos rfl, found]
    rfl
  simp [lookup, tokenless, Credential.withoutTokens, Credential.hasRefreshToken,
    Credential.hasAccessToken]

theorem find?_of_remove? (removed : s.remove? clientId account = some t) (key : String) :
    t.credentials.find? key =
      if key = Credential.keyOf clientId account then none else s.credentials.find? key := by
  obtain ⟨-, rfl⟩ := remove?_eq_some_iff.mp removed
  exact SortedMap.find?_erase ..

/-- A credential is kept with its refresh token, or with the one it replaces. -/
theorem find?_save (s : Store) (clientId : String) (c : Credential)
    (metadata : Option AppMetadata) (key : String) :
    (s.save clientId c metadata).credentials.find? key =
      if key = Credential.keyOf clientId c.account then
        some { c with
          refreshToken :=
            c.refreshToken <|> (s.get? clientId c.account).bind Credential.refreshToken }
      else s.credentials.find? key :=
  SortedMap.find?_insert ..

theorem get?_save (s : Store) (clientId : String) (c : Credential)
    (metadata : Option AppMetadata) :
    (s.save clientId c metadata).get? clientId c.account =
      some { c with
        refreshToken :=
          c.refreshToken <|> (s.get? clientId c.account).bind Credential.refreshToken } := by
  rw [get?, find?_save, if_pos rfl]

theorem withMetadata_withMetadata (entries : List AppMetadata) (entry : AppMetadata) :
    withMetadata (withMetadata entries entry) entry = withMetadata entries entry := by
  have own : entry.sameOwner entry = true := by simp [AppMetadata.sameOwner]
  simp [withMetadata, List.filter_append, own]

/-- To save a credential once more changes nothing. -/
theorem save_save (s : Store) (clientId : String) (c : Credential)
    (metadata : Option AppMetadata) :
    (s.save clientId c metadata).save clientId c metadata = s.save clientId c metadata := by
  have kept : (c.refreshToken <|>
      ((s.save clientId c metadata).credentials.find?
        (Credential.keyOf clientId c.account)).bind Credential.refreshToken) =
      (c.refreshToken <|> (s.get? clientId c.account).bind Credential.refreshToken) := by
    rw [find?_save, if_pos rfl]
    cases c.refreshToken <;> rfl
  unfold save at kept ⊢
  simp only [get?] at kept ⊢
  rw [kept, SortedMap.insert_insert]
  cases metadata with
  | none => rfl
  | some entry => simp only [withMetadata_withMetadata]

/-- Nor does it to drop tokens once more. -/
theorem invalidate?_of_invalidate? (dropped : s.invalidate? clientId account = some t) :
    t.invalidate? clientId account = some t := by
  have held := find?_of_invalidate? dropped (Credential.keyOf clientId account)
  obtain ⟨own, found, rfl⟩ := invalidate?_eq_some_iff.mp dropped
  rw [if_pos rfl, found] at held
  refine invalidate?_eq_some_iff.mpr ⟨own.withoutTokens, held, ?_⟩
  rw [show own.withoutTokens.withoutTokens = own.withoutTokens from rfl]
  simp only [SortedMap.insert_insert]

/-- What was removed cannot be removed once more. -/
theorem remove?_of_remove? (removed : s.remove? clientId account = some t) :
    t.remove? clientId account = none := by
  have gone := find?_of_remove? removed (Credential.keyOf clientId account)
  rw [if_pos rfl] at gone
  rw [remove?, get?, gone]
  rfl

/-- A credential that brings a refresh token is found as it was saved. -/
theorem lookup_save {token : Secret} (s : Store) (clientId : String)
    (metadata : Option AppMetadata) (own : c.refreshToken = some token)
    (filled : token.isFilled = true) :
    (s.save clientId c metadata).lookup clientId c.account = .found c := by
  have kept : (s.save clientId c metadata).get? clientId c.account = some c := by
    rw [get?_save, own]
    cases c
    simp_all
  simp [lookup, kept, Credential.hasRefreshToken, own, filled]

end Store

end TokenAcquisition
