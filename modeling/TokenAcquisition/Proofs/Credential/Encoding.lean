import TokenAcquisition.Proofs.Credential.File
import TokenAcquisition.Proofs.Json.Records

/-!
A store is read back from its text as it was: its credentials under their keys, and its application
entries in their order.  That takes a store whose entries differ from each other and carry user
ids of 32 bits, as every store does that came from a file or from saving such entries.
-/

namespace TokenAcquisition

open Json (Keeps IsExact encode)

theorem Secret.keeps (secret : Secret) : Keeps Secret.ofJson? (encode secret) secret :=
  ⟨.text secret.expose, Secret.ofJson?_toJson secret⟩

theorem Account.keeps (account : Account) : Keeps Account.ofJson? (encode account) account := by
  have optional := Json.keeps_optional Json.keeps_text Json.encode_text_ne_null
  constructor
  · refine .record ?_
    simp [Json.keeps_text _ |>.exact, (optional _).exact]
  · show ofJson? account.toJson = some account
    rw [ofJson?, toJson, Json.record?_record,
      Record.ofMembers?_of_sublist (by decide) (by decide) (List.Sublist.refl _)]
    simp only [Record.required, Record.optional, Record.withDefault, Record.value?,
      List.lookup_cons, String.reduceBEq, Option.bind_eq_bind, Option.bind_some,
      (Json.keeps_text _).read, (optional _).read]

theorem Credential.keeps (c : Credential) : Keeps Credential.ofJson? (encode c) c := by
  have optionalText := Json.keeps_optional Json.keeps_text Json.encode_text_ne_null
  have optionalSecret := Json.keeps_optional Secret.keeps nofun
  have texts := Json.keeps_list fun (s : String) (_ : s ∈ c.scopes) => Json.keeps_text s
  constructor
  · refine .record ?_
    simp [c.account.keeps.exact, (optionalText _).exact, (optionalSecret _).exact, texts.exact,
      (Json.keeps_word _).exact]
  · show ofJson? c.toJson = some c
    rw [ofJson?, toJson, Json.record?_record,
      Record.ofMembers?_of_sublist (by decide) (by decide) (List.Sublist.refl _)]
    simp only [Record.required, Record.optional, Record.withDefault, Record.value?,
      List.lookup_cons, String.reduceBEq, Option.bind_eq_bind, Option.bind_some,
      c.account.keeps.read, (optionalText _).read, (optionalSecret _).read, texts.read,
      (Json.keeps_word _).read]

/-! ### Application entries -/

namespace AppMetadata

/-- The user id of the entry is one of 32 bits. -/
def Fits (entry : AppMetadata) : Prop :=
  -2147483648 ≤ entry.applicationUid ∧ entry.applicationUid < 2147483648

instance (entry : AppMetadata) : Decidable entry.Fits :=
  inferInstanceAs (Decidable (_ ∧ _))

theorem Fits.keeps {entry : AppMetadata} (fits : entry.Fits) :
    Keeps ofJson? (encode entry) entry := by
  have uid : Keeps (Json.signed? 32) (encode entry.applicationUid) entry.applicationUid :=
    Json.keeps_signed fits.1 fits.2
  obtain ⟨clientId, environment, foci, applicationUid⟩ := entry
  constructor
  · refine .record ?_
    cases foci <;> simp [(Json.keeps_text _).exact, uid.exact]
  · show ofJson? (toJson _) = _
    have unmarked : ["client_id", "environment", "application_uid"].Sublist
        (fields.map Field.name) := by decide
    rw [ofJson?, toJson, Json.record?_record]
    cases foci with
    | none =>
        rw [Record.ofMembers?_of_sublist (by decide) (by decide) (by exact unmarked)]
        simp only [Record.required, Record.optional, Record.withDefault, Record.value?,
          List.cons_append, List.nil_append, List.lookup_cons, List.lookup_nil, String.reduceBEq,
          Option.bind_eq_bind, Option.bind_some, (Json.keeps_text _).read, uid.read]
    | some mark =>
        rw [Record.ofMembers?_of_sublist (by decide) (by decide) (List.Sublist.refl _)]
        simp only [Record.required, Record.optional, Record.withDefault, Record.value?,
          List.cons_append, List.nil_append, List.lookup_cons, String.reduceBEq,
          Option.bind_eq_bind, Option.bind_some, (Json.keeps_text _).read,
          Json.nullable_of_ne (Json.encode_text_ne_null _), Option.map_some, uid.read]

/-- What is read has a user id of 32 bits. -/
theorem fits_of_ofJson? {value : Json} {entry : AppMetadata} (read : ofJson? value = some entry) :
    entry.Fits := by
  simp only [ofJson?, Option.bind_eq_bind, Option.bind_eq_some_iff, Option.some.injEq] at read
  obtain ⟨r, -, _, -, _, -, _, -, uid, isRead, rfl⟩ := read
  obtain ⟨written, -, signed⟩ := Option.bind_eq_some_iff.mp isRead
  have bounds := (Option.filter_eq_some_iff.mp signed).2
  simpa [Fits] using bounds

end AppMetadata

/-! ### Stores -/

namespace Store

/-- The application entries differ from each other, and their user ids are of 32 bits. -/
structure IsSound (s : Store) : Prop where
  distinct : s.metadata.Nodup
  fits : ∀ entry ∈ s.metadata, entry.Fits

variable {s t : Store}

theorem isSound_empty : IsSound {} :=
  ⟨List.nodup_nil, nofun⟩

theorem IsSound.keeps (sound : s.IsSound) : Keeps ofJson? (toJson s) s := by
  have credentials := Json.keeps_map fun entry (_ : entry ∈ s.credentials.entries) =>
    entry.2.keeps
  have metadata := Json.keeps_list fun entry inside => (sound.fits entry inside).keeps
  constructor
  · refine .record ?_
    simp [credentials.exact, metadata.exact]
  · rw [ofJson?, toJson, Json.record?_record,
      Record.ofMembers?_of_sublist (by decide) (by decide) (List.Sublist.refl _)]
    simp only [Record.withDefault, Record.value?, List.lookup_cons, String.reduceBEq,
      Option.bind_eq_bind, Option.bind_some, credentials.read, metadata.read,
      Lists.eraseDups_of_nodup sound.distinct]

theorem isSound_of_ofJson? {value : Json} (read : ofJson? value = some s) : s.IsSound := by
  simp only [ofJson?, Option.bind_eq_bind, Option.bind_eq_some_iff, Option.some.injEq] at read
  obtain ⟨r, -, entries, isRead, credentials, -, rfl⟩ := read
  refine ⟨Lists.nodup_eraseDups entries, fun entry member => ?_⟩
  have inside := List.mem_eraseDups.mp member
  unfold Record.withDefault at isRead
  split at isRead
  next written _ =>
    cases written with
    | array items =>
        obtain ⟨_, -, own⟩ := Lists.mem_of_mapM isRead inside
        exact AppMetadata.fits_of_ofJson? own
    | _ => cases isRead
  next =>
    obtain rfl := Option.some.inj isRead
    cases inside

theorem IsSound.save (sound : s.IsSound) (clientId : String) (c : Credential)
    {metadata : Option AppMetadata} (fits : ∀ entry ∈ metadata, entry.Fits) :
    (s.save clientId c metadata).IsSound := by
  cases metadata with
  | none => exact ⟨sound.distinct, sound.fits⟩
  | some entry =>
      have own : entry.sameOwner entry = true := by simp [AppMetadata.sameOwner]
      constructor
      · refine List.nodup_append.mpr ⟨sound.distinct.filter _, by simp, ?_⟩
        intro other member last new same
        obtain rfl := List.mem_singleton.mp new
        simp [same, own] at member
      · intro other member
        rcases List.mem_append.mp member with kept | new
        · exact sound.fits other (List.mem_filter.mp kept).1
        · obtain rfl := List.mem_singleton.mp new
          exact fits _ rfl

theorem IsSound.invalidate? (sound : s.IsSound) {clientId : String} {account : Account}
    (dropped : s.invalidate? clientId account = some t) : t.IsSound := by
  obtain ⟨_, -, rfl⟩ := invalidate?_eq_some_iff.mp dropped
  exact ⟨sound.distinct, sound.fits⟩

theorem IsSound.remove? (sound : s.IsSound) {clientId : String} {account : Account}
    (removed : s.remove? clientId account = some t) : t.IsSound := by
  obtain ⟨-, rfl⟩ := remove?_eq_some_iff.mp removed
  exact ⟨sound.distinct, sound.fits⟩

end Store

/-- An application entry that is saved has a user id of 32 bits. -/
def Cache.Call.Fits : Cache.Call → Prop
  | .save _ _ metadata => ∀ entry ∈ metadata, entry.Fits
  | _ => True

theorem Store.IsSound.change? {s t : Store} {call : Cache.Call} (sound : s.IsSound)
    (fits : call.Fits) (changed : call.change? s = some t) : t.IsSound := by
  cases call with
  | save clientId c metadata =>
      obtain rfl := Option.some.inj changed
      exact sound.save clientId c fits
  | invalidate => exact sound.invalidate? changed
  | remove => exact sound.remove? changed

namespace CacheFile

variable {store : Store}

/-- A store is read back from its text. -/
theorem parse_print (sound : store.IsSound) : parse (print store) = .ok store := by
  have keeps := sound.keeps
  rw [parse, print, Json.parseText?_renderLines keeps.exact, Option.bind_some, keeps.read]

theorem isSound_of_parse {text : String} (read : parse text = .ok store) : store.IsSound := by
  unfold parse at read
  split at read
  next same =>
    obtain ⟨_, -, own⟩ := Option.bind_eq_some_iff.mp same
    exact Store.isSound_of_ofJson? (Except.ok.inj read ▸ own)
  next => cases read

/-- A file that was written is read as the store that was written to it. -/
theorem load_holding (file : CacheFile) (sound : store.IsSound) :
    (file.holding store).load = .ok (store, file.holding store) := by
  simp only [load, holding, parse_print sound, Except.map]

/-- What was loaded is sound, and either it was read or nothing was there. -/
theorem load_cases {file after : CacheFile} (loads : file.load = .ok (store, after)) :
    store.IsSound ∧ (after = file ∨ after = file.holding {}) := by
  unfold load at loads
  split at loads
  next => cases loads
  next content _ =>
    cases read : parse content with
    | error fault =>
        rw [read] at loads
        cases loads
    | ok found =>
        rw [read] at loads
        obtain ⟨rfl, rfl⟩ := Prod.mk.inj (Except.ok.inj loads)
        exact ⟨isSound_of_parse read, .inl rfl⟩
  next =>
    by_cases writable : file.IsWritable
    · rw [write_of_isWritable writable] at loads
      obtain ⟨rfl, rfl⟩ := Prod.mk.inj (Except.ok.inj loads)
      exact ⟨Store.isSound_empty, .inr rfl⟩
    · obtain ⟨fault, failed⟩ := exists_fault_of_not_isWritable writable {}
      rw [failed] at loads
      cases loads

end CacheFile

end TokenAcquisition
