import Mathlib.Data.List.Induction
import TokenAcquisition.CommandLine.Invocation
import TokenAcquisition.Proofs.Program.Attribution
import TokenAcquisition.Proofs.Program.Rejection

/-!
Whose accounts are listed.  A credential is listed for every client id that its key ends in after a
hyphen.  It is found for the client id that it was saved under, so that all accounts of a client
are listed.  But an id may itself end in another one with a hyphen before it, and then the accounts
of the longer are listed for the shorter too, where nothing is found for them.
-/

namespace TokenAcquisition

theorem Text.precedes_iff {a b : String} : precedes a b = true ↔ a ≤ b := by
  rw [precedes, Bool.not_eq_true', decide_eq_false_iff_not, String.not_lt]

namespace Cache

/-! ### Who saved a credential -/

/-- The client id and the account for which a call saves a credential under a key. -/
def Call.saver? (key : String) : Call → Option (String × Account)
  | .save clientId c _ =>
      if Credential.keyOf clientId c.account = key then some (clientId, c.account) else none
  | _ => none

/-- Those of the last call that saves one. -/
def lastSaver? (calls : List Call) (key : String) : Option (String × Account) :=
  calls.reverse.findSome? (Call.saver? key)

/-- The store that calls make of an empty one. -/
def madeOf (calls : List Call) : Store :=
  calls.foldl Call.made {}

theorem madeOf_append (calls : List Call) (call : Call) :
    madeOf (calls ++ [call]) = call.made (madeOf calls) := by
  rw [madeOf, List.foldl_append]
  rfl

variable {calls : List Call} {call : Call} {key clientId : String} {c : Credential} {s : Store}

theorem lastSaver?_append (calls : List Call) (call : Call) (key : String) :
    lastSaver? (calls ++ [call]) key = (call.saver? key <|> lastSaver? calls key) := by
  rw [lastSaver?, List.reverse_append, List.reverse_singleton, List.singleton_append,
    List.findSome?_cons]
  cases call.saver? key <;> rfl

theorem Call.saver?_of_other (other : key ≠ call.owner.key) : call.saver? key = none := by
  cases call with
  | save clientId c metadata => exact if_neg (Ne.symm other)
  | invalidate | remove => rfl

/-- A call leaves an account where it is, or puts it there. -/
theorem Call.account_of_made (found : (call.made s).credentials.find? key = some c) :
    (∃ clientId, call.saver? key = some (clientId, c.account) ∧
      Credential.keyOf clientId c.account = key) ∨
    (call.saver? key = none ∧
      ∃ held, s.credentials.find? key = some held ∧ held.account = c.account) := by
  by_cases other : key ≠ call.owner.key
  · rw [call.find?_made other] at found
    exact .inr ⟨Call.saver?_of_other other, c, found, rfl⟩
  · obtain rfl := not_not.mp other
    rw [made] at found
    cases changed : call.change? s with
    | none =>
        rw [changed] at found
        cases call with
        | save => cases changed
        | invalidate | remove => exact .inr ⟨rfl, c, found, rfl⟩
    | some t =>
        rw [changed, Option.getD_some] at found
        cases call with
        | save clientId new metadata =>
            obtain rfl := Option.some.inj changed
            have own : (save clientId new metadata).owner.key =
                Credential.keyOf clientId new.account := rfl
            rw [Store.find?_save, if_pos own] at found
            obtain rfl := Option.some.inj found
            exact .inl ⟨clientId, if_pos rfl, rfl⟩
        | invalidate clientId account =>
            have own : (invalidate clientId account).owner.key =
                Credential.keyOf clientId account := rfl
            rw [Store.find?_of_invalidate? changed, if_pos own] at found
            obtain ⟨held, isHeld, rfl⟩ := Option.map_eq_some_iff.mp found
            exact .inr ⟨rfl, held, isHeld, rfl⟩
        | remove clientId account =>
            have own : (remove clientId account).owner.key =
                Credential.keyOf clientId account := rfl
            rw [Store.find?_of_remove? changed, if_pos own] at found
            cases found

/-- A credential that is held is that of the account for which it was saved last, under the key of
both. -/
theorem lastSaver?_of_held
    (held : (madeOf calls).credentials.find? key = some c) :
    ∃ clientId, lastSaver? calls key = some (clientId, c.account) ∧
      Credential.keyOf clientId c.account = key := by
  induction calls using List.reverseRecOn generalizing c with
  | nil => cases held
  | append_singleton calls call inductionHypothesis =>
      rw [madeOf_append] at held
      rw [lastSaver?_append]
      rcases Call.account_of_made held with ⟨clientId, saves, own⟩ | ⟨saveless, before, found, same⟩
      · exact ⟨clientId, by rw [saves]; rfl, own⟩
      · obtain ⟨clientId, saved, own⟩ := inductionHypothesis found
        rw [same] at saved own
        exact ⟨clientId, by rw [saveless, saved]; rfl, own⟩

/-- What is kept under a key was saved last under a client id, up to case. -/
def savedFor (calls : List Call) (clientId key : String) : Bool :=
  (lastSaver? calls key).any fun saver => Text.sameIgnoringCase saver.1 clientId

end Cache

/-! ### What is listed -/

namespace Store

/-- The client id stands at the end of a key, after a hyphen. -/
def EndsIn (clientId key : String) : Prop :=
  ∃ rest : List Char, key.toList = rest ++ '-' :: (Text.lowerAscii clientId).toList

/-- What is kept under a key is listed for a client id. -/
def isListed (clientId key : String) : Bool :=
  ("-" ++ Text.lowerAscii clientId).toList.isSuffixOf key.toList

theorem isListed_iff {clientId key : String} :
    isListed clientId key = true ↔ EndsIn clientId key := by
  have ending : ("-" ++ Text.lowerAscii clientId).toList =
      '-' :: (Text.lowerAscii clientId).toList := String.toList_append
  rw [isListed, List.isSuffixOf_iff_suffix, ending]
  exact ⟨fun ⟨rest, whole⟩ => ⟨rest, whole.symm⟩, fun ⟨rest, whole⟩ => ⟨rest, whole.symm⟩⟩

theorem endsIn_keyOf {clientId other : String} (account : Account)
    (same : Text.sameIgnoringCase other clientId = true) :
    EndsIn clientId (Credential.keyOf other account) := by
  have whole := Owner.toList_key (.of other account)
  rw [Text.sameIgnoringCase_eq_true_iff] at same
  refine ⟨(Text.lowerAscii account.homeAccountId).toList ++
    '-' :: (Text.lowerAscii account.environment).toList, ?_⟩
  rw [← same]
  refine whole.trans ?_
  simp only [Owner.of, List.append_assoc, List.cons_append]

/-- With equally many hyphens, a client id is at the end of a key only if it is that of the key. -/
theorem sameIgnoringCase_of_endsIn {clientId other : String} {account : Account}
    (ends : EndsIn clientId (Credential.keyOf other account))
    (alike : other.toList.count '-' = clientId.toList.count '-') :
    Text.sameIgnoringCase other clientId = true := by
  obtain ⟨rest, whole⟩ := ends
  have joined := (Owner.toList_key (.of other account)).symm.trans whole
  have turned := congrArg List.reverse joined
  simp only [Owner.of, List.reverse_append, List.reverse_cons, List.append_assoc,
    List.singleton_append] at turned
  have counts : (Text.lowerAscii other).toList.reverse.count '-' =
      (Text.lowerAscii clientId).toList.reverse.count '-' := by
    rw [List.count_reverse, List.count_reverse, Owner.count_lowerAscii, Owner.count_lowerAscii,
      alike]
  have same := (Owner.eq_of_append_cons turned counts).1
  rw [Text.sameIgnoringCase_eq_true_iff]
  exact String.toList_inj.mp (List.reverse_inj.mp same)

/-- The accounts of the entries that are chosen by their keys. -/
def accountsBy (s : Store) (chosen : String → Bool) : List Account :=
  (s.credentials.entries.filter fun entry => chosen entry.1).map fun entry => entry.2.account

theorem accountsBy_eq_map {s : Store} {chosen others : String → Bool}
    (fewer : ∀ key c, s.credentials.find? key = some c → chosen key = true →
      others key = true) :
    s.accountsBy chosen =
      ((s.credentials.entries.filter fun entry => others entry.1).filter
        fun entry => chosen entry.1).map fun entry => entry.2.account := by
  rw [accountsBy, List.filter_filter]
  congr 1
  refine List.filter_congr fun entry member => ?_
  have held := (s.credentials.mem_entries_iff).mp member
  cases isChosen : chosen entry.1 with
  | true => rw [fewer entry.1 entry.2 held isChosen, Bool.and_self]
  | false => rw [Bool.false_and]

theorem accounts_perm (s : Store) (clientId : String) :
    (s.accounts clientId).Perm (s.accountsBy (isListed clientId)) :=
  List.mergeSort_perm _ _

theorem accounts_ordered (s : Store) (clientId : String) :
    (s.accounts clientId).Pairwise fun a b => a.homeAccountId ≤ b.homeAccountId := by
  have transitive (a b c : Account) (first : Text.precedes a.homeAccountId b.homeAccountId = true)
      (second : Text.precedes b.homeAccountId c.homeAccountId = true) :
      Text.precedes a.homeAccountId c.homeAccountId = true := by
    rw [Text.precedes_iff] at first second ⊢
    exact String.le_trans first second
  have total (a b : Account) : (Text.precedes a.homeAccountId b.homeAccountId ||
      Text.precedes b.homeAccountId a.homeAccountId) = true := by
    rw [Bool.or_eq_true, Text.precedes_iff, Text.precedes_iff]
    exact String.le_total ..
  exact (List.pairwise_mergeSort transitive total _).imp Text.precedes_iff.mp

end Store

namespace Cache

variable {calls : List Call} {clientId : String} {s : Store}

/-- Whatever is held and has the client id at the end of its key was saved for the client. -/
def Unconfused (calls : List Call) (clientId : String) (s : Store) : Prop :=
  ∀ key c, s.credentials.find? key = some c → Store.EndsIn clientId key →
    savedFor calls clientId key = true

theorem exists_save_of_lastSaver? {key other : String} {account : Account}
    (saved : lastSaver? calls key = some (other, account)) :
    ∃ call ∈ calls, ∃ c metadata, call = .save other c metadata := by
  obtain ⟨call, member, saves⟩ := List.exists_of_findSome?_eq_some saved
  refine ⟨call, List.mem_reverse.mp member, ?_⟩
  cases call with
  | save clientId c metadata =>
      rw [Call.saver?] at saves
      split at saves
      next =>
        cases saves
        exact ⟨c, metadata, rfl⟩
      next => cases saves
  | invalidate | remove => cases saves

/-- Nobody is confused when the client ids of all who save have equally many hyphens. -/
theorem unconfused_of_alike
    (alike : ∀ call ∈ calls, ∀ other c metadata, call = .save other c metadata →
      other.toList.count '-' = clientId.toList.count '-') :
    Unconfused calls clientId (madeOf calls) := by
  intro key c held ends
  obtain ⟨other, saved, rfl⟩ := lastSaver?_of_held held
  obtain ⟨call, member, new, metadata, same⟩ := exists_save_of_lastSaver? saved
  have counts := alike call member other new metadata same
  rw [savedFor, saved]
  exact Store.sameIgnoringCase_of_endsIn ends counts

/-- What was saved for a client is listed for it. -/
theorem isListed_of_savedFor {key : String} {c : Credential}
    (held : (madeOf calls).credentials.find? key = some c)
    (own : savedFor calls clientId key = true) : Store.isListed clientId key = true := by
  obtain ⟨other, saved, rfl⟩ := lastSaver?_of_held held
  rw [savedFor, saved] at own
  exact Store.isListed_iff.mpr (Store.endsIn_keyOf c.account own)

theorem accountsBy_savedFor_subperm (calls : List Call) (clientId : String) :
    ((madeOf calls).accountsBy (savedFor calls clientId)).Subperm
      ((madeOf calls).accounts clientId) := by
  rw [Store.accountsBy_eq_map fun key c held => isListed_of_savedFor held]
  have among := (List.filter_sublist (p := fun entry : String × Credential =>
    savedFor calls clientId entry.1) (l := (madeOf calls).credentials.entries.filter
      fun entry => Store.isListed clientId entry.1)).map fun entry => entry.2.account
  exact among.subperm.trans (Store.accounts_perm _ clientId).symm.subperm

/-- Nothing else is listed just when nobody is confused. -/
theorem accounts_perm_iff :
    ((madeOf calls).accounts clientId).Perm
        ((madeOf calls).accountsBy (savedFor calls clientId)) ↔
      Unconfused calls clientId (madeOf calls) := by
  have listed := Store.accounts_perm (madeOf calls) clientId
  rw [Store.accountsBy_eq_map fun key c held => isListed_of_savedFor held]
  constructor
  · intro same key c held ends
    have lengths := (listed.symm.trans same).length_eq
    rw [Store.accountsBy, List.length_map, List.length_map] at lengths
    have member : (key, c) ∈ (madeOf calls).credentials.entries.filter
        fun entry => Store.isListed clientId entry.1 :=
      List.mem_filter.mpr
        ⟨(SortedMap.mem_entries_iff _).mpr held, Store.isListed_iff.mpr ends⟩
    exact List.length_filter_eq_length_iff.mp lengths.symm (key, c) member
  · intro unconfused
    have whole : ((madeOf calls).credentials.entries.filter
        fun entry => Store.isListed clientId entry.1).filter
          (fun entry => savedFor calls clientId entry.1) =
        (madeOf calls).credentials.entries.filter
          fun entry => Store.isListed clientId entry.1 := by
      refine List.filter_eq_self.mpr fun entry member => ?_
      obtain ⟨inside, isListed⟩ := List.mem_filter.mp member
      exact unconfused entry.1 entry.2 ((SortedMap.mem_entries_iff _).mp inside)
        (Store.isListed_iff.mp isListed)
    rw [whole]
    exact listed

/-- What was saved for a client is found for its account. -/
theorem get?_of_savedFor {account : Account}
    (member : account ∈ (madeOf calls).accountsBy (savedFor calls clientId)) :
    ∃ c, (madeOf calls).get? clientId account = some c ∧ c.account = account := by
  obtain ⟨⟨key, c⟩, chosen, rfl⟩ := List.mem_map.mp member
  obtain ⟨inside, own⟩ := List.mem_filter.mp chosen
  have held := (SortedMap.mem_entries_iff _).mp inside
  obtain ⟨other, saved, rfl⟩ := lastSaver?_of_held held
  rw [savedFor, saved] at own
  have same : Credential.keyOf clientId c.account = Credential.keyOf other c.account := by
    rw [Option.any_some, Text.sameIgnoringCase_eq_true_iff] at own
    simp only [Credential.keyOf, Credential.key, Text.lowerAscii_append, own]
  exact ⟨c, by rw [Store.get?, same, held], rfl⟩

theorem get?_of_listed (unconfused : Unconfused calls clientId (madeOf calls))
    {account : Account} (listed : account ∈ (madeOf calls).accounts clientId) :
    ∃ c, (madeOf calls).get? clientId account = some c ∧ c.account = account :=
  get?_of_savedFor ((accounts_perm_iff.mpr unconfused).mem_iff.mp listed)

end Cache

/-! ### What is told of accounts that are not found -/

namespace Cache

variable {cache after : Cache} {clientId : String} {account : Account} {c : Credential}
  {metadata : Option AppMetadata} {failure : Failure}

theorem isClient_of_save (failed : cache.save clientId c metadata = (.error failure, after)) :
    failure.IsClient :=
  failsClient_replace cache _ failure (congrArg Prod.fst failed)

theorem isClient_of_invalidate
    (failed : cache.invalidate clientId account = (.error failure, after)) : failure.IsClient := by
  rw [invalidate] at failed
  cases dropped : cache.store.invalidate? clientId account with
  | none =>
      rw [dropped] at failed
      cases failed
  | some store =>
      rw [dropped] at failed
      exact failsClient_replace cache store failure (congrArg Prod.fst failed)

end Cache

namespace Operation

variable {op : Operation} {p : SilentParameters} {bound : Option String} {around : Surroundings}
  {cached : Credential} {token : Secret} {id : String} {failure : Failure}

/-- The caller is told that there is no account. -/
def Denies (failure : Failure) : Prop :=
  ∃ subcode message, failure.cause = .uiRequired "no_account_found" subcode message

/-- It is the network that says so. -/
def DeniedBy (around : Surroundings) (failure : Failure) : Prop :=
  ∃ said delay, around.answer = .fail said delay ∧ said.cause = failure.cause

theorem not_denies_of_isClient {own : Failure} (isClient : own.IsClient)
    (told : (Program.Ending.value (.error (.typed own))).outcome? (some id) =
      some (.error failure)) : ¬ Denies failure := by
  obtain ⟨code, text, rfl⟩ := isClient
  cases told
  rintro ⟨subcode, message, same⟩
  cases same

/-- Nothing that comes of a refresh token makes an account unknown, but for the network. -/
theorem Exchanges.deniedBy {ending : Program.Ending (Except Breakdown Acquisition)} {cache : Cache}
    (exchanges : Exchanges op p bound cached token around ending cache)
    (told : ending.outcome? (some id) = some (.error failure)) (denies : Denies failure) :
    DeniedBy around failure := by
  cases exchanges with
  | granted => cases told
  | unsaved answered read whose saves =>
      exact absurd denies (not_denies_of_isClient (Cache.isClient_of_save saves) told)
  | unattributed answered read whose =>
      have own := op.failsClient_renewed p token bound cached _ _ whose
      exact absurd denies (not_denies_of_isClient own told)
  | @rejected response delay e cache answered read rejects drops =>
      rw [outcome?_of_rejected rejects] at told
      obtain ⟨subcode, message, same⟩ := denies
      cases told
      have code : e.error = "no_account_found" := congrArg Failure.Cause.code same
      exact absurd (code ▸ rejects.error) (by decide)
  | undropped answered read rejects drops =>
      exact absurd denies (not_denies_of_isClient (Cache.isClient_of_invalidate drops) told)
  | refused answered read accepts =>
      rw [outcome?_of_refused accepts] at told
      obtain ⟨subcode, message, same⟩ := denies
      cases told
      cases same
  | unreadable answered read =>
      have own := HttpResponse.failsClient_tokenResult _ _ read
      exact absurd denies (not_denies_of_isClient own told)
  | failed answered =>
      cases told
      exact ⟨_, _, answered, rfl⟩
  | panicked =>
      cases told
      obtain ⟨subcode, message, same⟩ := denies
      cases same

/-- Of an account with a credential nobody is told that there is none, but by the network. -/
theorem deniedBy_of_told (held : around.cache.store.get? p.clientId p.account = some cached)
    (told : (op.alone p bound around).1.outcome? (some id) = some (.error failure))
    (denies : Denies failure) : DeniedBy around failure := by
  obtain ⟨result, fares⟩ := exists_fares op p bound around
  rw [fares.alone_eq] at told
  cases fares with
  | unknown missing => cases held.symm.trans missing
  | tokenless | unredeemable =>
      cases told
      obtain ⟨subcode, message, same⟩ := denies
      have code := congrArg Failure.Cause.code same
      exact absurd code (show "no_tokens_found" ≠ "no_account_found" by decide)
  | served => cases told
  | uncertain =>
      cases told
      obtain ⟨subcode, message, same⟩ := denies
      cases same
  | redeemed must exchanges => exact exchanges.deniedBy told denies

end Operation

namespace CommandLine

theorem mem_of_selectAccount {s : Store} {clientId : String} {wanted : Option String}
    {account : Account} (selected : selectAccount s clientId wanted = some account) :
    account ∈ s.accounts clientId := by
  cases wanted with
  | none => exact List.mem_of_head? selected
  | some id => exact List.mem_of_find?_eq_some selected

end CommandLine

namespace Cache

open CommandLine (selectAccount)

/-- What the accounts that are listed for a client id have to do with what is held. -/
structure Lists (calls : List Call) (clientId : String) (s : Store) : Prop where
  ordered : (s.accounts clientId).Pairwise fun a b => a.homeAccountId ≤ b.homeAccountId
  /-- Each credential that was saved for the client brings its account. -/
  complete : (s.accountsBy (savedFor calls clientId)).Subperm (s.accounts clientId)
  /-- No other does, just when nobody is confused. -/
  exact : (s.accounts clientId).Perm (s.accountsBy (savedFor calls clientId)) ↔
    Unconfused calls clientId s
  /-- So it is when the client ids of all who save have equally many hyphens. -/
  alike : (∀ call ∈ calls, ∀ other c metadata, call = .save other c metadata →
    other.toList.count '-' = clientId.toList.count '-') → Unconfused calls clientId s
  /-- What was saved for the client is found for it. -/
  found (account : Account) (member : account ∈ s.accountsBy (savedFor calls clientId)) :
    ∃ c, s.get? clientId account = some c ∧ c.account = account
  /-- As long as nobody is confused, what is listed is found. -/
  listed (unconfused : Unconfused calls clientId s) (account : Account)
    (member : account ∈ s.accounts clientId) :
    ∃ c, s.get? clientId account = some c ∧ c.account = account
  /-- And a command for a selected account is told by nobody but the network that there is none. -/
  selected (unconfused : Unconfused calls clientId s) {wanted : Option String}
    {p : SilentParameters} (own : p.clientId = clientId)
    (chosen : selectAccount s clientId wanted = some p.account) (op : Operation)
    (bound : Option String) {around : Surroundings} (stands : around.cache.store = s)
    {id : String} {failure : Failure}
    (told : (op.alone p bound around).1.outcome? (some id) = some (.error failure))
    (denies : Operation.Denies failure) : Operation.DeniedBy around failure

theorem lists (file : CacheFile) (calls : List (CacheFile × Call)) (clientId : String) :
    Lists (calls.map Prod.snd) clientId (performAll { store := {}, file } calls).store := by
  have built : (performAll { store := {}, file } calls).store = madeOf (calls.map Prod.snd) := by
    rw [performAll_store, madeOf, List.foldl_map]
  rw [built]
  constructor
  case ordered => exact Store.accounts_ordered _ clientId
  case complete => exact accountsBy_savedFor_subperm _ clientId
  case exact => exact accounts_perm_iff
  case alike => exact unconfused_of_alike
  case found => exact fun account => get?_of_savedFor
  case listed => exact fun unconfused account => get?_of_listed unconfused
  case selected =>
    intro unconfused wanted p own chosen op bound around stands id failure told denies
    obtain ⟨c, held, -⟩ := get?_of_listed unconfused (CommandLine.mem_of_selectAccount chosen)
    rw [← stands, ← own] at held
    exact Operation.deniedBy_of_told held told denies

/-- An account is listed for a client id that its own ends in, it is selected, and then nothing is
found for it. -/
theorem foreign_account_listed :
    ∃ loaded saved, Cache.load {} = .ok loaded ∧
      loaded.save "client-123" { account := sampleAccount } none = (.ok (), saved) ∧
      Text.sameIgnoringCase "client-123" "123" = false ∧
      saved.store.accounts "123" = [sampleAccount] ∧
      saved.store.get? "123" sampleAccount = none ∧
      selectAccount saved.store "123" none = some sampleAccount ∧
      ∀ (op : Operation) (p : SilentParameters) (bound : Option String) (around : Surroundings),
        p.clientId = "123" → p.account = sampleAccount → around.cache = saved →
        op.alone p bound around =
          (.value (.error (.typed (.uiRequired "no_account_found" none
            "no cached credentials for the account"))), around) := by
  let c : Credential := { account := sampleAccount }
  let made : Cache := { store := {}, file := CacheFile.holding {} {} }
  let store := made.store.save "client-123" c none
  have writable : made.file.IsWritable := ⟨rfl, rfl, nofun, nofun⟩
  have saves := save_of_isWritable writable "client-123" c none
  have entries : store.credentials.entries =
      [(Credential.keyOf "client-123" sampleAccount, c)] := rfl
  have missing : store.get? "123" sampleAccount = none := by decide
  have listed : store.accounts "123" = [sampleAccount] := by
    rw [Store.accounts, entries, List.filter_cons_of_pos (by decide), List.filter_nil]
    exact List.mergeSort_singleton _
  refine ⟨made, _, rfl, saves, by decide, listed, missing, ?_, ?_⟩
  · rw [selectAccount, listed]
    rfl
  · intro op p bound around short selected stands
    have unknown : around.cache.store.get? p.clientId p.account = none := by
      rw [short, selected, stands]
      exact missing
    exact (Operation.Fares.unknown unknown).alone_eq

end Cache

end TokenAcquisition
