import Mathlib.Data.List.Induction
import TokenAcquisition.Proofs.Credential.Owners

/-!
Refresh tokens over any number of calls.  The one that is found under a key is the last that was
saved there since the tokens of the key were last dropped, for a credential that brings none gets
that of the one it replaces.  An empty one is no use to anybody, but it counts as brought: it takes
the place of one that could still be redeemed.
-/

namespace TokenAcquisition

namespace Cache

namespace Call

/-- The refresh token of the credential that a call saves. -/
def refreshToken? : Call → Option Secret
  | .save _ c _ => c.refreshToken
  | _ => none

def isSave : Call → Bool
  | .save _ _ _ => true
  | _ => false

/-- A call saves a credential with a refresh token under a key. -/
def Brings (key : String) (token : Secret) (call : Call) : Prop :=
  call.owner.key = key ∧ call.refreshToken? = some token

/-- A call drops the tokens that are kept under a key, or removes them with all else. -/
def Clears (key : String) (call : Call) : Prop :=
  call.owner.key = key ∧ call.isSave = false

/-- A call neither drops what is kept under a key nor brings a refresh token that counts. -/
structure Passes (counts : Secret → Prop) (key : String) (call : Call) : Prop where
  undropped : ¬ call.Clears key
  unbrought (token : Secret) (brings : call.Brings key token) : ¬ counts token

variable {counts others : Secret → Prop} {key : String} {call : Call} {token : Secret}

theorem Passes.weaken (passes : call.Passes counts key)
    (fewer : ∀ token, call.Brings key token → others token → counts token) :
    call.Passes others key where
  undropped := passes.undropped
  unbrought token brings counted := passes.unbrought token brings (fewer token brings counted)

end Call

/-- Among the refresh tokens that count, one is the last that was brought to a key and not dropped
since: it was there at first, or a call brought it. -/
inductive Latest (counts : Secret → Prop) (key : String) (first : Option Secret)
    (calls : List Call) (token : Secret) : Prop
  | kept (own : first = some token) (counted : counts token)
      (passed : ∀ call ∈ calls, call.Passes counts key)
  | brought {before : List Call} {call : Call} {after : List Call}
      (whole : calls = before ++ call :: after) (brings : call.Brings key token)
      (counted : counts token) (passed : ∀ later ∈ after, later.Passes counts key)

namespace Latest

variable {counts others : Secret → Prop} {key : String} {first : Option Secret}
  {calls : List Call} {token : Secret}

/-- One more call brings a token that counts, or it passes the one before it. -/
theorem append_iff {call : Call} :
    Latest counts key first (calls ++ [call]) token ↔
      (call.Brings key token ∧ counts token) ∨
        (call.Passes counts key ∧ Latest counts key first calls token) := by
  constructor
  · intro latest
    cases latest with
    | kept own counted passed =>
        have earlier (one : Call) (member : one ∈ calls) : one.Passes counts key :=
          passed one (List.mem_append_left _ member)
        exact .inr ⟨passed call (by simp), .kept own counted earlier⟩
    | @brought before bringer after whole brings counted passed =>
        rcases List.eq_nil_or_concat after with rfl | ⟨others, last, rfl⟩
        · obtain ⟨-, same⟩ := List.append_inj' whole rfl
          obtain rfl := List.singleton_inj.mp same
          exact .inl ⟨brings, counted⟩
        · rw [List.concat_eq_append] at whole passed
          have whole : calls ++ [call] = (before ++ bringer :: others) ++ [last] := by
            simpa using whole
          obtain ⟨front, same⟩ := List.append_inj' whole rfl
          obtain rfl := List.singleton_inj.mp same
          have earlier (one : Call) (member : one ∈ others) : one.Passes counts key :=
            passed one (List.mem_append_left _ member)
          exact .inr ⟨passed call (by simp), .brought front brings counted earlier⟩
  · rintro (⟨brings, counted⟩ | ⟨passes, latest⟩)
    · exact .brought rfl brings counted (List.forall_mem_nil _)
    · have extended {earlier : List Call} (passed : ∀ one ∈ earlier, one.Passes counts key) :
          ∀ one ∈ earlier ++ [call], one.Passes counts key := by
        intro one member
        rcases List.mem_append.mp member with inside | last
        · exact passed one inside
        · rwa [List.mem_singleton.mp last]
      cases latest with
      | kept own counted passed => exact .kept own counted (extended passed)
      | @brought before bringer after whole brings counted passed =>
          have longer : calls ++ [call] = before ++ bringer :: (after ++ [call]) := by
            rw [whole, List.append_assoc, List.cons_append]
          exact .brought longer brings counted (extended passed)

/-- Which tokens count matters only for those that are brought, and for the one in question. -/
theorem weaken (latest : Latest counts key first calls token) (counted : others token)
    (fewer : ∀ call ∈ calls, ∀ token, call.Brings key token → others token → counts token) :
    Latest others key first calls token := by
  cases latest with
  | kept own _ passed =>
      exact .kept own counted fun call member => (passed call member).weaken (fewer call member)
  | brought whole brings _ passed =>
      refine .brought whole brings counted fun later member => ?_
      exact (passed later member).weaken (fewer later (by simp [whole, member]))

end Latest

end Cache

/-- The refresh token that is kept under a key. -/
def Store.refreshToken? (s : Store) (key : String) : Option Secret :=
  (s.credentials.find? key).bind Credential.refreshToken

theorem Store.refreshToken?_save (s : Store) (clientId : String) (c : Credential)
    (metadata : Option AppMetadata) :
    (s.save clientId c metadata).refreshToken? (Credential.keyOf clientId c.account) =
      (c.refreshToken <|> s.refreshToken? (Credential.keyOf clientId c.account)) :=
  congrArg (·.bind Credential.refreshToken) (s.get?_save clientId c metadata)

namespace Cache

variable {key : String} {token : Secret}

theorem Call.refreshToken?_made_of_clears {call : Call} (clears : call.Clears key) (s : Store) :
    (call.made s).refreshToken? key = none := by
  obtain ⟨rfl, unsaved⟩ := clears
  rw [made]
  cases changed : call.change? s with
  | none =>
      cases call with
      | save => cases unsaved
      | invalidate clientId account | remove clientId account =>
          have missing : s.get? clientId account = none := Option.map_eq_none_iff.mp changed
          change (s.get? clientId account).bind _ = none
          rw [missing]
          rfl
  | some t =>
      cases call with
      | save => cases unsaved
      | invalidate clientId account =>
          change (t.credentials.find? (Credential.keyOf clientId account)).bind _ = none
          rw [Store.find?_of_invalidate? changed, if_pos rfl]
          cases s.get? clientId account <;> rfl
      | remove clientId account =>
          change (t.credentials.find? (Credential.keyOf clientId account)).bind _ = none
          rw [Store.find?_of_remove? changed, if_pos rfl]
          rfl

/-- What is kept under a key has the refresh token that a call brings, or else the one of before,
unless the call drops it. -/
theorem Call.refreshToken?_made (call : Call) (s : Store) :
    (call.made s).refreshToken? key = some token ↔
      call.Brings key token ∨
        (call.Passes (fun _ => True) key ∧ s.refreshToken? key = some token) := by
  by_cases own : call.owner.key = key
  · cases call with
    | save clientId c metadata =>
        have kept : ((save clientId c metadata).made s).refreshToken? key =
            (c.refreshToken <|> s.refreshToken? key) := by
          subst own
          exact Store.refreshToken?_save s clientId c metadata
        rw [kept]
        cases brought : c.refreshToken with
        | none =>
            have passes : (save clientId c metadata).Passes (fun _ => True) key :=
              ⟨nofun, fun token brings => by cases brought.symm.trans brings.2⟩
            have unbrought : ¬ (save clientId c metadata).Brings key token :=
              fun brings => passes.unbrought token brings trivial
            simp [passes, unbrought]
        | some new =>
            have brings : (save clientId c metadata).Brings key new := ⟨own, brought⟩
            have unpassed : ¬ (save clientId c metadata).Passes (fun _ => True) key :=
              fun passes => passes.unbrought new brings trivial
            simp [unpassed, Brings, own, refreshToken?, brought]
    | invalidate | remove =>
        rw [Call.refreshToken?_made_of_clears ⟨own, rfl⟩]
        refine iff_of_false nofun ?_
        rintro (⟨-, brought⟩ | ⟨passes, -⟩)
        · cases brought
        · exact passes.undropped ⟨own, rfl⟩
  · have passes : call.Passes (fun _ => True) key :=
      ⟨fun clears => own clears.1, fun _ brings => absurd brings.1 own⟩
    have same : (call.made s).refreshToken? key = s.refreshToken? key :=
      congrArg (·.bind Credential.refreshToken) (call.find?_made (Ne.symm own))
    rw [same]
    simp [passes, Brings, own]

/-- After any number of calls the refresh token under a key is the last that was brought. -/
theorem refreshToken?_foldl (calls : List Call) (s : Store) :
    (calls.foldl Call.made s).refreshToken? key = some token ↔
      Latest (fun _ => True) key (s.refreshToken? key) calls token := by
  induction calls using List.reverseRecOn with
  | nil =>
      constructor
      · exact fun own => .kept own trivial (List.forall_mem_nil _)
      · rintro (⟨own, -, -⟩ | ⟨whole, -, -, -⟩)
        · exact own
        · simp at whole
  | append_singleton calls call inductionHypothesis =>
      rw [List.foldl_append, List.foldl_cons, List.foldl_nil, Call.refreshToken?_made,
        Latest.append_iff, inductionHypothesis, and_true]

/-- The last token that can be redeemed is there, or an empty one that came later. -/
theorem refreshToken?_foldl_of_latest {calls : List Call} {s : Store}
    (latest : Latest (fun token => token.isFilled = true) key (s.refreshToken? key) calls token) :
    (calls.foldl Call.made s).refreshToken? key = some token ∨
      ∃ call ∈ calls, ∃ empty, call.Brings key empty ∧ empty.isFilled = false ∧
        (calls.foldl Call.made s).refreshToken? key = some empty := by
  induction calls using List.reverseRecOn with
  | nil =>
      cases latest with
      | kept own => exact .inl own
      | brought whole => simp at whole
  | append_singleton calls call inductionHypothesis =>
      rw [List.foldl_append, List.foldl_cons, List.foldl_nil]
      rcases Latest.append_iff.mp latest with ⟨brings, -⟩ | ⟨passes, latest⟩
      · exact .inl ((call.refreshToken?_made _).mpr (.inl brings))
      · by_cases bringing : ∃ other, call.Brings key other
        · obtain ⟨empty, brings⟩ := bringing
          have useless := Bool.eq_false_iff.mpr (passes.unbrought empty brings)
          have replaced := (call.refreshToken?_made (calls.foldl Call.made s)).mpr (.inl brings)
          exact .inr ⟨call, by simp, empty, brings, useless, replaced⟩
        · have stays {other : Secret}
              (held : (calls.foldl Call.made s).refreshToken? key = some other) :
              (call.made (calls.foldl Call.made s)).refreshToken? key = some other := by
            refine (call.refreshToken?_made _).mpr (.inr ⟨⟨passes.undropped, ?_⟩, held⟩)
            exact fun other brings => (bringing ⟨other, brings⟩).elim
          rcases inductionHypothesis latest with
            held | ⟨earlier, member, empty, brings, useless, held⟩
          · exact .inl (stays held)
          · exact .inr ⟨earlier, List.mem_append_left _ member, empty, brings, useless, stays held⟩

/-- What any number of calls make of the refresh token that is found for an account. -/
structure Remembers (cache : Cache) (calls : List (CacheFile × Call)) (clientId : String)
    (account : Account) : Prop where
  /-- It is the last that was brought, be it empty. -/
  exact (token : Secret) :
    ((cache.performAll calls).store.get? clientId account).bind Credential.refreshToken =
        some token ↔
      Latest (fun _ => True) (Credential.keyOf clientId account)
        ((cache.store.get? clientId account).bind Credential.refreshToken)
        (calls.map Prod.snd) token
  /-- One that can be redeemed is the last of those. -/
  sound {token : Secret}
    (held : ((cache.performAll calls).store.get? clientId account).bind Credential.refreshToken =
      some token) (filled : token.isFilled = true) :
    Latest (fun token => token.isFilled = true) (Credential.keyOf clientId account)
      ((cache.store.get? clientId account).bind Credential.refreshToken)
      (calls.map Prod.snd) token
  /-- Only an empty one that a call brought takes the place of the last that can be redeemed. -/
  replaced {token : Secret}
    (latest : Latest (fun token => token.isFilled = true) (Credential.keyOf clientId account)
      ((cache.store.get? clientId account).bind Credential.refreshToken)
      (calls.map Prod.snd) token) :
    ((cache.performAll calls).store.get? clientId account).bind Credential.refreshToken =
        some token ∨
      ∃ call ∈ calls.map Prod.snd, ∃ empty,
        call.Brings (Credential.keyOf clientId account) empty ∧ empty.isFilled = false ∧
        ((cache.performAll calls).store.get? clientId account).bind Credential.refreshToken =
          some empty
  /-- A credential that is saved brings all else, and its refresh token if it has one. -/
  saved (file : CacheFile) {clientId' : String} {c : Credential} (metadata : Option AppMetadata)
    (own : Credential.keyOf clientId' c.account = Credential.keyOf clientId account) :
    ((Call.save clientId' c metadata).perform
        { cache.performAll calls with file }).2.store.get? clientId account =
      some { c with
        refreshToken :=
          c.refreshToken <|>
            ((cache.performAll calls).store.get? clientId account).bind Credential.refreshToken }

theorem remembers (cache : Cache) (calls : List (CacheFile × Call)) (clientId : String)
    (account : Account) : Remembers cache calls clientId account := by
  have run : (cache.performAll calls).store = (calls.map Prod.snd).foldl Call.made cache.store := by
    rw [performAll_store, List.foldl_map]
  have last (token : Secret) :
      (cache.performAll calls).store.refreshToken? (Credential.keyOf clientId account) =
          some token ↔
        Latest (fun _ => True) (Credential.keyOf clientId account)
          (cache.store.refreshToken? (Credential.keyOf clientId account))
          (calls.map Prod.snd) token := by
    rw [run]
    exact refreshToken?_foldl _ _
  constructor
  case exact => exact last
  case sound => exact fun held filled => ((last _).mp held).weaken filled fun _ _ _ _ _ => trivial
  case replaced =>
    intro token latest
    have outcome := refreshToken?_foldl_of_latest latest
    rwa [← run] at outcome
  case saved =>
    intro file clientId' c metadata own
    rw [Call.perform_store]
    change ((cache.performAll calls).store.save clientId' c metadata).credentials.find?
      (Credential.keyOf clientId account) = _
    rw [Store.find?_save, if_pos own.symm]
    simp only [Store.get?, own]

/-- A credential of the sample account with nothing but a refresh token. -/
def sampleRefreshing (token : String) : Credential :=
  { account := sampleAccount, refreshToken := some ⟨token⟩ }

/-- A refresh token is saved, and then an empty one. -/
def sampleSaves : List (CacheFile × Call) :=
  [({}, .save "app" (sampleRefreshing "rt") none), ({}, .save "app" (sampleRefreshing "") none)]

/-- A refresh token that can be redeemed is lost to an empty one, and the user has to sign in. -/
theorem redeemable_token_lost :
    ∃ loaded, Cache.load {} = .ok loaded ∧
      Latest (fun token => token.isFilled = true) (Credential.keyOf "app" sampleAccount)
        ((loaded.store.get? "app" sampleAccount).bind Credential.refreshToken)
        (sampleSaves.map Prod.snd) ⟨"rt"⟩ ∧
      (loaded.performAll sampleSaves).store.get? "app" sampleAccount =
        some (sampleRefreshing "") ∧
      (loaded.performAll sampleSaves).store.lookup "app" sampleAccount = .uiRequired := by
  let loaded : Cache := { store := {}, file := CacheFile.holding {} {} }
  have found : (loaded.performAll sampleSaves).store.get? "app" sampleAccount =
      some (sampleRefreshing "") := by
    rw [performAll_store]
    exact Store.get?_save _ "app" (sampleRefreshing "") none
  refine ⟨loaded, rfl, ?_, found, Store.lookup_of_tokenless found rfl (by decide)⟩
  have whole : sampleSaves.map Prod.snd =
      [] ++ .save "app" (sampleRefreshing "rt") none ::
        [.save "app" (sampleRefreshing "") none] := rfl
  refine .brought whole ⟨rfl, rfl⟩ (by decide) fun later member => ?_
  obtain rfl := List.mem_singleton.mp member
  refine ⟨nofun, fun token brings => ?_⟩
  obtain rfl := Option.some.inj brings.2
  decide

end Cache

end TokenAcquisition
