import TokenAcquisition.Proofs.Credential.Owners
import TokenAcquisition.Proofs.Program.Alone

/-!
Refresh tokens that the service turns down.  Such an answer is judged twice, when it is decided
whether the tokens of the account are worth keeping and when the caller is told what is wrong, and
both times alike: only the user can help just when the tokens are gone.  They stay gone until
others are saved, and as long as they are, no command asks the service for any.
-/

namespace TokenAcquisition

/-- What the caller of a command is told when its program has ended. -/
def Program.Ending.outcome? (id : Option String) :
    Program.Ending (Except Breakdown Acquisition) → Option Outcome
  | .value work => some (.ofWork id work)
  | .panicked message => some (.ofWork id (.error (.panic message)))
  | .stuck => none

/-! ### Credentials without tokens -/

/-- What is kept under a key has neither an access token nor a refresh token. -/
def Store.Tokenless (s : Store) (key : String) : Prop :=
  ∃ c, s.credentials.find? key = some c ∧ c.accessToken = none ∧ c.refreshToken = none

theorem Store.tokenless_of_invalidate? {s t : Store} {clientId : String} {account : Account}
    (dropped : s.invalidate? clientId account = some t) :
    t.Tokenless (Credential.keyOf clientId account) := by
  obtain ⟨held, found, -⟩ := Store.invalidate?_eq_some_iff.mp dropped
  have kept := Store.find?_of_invalidate? dropped (Credential.keyOf clientId account)
  rw [if_pos rfl, found] at kept
  exact ⟨held.withoutTokens, kept, rfl, rfl⟩

namespace Cache

variable {key : String}

/-- A call neither saves nor removes what is kept under a key. -/
def Call.Spares (key : String) (call : Call) : Prop :=
  call.owner.key = key → ∃ clientId account, call = .invalidate clientId account

/-- A call that neither saves nor removes a credential without tokens leaves it without any. -/
theorem Call.Spares.tokenless_made {call : Call} {s : Store} (spares : call.Spares key)
    (tokenless : s.Tokenless key) : (call.made s).Tokenless key := by
  by_cases own : call.owner.key = key
  · obtain ⟨clientId, account, rfl⟩ := spares own
    subst own
    rw [Call.made]
    cases dropped : (Call.invalidate clientId account).change? s with
    | none => exact tokenless
    | some t => exact Store.tokenless_of_invalidate? dropped
  · rw [Store.Tokenless, call.find?_made (Ne.symm own)]
    exact tokenless

theorem tokenless_performAll {cache : Cache} {calls : List (CacheFile × Call)}
    (spared : ∀ entry ∈ calls, entry.2.Spares key) (tokenless : cache.store.Tokenless key) :
    (cache.performAll calls).store.Tokenless key := by
  induction calls generalizing cache with
  | nil => exact tokenless
  | cons entry rest inductionHypothesis =>
      obtain ⟨file, call⟩ := entry
      refine inductionHypothesis (fun later member => spared later (.tail _ member)) ?_
      rw [Call.perform_store]
      exact (spared _ (.head _)).tokenless_made tokenless

end Cache

namespace Operation

variable {op : Operation} {p : SilentParameters} {bound : Option String} {around : Surroundings}
  {cached : Credential} {token : Secret} {response : HttpResponse} {delay : Nat} {id : String}

theorem alone_of_tokenless
    (tokenless : around.cache.store.Tokenless (Credential.keyOf p.clientId p.account)) :
    op.alone p bound around =
      (.value (.error (.typed
        (.uiRequired "no_tokens_found" none "no tokens cached for the account"))), around) := by
  obtain ⟨c, found, accessless, refreshless⟩ := tokenless
  have accessless : c.hasAccessToken = false := by
    rw [Credential.hasAccessToken, accessless]
    rfl
  have refreshless : c.hasRefreshToken = false := by
    rw [Credential.hasRefreshToken, refreshless]
    rfl
  exact (Fares.tokenless found accessless refreshless).alone_eq

/-- Whoever asked the network had a refresh token to be redeemed. -/
theorem exists_mustRedeem (asked : (op.alone p bound around).2.deeds ≠ around.deeds) :
    ∃ cached token, MustRedeem p around cached token := by
  refine Classical.byContradiction fun needless => asked ?_
  rw [alone_of_needless fun cached token must => needless ⟨cached, token, must⟩]

/-! ### What is done about an answer that turns down a refresh token -/

theorem alone_of_rejected (op : Operation) (bound : Option String)
    (must : MustRedeem p around cached token)
    (answered : around.answer = .respond response delay) (refused : 400 ≤ response.status)
    (rejects : response.tokenError.RejectsGrant) (writable : around.cache.file.IsWritable) :
    ∃ store, around.cache.store.invalidate? p.clientId p.account = some store ∧
      op.alone p bound around =
        (.value (.ok { token := some (.error response.tokenError) }),
          { around.posted (op.refreshRequest p token bound) with
            cache := { store, file := around.cache.file.holding store } }) := by
  obtain ⟨store, drops⟩ :
      ∃ store, around.cache.store.invalidate? p.clientId p.account = some store :=
    ⟨_, Store.invalidate?_eq_some_iff.mpr ⟨cached, must.held, rfl⟩⟩
  have written : around.cache.invalidate p.clientId p.account =
      (.ok (), { store, file := around.cache.file.holding store }) := by
    simp only [Cache.invalidate, drops, Cache.replace_of_isWritable writable]
  have read : response.tokenResult = .ok (.error response.tokenError) := if_pos refused
  exact ⟨store, drops, (Fares.redeemed must (.rejected answered read rejects written)).alone_eq⟩

theorem alone_of_refused (op : Operation) (bound : Option String)
    (must : MustRedeem p around cached token)
    (answered : around.answer = .respond response delay) (refused : 400 ≤ response.status)
    (accepts : ¬ response.tokenError.RejectsGrant) :
    op.alone p bound around =
      (.value (.ok { token := some (.error response.tokenError) }),
        around.posted (op.refreshRequest p token bound)) := by
  have read : response.tokenResult = .ok (.error response.tokenError) := if_pos refused
  exact (Fares.redeemed must (.refused answered read accepts)).alone_eq

/-- What becomes of the tokens of an account when its refresh token is turned down, and what the
caller is told of that. -/
structure TurnsDown (op : Operation) (p : SilentParameters) (bound : Option String) (id : String)
    (around : Surroundings) (cached : Credential) (response : HttpResponse) : Prop where
  held : around.cache.store.get? p.clientId p.account = some cached
  /-- The caller is told that only the user can help just when the tokens are gone. -/
  agree :
    (∃ failure, (op.alone p bound around).1.outcome? (some id) = some (.error failure) ∧
      failure.cause.kind = "ui_required") ↔
    (op.alone p bound around).2.cache.store.Tokenless (Credential.keyOf p.clientId p.account)
  /-- Then all else that was cached is as it was. -/
  dropped
    (tokenless : (op.alone p bound around).2.cache.store.Tokenless
      (Credential.keyOf p.clientId p.account)) :
    (op.alone p bound around).2.cache.store.get? p.clientId p.account =
        some { cached with accessToken := none, refreshToken := none, expiresOn := 0 } ∧
      (∀ key ≠ Credential.keyOf p.clientId p.account,
        (op.alone p bound around).2.cache.store.credentials.find? key =
          around.cache.store.credentials.find? key) ∧
      (op.alone p bound around).2.cache.store.metadata = around.cache.store.metadata
  /-- And whatever is done about the cache, no later command for the account asks the network,
  until its credential is saved or removed. -/
  later
    (tokenless : (op.alone p bound around).2.cache.store.Tokenless
      (Credential.keyOf p.clientId p.account))
    {calls : List (CacheFile × Cache.Call)}
    (spared : ∀ entry ∈ calls, entry.2.Spares (Credential.keyOf p.clientId p.account))
    {after : Surroundings}
    (stands : after.cache = (op.alone p bound around).2.cache.performAll calls)
    (op' : Operation) {p' : SilentParameters} (bound' : Option String) (id' : String)
    (same : Credential.keyOf p'.clientId p'.account = Credential.keyOf p.clientId p.account) :
    (op'.alone p' bound' after).1.outcome? (some id') =
        some (.error ⟨.uiRequired "no_tokens_found" none "no tokens cached for the account",
          some id'⟩) ∧
      (op'.alone p' bound' after).2 = after
  /-- Otherwise the caller is told the status of the answer, and the cache is as it was. -/
  kept
    (tokens : ¬ (op.alone p bound around).2.cache.store.Tokenless
      (Credential.keyOf p.clientId p.account)) :
    (∃ code subcode message, (op.alone p bound around).1.outcome? (some id) =
      some (.error ⟨.service code subcode message (some response.status), some id⟩)) ∧
      (op.alone p bound around).2.cache = around.cache

/-- What is told of an answer that is an error, by what kind of error it is. -/
theorem outcome?_of_rejected {e : TokenError} (rejects : e.RejectsGrant) :
    (Program.Ending.value (.ok { token := some (.error e) })).outcome? (some id) =
      some (.error ⟨.uiRequired e.error e.suberror (e.description.getD e.error), some id⟩) :=
  congrArg some (Outcome.Tells.rejected (a := { token := some (.error e) }) rfl
    ⟨nofun, fun _ => nofun⟩ rfl rejects).outcome_eq

theorem outcome?_of_refused {e : TokenError} (accepts : ¬ e.RejectsGrant) :
    (Program.Ending.value (.ok { token := some (.error e) })).outcome? (some id) =
      some (.error
        ⟨.service e.error e.suberror (e.description.getD e.error) (some e.status), some id⟩) :=
  congrArg some (Outcome.Tells.failed (a := { token := some (.error e) }) rfl
    ⟨nofun, fun _ => nofun⟩ rfl accepts).outcome_eq

theorem turnsDown_of_rejected (must : MustRedeem p around cached token)
    (answered : around.answer = .respond response delay) (refused : 400 ≤ response.status)
    (rejects : response.tokenError.RejectsGrant) (writable : around.cache.file.IsWritable) :
    TurnsDown op p bound id around cached response := by
  obtain ⟨store, drops, same⟩ := alone_of_rejected op bound must answered refused rejects
    writable
  have gone := Store.tokenless_of_invalidate? drops
  constructor
  case held => exact must.held
  case agree =>
    rw [same]
    exact iff_of_true ⟨_, outcome?_of_rejected rejects, rfl⟩ gone
  case dropped =>
    intro tokenless
    obtain ⟨held, found, whole⟩ := Store.invalidate?_eq_some_iff.mp drops
    have others := Store.find?_of_invalidate? drops
    rw [same]
    refine ⟨?_, fun key other => by rw [others, if_neg other], ?_⟩
    · rw [Store.get?, others, if_pos rfl, must.held]
      rfl
    · rw [← whole]
  case later =>
    intro tokenless calls spared after stands op' p' bound' id' key
    have tokenless : after.cache.store.Tokenless (Credential.keyOf p'.clientId p'.account) := by
      rw [stands, key]
      exact Cache.tokenless_performAll spared tokenless
    rw [alone_of_tokenless tokenless]
    exact ⟨rfl, rfl⟩
  case kept =>
    intro tokens
    rw [same] at tokens
    exact absurd gone tokens

theorem turnsDown_of_refused (must : MustRedeem p around cached token)
    (answered : around.answer = .respond response delay) (refused : 400 ≤ response.status)
    (accepts : ¬ response.tokenError.RejectsGrant) :
    TurnsDown op p bound id around cached response := by
  have same := alone_of_refused op bound must answered refused accepts
  have kept : ¬ (op.alone p bound around).2.cache.store.Tokenless
      (Credential.keyOf p.clientId p.account) := by
    rw [same]
    rintro ⟨c, found, -, refreshless⟩
    obtain rfl := Option.some.inj (must.held.symm.trans found)
    cases must.own.symm.trans refreshless
  constructor
  case held => exact must.held
  case agree =>
    refine iff_of_false ?_ kept
    rintro ⟨failure, told, kind⟩
    rw [same, outcome?_of_refused accepts] at told
    cases told
    exact absurd kind (show "service" ≠ "ui_required" by decide)
  case dropped => exact fun tokenless => absurd tokenless kept
  case later => exact fun tokenless => absurd tokenless kept
  case kept =>
    rw [same]
    exact fun _ => ⟨⟨_, _, _, outcome?_of_refused accepts⟩, rfl⟩

/-- However the service turns down a refresh token, what the caller is told agrees with what
becomes of the tokens. -/
theorem turnsDown (op : Operation) (p : SilentParameters) (bound : Option String) (id : String)
    (asked : (op.alone p bound around).2.deeds ≠ around.deeds)
    (answered : around.answer = .respond response delay) (refused : 400 ≤ response.status)
    (writable : around.cache.file.IsWritable) :
    ∃ cached, TurnsDown op p bound id around cached response := by
  obtain ⟨cached, token, must⟩ := exists_mustRedeem asked
  by_cases rejects : response.tokenError.RejectsGrant
  · exact ⟨cached, turnsDown_of_rejected must answered refused rejects writable⟩
  · exact ⟨cached, turnsDown_of_refused must answered refused rejects⟩

open Dispatch (renewal refusal)

theorem sample_turnsDown :
    (service.alone renewal (some "first") (.holding refusal)).2.deeds ≠ [] ∧
      ∃ cached, TurnsDown service renewal (some "first") "first" (.holding refusal) cached
        refusal := by
  obtain ⟨ending, cache, -, same⟩ :=
    (Surroundings.holding_mustRedeem refusal).alone_eq service (some "first")
  have asked : (service.alone renewal (some "first") (.holding refusal)).2.deeds ≠ [] := by
    rw [same]
    nofun
  have answered : (Surroundings.holding refusal).answer = .respond refusal 0 := rfl
  exact ⟨asked, turnsDown service renewal (some "first") "first" asked answered (by decide)
    (by decide)⟩

end Operation

end TokenAcquisition
