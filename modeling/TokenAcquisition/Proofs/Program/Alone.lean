import TokenAcquisition.Program.Alone
import TokenAcquisition.Proofs.Credential.Expiry
import TokenAcquisition.Proofs.Dispatch.Invalidation
import TokenAcquisition.Proofs.Dispatch.Outcomes
import TokenAcquisition.Proofs.Program.Keeping

/-!
What a silent command asks of the cache and of the network.  It looks into the cache first, and
what it finds there decides whether it goes on: only a refresh token that has to be redeemed is
worth a request, and only what the service says to that changes the cache.  Whatever else happens,
all is as it was before.
-/

namespace TokenAcquisition

namespace Credential

variable {c : Credential}

theorem hasRefreshToken_iff :
    c.hasRefreshToken = true ↔ ∃ token, c.refreshToken = some token ∧ token.isFilled = true := by
  rw [hasRefreshToken, Option.any_eq_true]

theorem filter_refreshToken (refreshless : c.hasRefreshToken = false) :
    c.refreshToken.filter Secret.isFilled = none := by
  rw [Option.filter_eq_none_iff]
  intro token own filled
  exact Bool.eq_false_iff.mp refreshless (hasRefreshToken_iff.mpr ⟨token, own, filled⟩)

end Credential

namespace Cache

variable {cache : Cache}

theorem save_of_isWritable (writable : cache.file.IsWritable) (clientId : String)
    (c : Credential) (metadata : Option AppMetadata) :
    cache.save clientId c metadata =
      (.ok (),
        { store := cache.store.save clientId c metadata
          file := cache.file.holding (cache.store.save clientId c metadata) }) :=
  replace_of_isWritable writable _

theorem invalidate_of_isWritable (writable : cache.file.IsWritable) (clientId : String)
    (account : Account) : ∃ after, cache.invalidate clientId account = (.ok (), after) := by
  rw [invalidate]
  cases cache.store.invalidate? clientId account with
  | none => exact ⟨_, rfl⟩
  | some store => exact ⟨_, replace_of_isWritable writable store⟩

end Cache

namespace Surroundings

/-- What the network says to the next request. -/
def answer (around : Surroundings) : TransportAnswer :=
  (TransportAnswer.next around.transport).1

/-- What is around once a request has been answered. -/
def posted (around : Surroundings) (request : TokenRequest) : Surroundings :=
  (around.post request).2

end Surroundings

namespace Program

/-- A program that asks the network goes on with what the network says, if it says anything. -/
theorem runAlone_post {α : Type} (request : TokenRequest)
    (next : Except Failure HttpResponse → Program α) (around : Surroundings) :
    (Program.post request next).runAlone around =
      match around.answer with
      | .respond response _ => (next (.ok response)).runAlone (around.posted request)
      | .fail failure _ => (next (.error failure)).runAlone (around.posted request)
      | .panic message _ => (.panicked message, around.posted request) := by
  rw [runAlone, Surroundings.answer, Surroundings.posted, Surroundings.post]
  rcases TransportAnswer.next around.transport with ⟨answer, rest⟩
  cases answer <;> rfl

end Program

namespace Operation

variable {op : Operation} {p : SilentParameters} {bound : Option String} {around : Surroundings}

/-! ### How it may go -/

/-- What comes of a refresh token that is handed in: how the command ends, and what it leaves in
the cache. -/
inductive Exchanges (op : Operation) (p : SilentParameters) (bound : Option String)
    (cached : Credential) (token : Secret) (around : Surroundings) :
    Program.Ending (Except Breakdown Acquisition) → Cache → Prop
  | granted {response delay tokens account cache}
      (answered : around.answer = .respond response delay)
      (read : response.tokenResult = .ok (.success tokens))
      (whose : op.renewed p token bound cached tokens = .ok account)
      (saves : around.cache.save p.clientId (tokens.credential account p.scopes around.now)
        (some (op.note p.clientId account tokens)) = (.ok (), cache)) :
      Exchanges op p bound cached token around
        (.value (.ok
          { local? := some (tokens.handed account p.scopes around.now bound)
            token := some (.success tokens) }))
        cache
  /-- The tokens cannot be written down. -/
  | unsaved {response delay tokens account failure cache}
      (answered : around.answer = .respond response delay)
      (read : response.tokenResult = .ok (.success tokens))
      (whose : op.renewed p token bound cached tokens = .ok account)
      (saves : around.cache.save p.clientId (tokens.credential account p.scopes around.now)
        (some (op.note p.clientId account tokens)) = (.error failure, cache)) :
      Exchanges op p bound cached token around (.value (.error (.typed failure))) cache
  /-- The answer does not tell whose the tokens are, although it seems to. -/
  | unattributed {response delay tokens failure}
      (answered : around.answer = .respond response delay)
      (read : response.tokenResult = .ok (.success tokens))
      (whose : op.renewed p token bound cached tokens = .error failure) :
      Exchanges op p bound cached token around (.value (.error (.typed failure))) around.cache
  | rejected {response delay e cache} (answered : around.answer = .respond response delay)
      (read : response.tokenResult = .ok (.error e)) (rejects : e.RejectsGrant)
      (drops : around.cache.invalidate p.clientId p.account = (.ok (), cache)) :
      Exchanges op p bound cached token around (.value (.ok { token := some (.error e) })) cache
  /-- That the tokens are gone cannot be written down. -/
  | undropped {response delay e failure cache}
      (answered : around.answer = .respond response delay)
      (read : response.tokenResult = .ok (.error e)) (rejects : e.RejectsGrant)
      (drops : around.cache.invalidate p.clientId p.account = (.error failure, cache)) :
      Exchanges op p bound cached token around (.value (.error (.typed failure))) cache
  | refused {response delay e} (answered : around.answer = .respond response delay)
      (read : response.tokenResult = .ok (.error e)) (accepts : ¬ e.RejectsGrant) :
      Exchanges op p bound cached token around (.value (.ok { token := some (.error e) }))
        around.cache
  | unreadable {response delay failure} (answered : around.answer = .respond response delay)
      (read : response.tokenResult = .error failure) :
      Exchanges op p bound cached token around (.value (.error (.typed failure))) around.cache
  | failed {failure delay} (answered : around.answer = .fail failure delay) :
      Exchanges op p bound cached token around (.value (.error (.typed failure))) around.cache
  | panicked {message delay} (answered : around.answer = .panic message delay) :
      Exchanges op p bound cached token around (.panicked message) around.cache

/-- A refresh token has to be redeemed: it is held for the account, and there is no access token
to be handed out, or none is wanted. -/
structure MustRedeem (p : SilentParameters) (around : Surroundings) (cached : Credential)
    (token : Secret) : Prop where
  held : around.cache.store.get? p.clientId p.account = some cached
  unserved : p.forceRefresh = false → cached.hasValidAccessToken p.scopes around.now = .ok false
  own : cached.refreshToken = some token
  filled : token.isFilled = true

/-- The ways in which a silent command may end, and what is around it then. -/
inductive Fares (op : Operation) (p : SilentParameters) (bound : Option String)
    (around : Surroundings) :
    Program.Ending (Except Breakdown Acquisition) × Surroundings → Prop
  | unknown (missing : around.cache.store.get? p.clientId p.account = none) :
      Fares op p bound around
        (.value (.error (.typed
          (.uiRequired "no_account_found" none "no cached credentials for the account"))), around)
  | tokenless {cached} (held : around.cache.store.get? p.clientId p.account = some cached)
      (accessless : cached.hasAccessToken = false) (refreshless : cached.hasRefreshToken = false) :
      Fares op p bound around
        (.value (.error (.typed
          (.uiRequired "no_tokens_found" none "no tokens cached for the account"))), around)
  | served {cached} (held : around.cache.store.get? p.clientId p.account = some cached)
      (unforced : p.forceRefresh = false)
      (valid : cached.hasValidAccessToken p.scopes around.now = .ok true) :
      Fares op p bound around
        (.value (.ok { local? := some (fromCache cached bound) }), around)
  /-- Whether the access token lasts cannot be told. -/
  | uncertain {cached panic}
      (held : around.cache.store.get? p.clientId p.account = some cached)
      (unforced : p.forceRefresh = false)
      (panics : cached.hasValidAccessToken p.scopes around.now = .error panic) :
      Fares op p bound around (.value (.error (.panic panic.message)), around)
  | unredeemable {cached} (held : around.cache.store.get? p.clientId p.account = some cached)
      (unserved : p.forceRefresh = false →
        cached.hasValidAccessToken p.scopes around.now = .ok false)
      (access : cached.hasAccessToken = true) (refreshless : cached.hasRefreshToken = false) :
      Fares op p bound around
        (.value (.error (.typed
          (.uiRequired "no_tokens_found" none "no refresh token cached for the account"))), around)
  | redeemed {cached token ending cache} (must : MustRedeem p around cached token)
      (exchanges : Exchanges op p bound cached token around ending cache) :
      Fares op p bound around
        (ending, { around.posted (op.refreshRequest p token bound) with cache })

/-! ### It goes one of these ways, and no other -/

variable {cached : Credential} {token : Secret}

theorem Exchanges.runAlone_eq {ending : Program.Ending (Except Breakdown Acquisition)}
    {cache : Cache} (exchanges : Exchanges op p bound cached token around ending cache) :
    (Program.post (op.refreshRequest p token bound)
        (op.afterRefresh p bound cached token)).runAlone around =
      (ending, { around.posted (op.refreshRequest p token bound) with cache }) := by
  have same : (around.posted (op.refreshRequest p token bound)).cache = around.cache := rfl
  have time : (around.posted (op.refreshRequest p token bound)).now = around.now := rfl
  rw [Program.runAlone_post]
  cases exchanges with
  | granted answered read whose saves | unsaved answered read whose saves =>
      simp only [answered, afterRefresh, read, whose, supervised_renewing, settling,
        Program.runAlone, same, time, saves, afterSave]
  | unattributed answered read whose =>
      simp only [answered, afterRefresh, read, whose, Program.runAlone]
      rfl
  | rejected answered read rejects drops | undropped answered read rejects drops =>
      rw [answered]
      dsimp only
      rw [afterRefresh_bad read ((TokenError.rejectsGrant_iff _).mp rejects)]
      simp only [Program.runAlone, same, drops, afterInvalidation]
  | refused answered read accepts =>
      rw [TokenError.rejectsGrant_iff] at accepts
      simp only [answered, afterRefresh, read, if_neg accepts, Program.runAlone]
      rfl
  | unreadable answered read =>
      simp only [answered, afterRefresh, read, Program.runAlone]
      rfl
  | failed answered | panicked answered =>
      rw [answered]
      rfl

theorem exists_exchanges (op : Operation) (p : SilentParameters) (bound : Option String)
    (cached : Credential) (token : Secret) (around : Surroundings) :
    ∃ ending cache, Exchanges op p bound cached token around ending cache := by
  cases answered : around.answer with
  | respond response delay =>
      rcases read : response.tokenResult with failure | tokens | e
      · exact ⟨_, _, .unreadable answered read⟩
      · cases whose : op.renewed p token bound cached tokens with
        | error failure => exact ⟨_, _, .unattributed answered read whose⟩
        | ok account =>
            rcases saves : around.cache.save p.clientId
              (tokens.credential account p.scopes around.now)
              (some (op.note p.clientId account tokens)) with ⟨failure | done, cache⟩
            · exact ⟨_, _, .unsaved answered read whose saves⟩
            · exact ⟨_, _, .granted answered read whose saves⟩
      · by_cases rejects : e.RejectsGrant
        · rcases drops : around.cache.invalidate p.clientId p.account with ⟨failure | done, cache⟩
          · exact ⟨_, _, .undropped answered read rejects drops⟩
          · exact ⟨_, _, .rejected answered read rejects drops⟩
        · exact ⟨_, _, .refused answered read rejects⟩
  | fail failure delay => exact ⟨_, _, .failed answered⟩
  | panic message delay => exact ⟨_, _, .panicked answered⟩

/-- A silent command by itself. -/
def alone (op : Operation) (p : SilentParameters) (bound : Option String)
    (around : Surroundings) : Program.Ending (Except Breakdown Acquisition) × Surroundings :=
  (supervised (op.silent p bound)).runAlone around

theorem alone_of_lookup {found : Lookup}
    (looked : around.cache.store.lookup p.clientId p.account = found) :
    op.alone p bound around = (op.afterLookup p bound found).runAlone around := by
  subst looked
  rw [alone, supervised_silent]
  rfl

/-- Unless it is forced, a command with a token looks at the clock. -/
theorem alone_of_checked {check : Except Panic Bool}
    (held : around.cache.store.get? p.clientId p.account = some cached)
    (tokens : cached.hasRefreshToken = true ∨ cached.hasAccessToken = true)
    (unforced : p.forceRefresh = false)
    (checked : cached.hasValidAccessToken p.scopes around.now = check) :
    op.alone p bound around = (op.afterCheck p bound cached check).runAlone around := by
  subst checked
  rw [alone_of_lookup (Store.lookup_of_held held tokens), afterLookup_of_unforced unforced]
  rfl

theorem alone_of_unserved (held : around.cache.store.get? p.clientId p.account = some cached)
    (tokens : cached.hasRefreshToken = true ∨ cached.hasAccessToken = true)
    (unserved : p.forceRefresh = false →
      cached.hasValidAccessToken p.scopes around.now = .ok false) :
    op.alone p bound around = (op.refreshing p bound cached).runAlone around := by
  cases forced : p.forceRefresh with
  | true => rw [alone_of_lookup (Store.lookup_of_held held tokens), afterLookup, if_pos forced]
  | false => exact alone_of_checked held tokens forced (unserved forced)

theorem refreshing_of_filled (own : cached.refreshToken = some token)
    (filled : token.isFilled = true) :
    op.refreshing p bound cached =
      .post (op.refreshRequest p token bound) (op.afterRefresh p bound cached token) := by
  rw [refreshing, own, Option.filter_some, if_pos filled]

theorem refreshing_of_refreshless (refreshless : cached.hasRefreshToken = false) :
    op.refreshing p bound cached =
      .done (.error (.typed
        (.uiRequired "no_tokens_found" none "no refresh token cached for the account"))) := by
  rw [refreshing, Credential.filter_refreshToken refreshless]
  rfl

variable {result : Program.Ending (Except Breakdown Acquisition) × Surroundings}

theorem Fares.alone_eq (fares : Fares op p bound around result) :
    op.alone p bound around = result := by
  cases fares with
  | unknown missing => exact alone_of_lookup (Store.lookup_of_missing missing)
  | tokenless held accessless refreshless =>
      exact alone_of_lookup (Store.lookup_of_tokenless held accessless refreshless)
  | served held unforced valid =>
      have access := Credential.hasAccessToken_of_ne (by rw [valid]; nofun)
      exact alone_of_checked held (.inr access) unforced valid
  | uncertain held unforced panics =>
      have access := Credential.hasAccessToken_of_ne (by rw [panics]; nofun)
      exact alone_of_checked held (.inr access) unforced panics
  | unredeemable held unserved access refreshless =>
      rw [alone_of_unserved held (.inr access) unserved, refreshing_of_refreshless refreshless]
      rfl
  | redeemed must exchanges =>
      have tokens := Credential.hasRefreshToken_iff.mpr ⟨_, must.own, must.filled⟩
      rw [alone_of_unserved must.held (.inl tokens) must.unserved,
        refreshing_of_filled must.own must.filled]
      exact exchanges.runAlone_eq

/-- Where no access token is handed out, a refresh token decides. -/
theorem exists_fares_of_unserved (op : Operation) (bound : Option String)
    (held : around.cache.store.get? p.clientId p.account = some cached)
    (unserved : p.forceRefresh = false →
      cached.hasValidAccessToken p.scopes around.now = .ok false) :
    ∃ result, Fares op p bound around result := by
  cases refreshes : cached.hasRefreshToken with
  | true =>
      obtain ⟨token, own, filled⟩ := Credential.hasRefreshToken_iff.mp refreshes
      obtain ⟨ending, cache, exchanges⟩ := exists_exchanges op p bound cached token around
      exact ⟨_, .redeemed ⟨held, unserved, own, filled⟩ exchanges⟩
  | false =>
      cases access : cached.hasAccessToken with
      | true => exact ⟨_, .unredeemable held unserved access refreshes⟩
      | false => exact ⟨_, .tokenless held access refreshes⟩

theorem exists_fares (op : Operation) (p : SilentParameters) (bound : Option String)
    (around : Surroundings) : ∃ result, Fares op p bound around result := by
  cases held : around.cache.store.get? p.clientId p.account with
  | none => exact ⟨_, .unknown held⟩
  | some cached =>
      cases forced : p.forceRefresh with
      | true => exact exists_fares_of_unserved op bound held (by simp [forced])
      | false =>
          rcases check : cached.hasValidAccessToken p.scopes around.now with panic | _ | _
          · exact ⟨_, .uncertain held forced check⟩
          · exact exists_fares_of_unserved op bound held fun _ => check
          · exact ⟨_, .served held forced check⟩

theorem alone_eq_iff : op.alone p bound around = result ↔ Fares op p bound around result := by
  refine ⟨?_, Fares.alone_eq⟩
  obtain ⟨other, fares⟩ := exists_fares op p bound around
  rintro rfl
  rwa [fares.alone_eq]

/-- Without a refresh token to be redeemed nothing around the command changes. -/
theorem alone_of_needless (needless : ∀ cached token, ¬ MustRedeem p around cached token) :
    (op.alone p bound around).2 = around := by
  obtain ⟨result, fares⟩ := exists_fares op p bound around
  rw [fares.alone_eq]
  cases fares with
  | unknown | tokenless | served | uncertain | unredeemable => rfl
  | redeemed must => exact absurd must (needless _ _)

theorem MustRedeem.alone_eq (must : MustRedeem p around cached token) (op : Operation)
    (bound : Option String) :
    ∃ ending cache, Exchanges op p bound cached token around ending cache ∧
      op.alone p bound around =
        (ending, { around.posted (op.refreshRequest p token bound) with cache }) := by
  obtain ⟨ending, cache, exchanges⟩ := exists_exchanges op p bound cached token around
  exact ⟨ending, cache, exchanges, (Fares.redeemed must exchanges).alone_eq⟩

theorem refreshRequest_form (op : Operation) (p : SilentParameters) (token : Secret)
    (bound : Option String) :
    (op.refreshRequest p token bound).form =
      [("grant_type", "refresh_token"), ("client_id", p.clientId),
        ("refresh_token", token.expose), ("scope", requestScope p.scopes),
        ("client_info", "1")] := rfl

/-- A cache that can be written changes only when tokens came, or when they are dropped. -/
theorem Exchanges.changed {ending : Program.Ending (Except Breakdown Acquisition)} {cache : Cache}
    (exchanges : Exchanges op p bound cached token around ending cache)
    (writable : around.cache.file.IsWritable) (differs : cache ≠ around.cache) :
    (∃ tokens account,
      ending = .value (.ok
        { local? := some (tokens.handed account p.scopes around.now bound)
          token := some (.success tokens) }) ∧
      cache = (around.cache.save p.clientId (tokens.credential account p.scopes around.now)
        (some (op.note p.clientId account tokens))).2) ∨
    (∃ e : TokenError, e.RejectsGrant ∧ ending = .value (.ok { token := some (.error e) }) ∧
      cache = (around.cache.invalidate p.clientId p.account).2) := by
  cases exchanges with
  | granted answered read whose saves => exact .inl ⟨_, _, rfl, by rw [saves]⟩
  | unsaved answered read whose saves =>
      rw [Cache.save_of_isWritable writable] at saves
      cases saves
  | rejected answered read rejects drops => exact .inr ⟨_, rejects, rfl, by rw [drops]⟩
  | undropped answered read rejects drops =>
      obtain ⟨after, written⟩ := Cache.invalidate_of_isWritable writable p.clientId p.account
      rw [written] at drops
      cases drops
  | unattributed | refused | unreadable | failed | panicked => exact absurd rfl differs

/-- A silent command by itself asks the network and the cache for no more than it must. -/
structure Economical (op : Operation) (p : SilentParameters) (bound : Option String)
    (around : Surroundings) : Prop where
  /-- What the cache holds of the account decides how it goes on, and when a refresh token is
  handed in, so does the answer. -/
  exact (result : Program.Ending (Except Breakdown Acquisition) × Surroundings) :
    op.alone p bound around = result ↔ Fares op p bound around result
  valid (c : Credential) :
    c.hasValidAccessToken p.scopes around.now = .ok true ↔ c.Serves p.scopes around.now
  certain (c : Credential) (panic : Panic) :
    c.hasValidAccessToken p.scopes around.now ≠ .error panic
  /-- A refresh token that has to be redeemed is handed in once. -/
  posted {cached : Credential} {token : Secret} (must : MustRedeem p around cached token) :
    (op.alone p bound around).2.deeds =
      .post (op.refreshRequest p token bound) :: around.deeds
  /-- Where there is none, nothing is asked of the network and nothing is changed. -/
  idle (needless : ∀ cached token, ¬ MustRedeem p around cached token) :
    (op.alone p bound around).2 = around
  endpoint (token : Secret) :
    (op.refreshRequest p token bound).endpoint = op.strategy.config.tokenEndpoint
  form (token : Secret) :
    (op.refreshRequest p token bound).form =
      [("grant_type", "refresh_token"), ("client_id", p.clientId),
        ("refresh_token", token.expose), ("scope", requestScope p.scopes),
        ("client_info", "1")]
  /-- The cache changes by one save, of tokens that came, or by one invalidation, for a refresh
  token that was called bad. -/
  changed (differs : (op.alone p bound around).2.cache ≠ around.cache) :
    (∃ tokens account,
      (op.alone p bound around).1 = .value (.ok
        { local? := some (tokens.handed account p.scopes around.now bound)
          token := some (.success tokens) }) ∧
      (op.alone p bound around).2.cache =
        (around.cache.save p.clientId (tokens.credential account p.scopes around.now)
          (some (op.note p.clientId account tokens))).2) ∨
    (∃ e : TokenError, e.RejectsGrant ∧
      (op.alone p bound around).1 = .value (.ok { token := some (.error e) }) ∧
      (op.alone p bound around).2.cache =
        (around.cache.invalidate p.clientId p.account).2)

theorem economical (op : Operation) (p : SilentParameters) (bound : Option String)
    (room : around.now.toNat + 300000 < UInt64.size)
    (writable : around.cache.file.IsWritable) : Economical op p bound around := by
  constructor
  case exact => exact fun result => alone_eq_iff
  case valid => exact fun c => Credential.hasValidAccessToken_eq_true_iff
  case certain =>
    intro c panic panics
    exact Nat.not_lt_of_le (Credential.hasValidAccessToken_eq_error_iff.mp panics).2.1 room
  case posted =>
    intro cached token must
    obtain ⟨ending, cache, -, same⟩ := must.alone_eq op bound
    rw [same]
    rfl
  case idle => exact alone_of_needless
  case endpoint => exact fun token => rfl
  case form => exact fun token => op.refreshRequest_form p token bound
  case changed =>
    intro differs
    obtain ⟨result, fares⟩ := exists_fares op p bound around
    rw [fares.alone_eq] at differs ⊢
    cases fares with
    | unknown | tokenless | served | uncertain | unredeemable => exact absurd rfl differs
    | redeemed must exchanges => exact exchanges.changed writable differs

end Operation

open Dispatch (renewal oldCredential grant)

/-- A refresh token is cached, and the service has an answer to it. -/
def Surroundings.holding (answer : HttpResponse) : Surroundings where
  now := 1000
  cache := { store := Store.save {} renewal.clientId oldCredential none, file := {} }
  transport := [.respond answer 0]
  supply := { seeds := fun _ => ⟨[], []⟩, token := fun _ => .ofRandom [] }

theorem Surroundings.holding_mustRedeem (answer : HttpResponse) :
    Operation.MustRedeem renewal (.holding answer) oldCredential ⟨"first"⟩ where
  held := Store.get?_save ..
  unserved := nofun
  own := rfl
  filled := by decide

/-- A cached refresh token that is granted. -/
theorem Operation.sample_economical :
    ∃ cached token, MustRedeem renewal (.holding grant) cached token ∧
      Economical service renewal (some "first") (.holding grant) := by
  refine ⟨_, _, Surroundings.holding_mustRedeem grant, ?_⟩
  exact economical service renewal (some "first") (by decide) (by decide)

end TokenAcquisition
