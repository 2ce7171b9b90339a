import TokenAcquisition.Proofs.Credential.Owners
import TokenAcquisition.Proofs.Dispatch.Commands
import TokenAcquisition.Proofs.Dispatch.Redemption

/-!
Which entry a refresh writes to.  A silent command reads the credential of the account that it is
asked for, and writes under the account that it makes of the answer.  That account is in the
environment of the endpoint of the settings, to which every refresh token goes.  But an interactive
command whose redirect names another cloud asks there, and stores an account of that environment.
When such an account is refreshed, the entry that was read stays, with a refresh token that has
been used, and the new tokens are in a second entry.  While there is one cloud only, this cannot
happen.
-/

namespace TokenAcquisition

namespace Credential

/-- With the same home, accounts have the same key just in the same environment. -/
theorem keyOf_eq_keyOf_iff {clientId : String} {a b : Account}
    (home : Text.sameIgnoringCase a.homeAccountId b.homeAccountId = true) :
    keyOf clientId a = keyOf clientId b ↔
      Text.sameIgnoringCase a.environment b.environment = true := by
  rw [Text.sameIgnoringCase_eq_true_iff] at home ⊢
  simp only [keyOf, key, Text.lowerAscii_append, home]
  constructor
  · intro same
    have lists := congrArg String.toList same
    simp only [String.toList_append, List.append_assoc] at lists
    have rest := List.append_cancel_left (List.append_cancel_left lists)
    exact String.toList_inj.mp (List.append_cancel_right rest)
  · intro same
    rw [same]

end Credential

namespace Strategy

variable {s : Strategy} {tokens : TokenResponse} {account : Account}

/-- The account of an answer is the one that its client info names, where it was asked for. -/
theorem account_cases {endpoint : Url} (made : s.account endpoint tokens = .ok account) :
    ∃ raw info, tokens.clientInfo = some raw ∧ ClientInfo.parse raw = .ok info ∧
      account.homeAccountId = info.homeAccountId ∧
      account.environment = s.cacheHost endpoint := by
  unfold Strategy.account at made
  split at made
  next idToken _ =>
    split at made
    next raw clientInfo =>
      cases parsed : IdToken.parse idToken with
      | error failure =>
          rw [parsed] at made
          cases made
      | ok token =>
          rw [parsed] at made
          cases known : ClientInfo.parse raw with
          | error failure =>
              rw [known] at made
              cases made
          | ok info =>
              rw [known] at made
              obtain rfl := Except.ok.inj made
              exact ⟨raw, info, clientInfo, known, rfl, rfl⟩
    next => cases made
  next => cases made

/-- While there is one cloud only, codes are redeemed at the endpoint of the settings. -/
theorem endpoint_of_tokenRequest {request : AuthorizationRequest}
    {response : AuthorizationResponse} {bound : Option String} {tokenRequest : TokenRequest}
    (single : s.config.multipleClouds = false)
    (made : s.tokenRequest request response bound = .ok tokenRequest) :
    tokenRequest.endpoint = s.config.tokenEndpoint := by
  unfold Strategy.tokenRequest endpointFor at made
  simp only [single] at made
  obtain rfl := Except.ok.inj made
  rfl

/-- A code is redeemed at the endpoint of the cloud that it came from. -/
theorem exists_tokenRequest (request : AuthorizationRequest) {response : AuthorizationResponse}
    (bound : Option String) {endpoint : Url} (derived : s.endpointFor response = .ok endpoint) :
    ∃ tokenRequest, s.tokenRequest request response bound = .ok tokenRequest ∧
      tokenRequest.endpoint = endpoint := by
  rw [tokenRequest, derived]
  exact ⟨_, rfl, rfl⟩

end Strategy

/-- What the program of a command with some strategy is. -/
def IsCommandOf (strategy : Strategy) (program : Program (Except Breakdown Acquisition)) : Prop :=
  ∃ (op : Operation) (command : Command) (bound : Option String), op.strategy = strategy ∧
    command.program op bound = program

/-! ### What fills a store -/

namespace Store

variable {strategy : Strategy} {s t : Store} {clientId : String} {account : Account}
  {c : Credential}

/-- A store is as the commands of a strategy fill it: each credential is under a key of its
account, and while there is one cloud only all of them are in its environment. -/
structure IsFilledBy (strategy : Strategy) (s : Store) : Prop where
  keyed : ∀ {key c}, s.credentials.find? key = some c →
    ∃ clientId, key = Credential.keyOf clientId c.account
  single : strategy.config.multipleClouds = false → ∀ {key c},
    s.credentials.find? key = some c →
    c.account.environment = strategy.cacheHost strategy.config.tokenEndpoint

theorem isFilledBy_of_empty (empty : s.credentials = .empty) : s.IsFilledBy strategy := by
  constructor <;> simp [empty, SortedMap.find?, SortedMap.empty]

namespace IsFilledBy

theorem save (filled : s.IsFilledBy strategy) (metadata : Option AppMetadata)
    (home : strategy.config.multipleClouds = false →
      c.account.environment = strategy.cacheHost strategy.config.tokenEndpoint) :
    (s.save clientId c metadata).IsFilledBy strategy := by
  constructor
  · intro key other found
    rw [find?_save] at found
    split at found
    next here =>
      obtain rfl := Option.some.inj found
      exact ⟨clientId, here⟩
    next => exact filled.keyed found
  · intro single key other found
    rw [find?_save] at found
    split at found
    next =>
      obtain rfl := Option.some.inj found
      exact home single
    next => exact filled.single single found

theorem invalidate? (filled : s.IsFilledBy strategy)
    (dropped : s.invalidate? clientId account = some t) : t.IsFilledBy strategy := by
  have before {key : String} {other : Credential} (found : t.credentials.find? key = some other) :
      ∃ held, s.credentials.find? key = some held ∧ held.account = other.account := by
    rw [find?_of_invalidate? dropped] at found
    split at found
    next here =>
      obtain ⟨held, stored, rfl⟩ := Option.map_eq_some_iff.mp found
      exact ⟨held, here ▸ stored, rfl⟩
    next => exact ⟨other, found, rfl⟩
  constructor
  · intro key other found
    obtain ⟨held, stored, same⟩ := before found
    exact same ▸ filled.keyed stored
  · intro single key other found
    obtain ⟨held, stored, same⟩ := before found
    exact same ▸ filled.single single stored

end IsFilledBy

end Store

/-- Whatever a command makes of such a store is such a store. -/
theorem IsCommandOf.preserves {strategy : Strategy}
    {program : Program (Except Breakdown Acquisition)} (own : IsCommandOf strategy program) :
    program.Preserves (Store.IsFilledBy strategy) := by
  obtain ⟨op, command, bound, rfl, rfl⟩ := own
  cases command with
  | interactive p =>
      refine Operation.preserves_interactive ?_
      intro request response tokenRequest tokens account asked made now store filled
      refine filled.save _ fun single => ?_
      obtain ⟨_, _, -, -, -, environment⟩ := Strategy.account_cases made
      rw [Strategy.endpoint_of_tokenRequest single asked] at environment
      exact environment
  | silent p =>
      refine Operation.preserves_silent (fun store dropped filled => filled.invalidate?) ?_
      intro seen cached token tokens account known found whose now store filled
      refine filled.save _ fun single => ?_
      unfold Operation.renewed at whose
      split at whose
      next =>
        obtain ⟨_, _, -, -, -, environment⟩ := Strategy.account_cases whose
        exact environment
      next =>
        obtain rfl := Except.ok.inj whose
        have home := known.single single (Store.get?_of_lookup found)
        exact home

/-! ### What a refresh makes of a store -/

namespace Store

variable {s : Store} {clientId : String} {account : Account} {c cached : Credential}
  {token : Secret} {tokens : TokenResponse} {metadata : Option AppMetadata}

/-- The credential of an account has given way to one with new tokens, which keeps the refresh
token if there is no new one, and there are entries under the same keys as before. -/
structure Replaces (clientId : String) (account : Account) (token : Secret)
    (tokens : TokenResponse) (s t : Store) : Prop where
  renewed : ∃ c, t.get? clientId account = some c ∧ c.accessToken = some ⟨tokens.accessToken⟩ ∧
    c.refreshToken = (tokens.refreshToken.map Secret.mk <|> some token)
  keys : ∀ key, (t.credentials.find? key).isSome = (s.credentials.find? key).isSome

/-- The credential of an account has stayed, with a refresh token that was redeemed, and the new
tokens are in an entry beside it. -/
structure Doubles (clientId : String) (account : Account) (token : Secret)
    (tokens : TokenResponse) (s t : Store) : Prop where
  stays : t.get? clientId account = s.get? clientId account
  redeemed : ∃ c, t.get? clientId account = some c ∧ c.refreshToken = some token
  beside : ∃ other c, Credential.keyOf clientId other ≠ Credential.keyOf clientId account ∧
    t.get? clientId other = some c ∧ c.accessToken = some ⟨tokens.accessToken⟩

/-- A saved credential replaces the one with its key, and no other. -/
theorem save_replaces (held : s.get? clientId account = some cached)
    (own : cached.refreshToken = some token) (new : c.accessToken = some ⟨tokens.accessToken⟩)
    (more : c.refreshToken = tokens.refreshToken.map Secret.mk)
    (same : Credential.keyOf clientId c.account = Credential.keyOf clientId account) :
    Replaces clientId account token tokens s (s.save clientId c metadata) := by
  constructor
  · have saved := s.get?_save clientId c metadata
    rw [get?, get?, same, more, show s.credentials.find? _ = some cached from held,
      Option.bind_some, own] at saved
    exact ⟨_, saved, new, rfl⟩
  · intro key
    rw [find?_save]
    split
    next here =>
      have stored : s.credentials.find? key = some cached := by
        rw [here, same]
        exact held
      rw [stored]
      rfl
    next => rfl

theorem save_doubles (held : s.get? clientId account = some cached)
    (own : cached.refreshToken = some token) (new : c.accessToken = some ⟨tokens.accessToken⟩)
    (different : Credential.keyOf clientId c.account ≠ Credential.keyOf clientId account) :
    Doubles clientId account token tokens s (s.save clientId c metadata) := by
  have stays : (s.save clientId c metadata).get? clientId account = s.get? clientId account := by
    rw [get?, find?_save, if_neg (Ne.symm different)]
    rfl
  exact ⟨stays, ⟨cached, stays.trans held, own⟩, c.account, _, different, s.get?_save .., new⟩

end Store

namespace TokenResponse

/-- The answer has an id token, and a client info that names the home of an account. -/
def Names (tokens : TokenResponse) (account : Account) : Prop :=
  tokens.idToken.isSome ∧ ∃ raw info, tokens.clientInfo = some raw ∧
    ClientInfo.parse raw = .ok info ∧
    Text.sameIgnoringCase info.homeAccountId account.homeAccountId = true

/-- The answer does not tell whose the tokens are. -/
def IsAnonymous (tokens : TokenResponse) : Prop :=
  tokens.idToken = none ∨ tokens.clientInfo = none

end TokenResponse

/-- What becomes of the entry that a silent command has read, when it saves new tokens for its
refresh token and the entry is as it was. -/
structure Renewal (strategy : Strategy) (p : SilentParameters) (cached : Credential)
    (token : Secret) (tokens : TokenResponse) (before after : Store) : Prop where
  /-- When the account is named, the environment of the endpoint of the settings decides. -/
  named : tokens.Names p.account →
    if Text.sameIgnoringCase (strategy.cacheHost strategy.config.tokenEndpoint)
        p.account.environment then
      Store.Replaces p.clientId p.account token tokens before after
    else Store.Doubles p.clientId p.account token tokens before after
  /-- When it is not, the account stays. -/
  anonymous : tokens.IsAnonymous →
    if Credential.keyOf p.clientId cached.account = Credential.keyOf p.clientId p.account then
      Store.Replaces p.clientId p.account token tokens before after
    else Store.Doubles p.clientId p.account token tokens before after
  /-- The entry is of the account that was asked for, unless hyphens confuse their keys. -/
  alike : (Owner.of p.clientId cached.account).hyphens = (Owner.of p.clientId p.account).hyphens →
    Credential.keyOf p.clientId cached.account = Credential.keyOf p.clientId p.account
  /-- While there is one cloud only, the entry is replaced. -/
  single : strategy.config.multipleClouds = false →
    (Owner.of p.clientId cached.account).hyphens = (Owner.of p.clientId p.account).hyphens →
    tokens.Names p.account ∨ tokens.IsAnonymous →
    Store.Replaces p.clientId p.account token tokens before after

variable {strategy : Strategy} {op : Operation} {p : SilentParameters} {bound : Option String}
  {cached : Credential} {token : Secret} {tokens : TokenResponse} {account : Account}

/-- The account of new tokens has the key of the old one if it is in its environment. -/
theorem Operation.keyOf_renewed (whose : op.renewed p token bound cached tokens = .ok account)
    (names : tokens.Names p.account) :
    Credential.keyOf p.clientId account = Credential.keyOf p.clientId p.account ↔
      Text.sameIgnoringCase (op.strategy.cacheHost op.strategy.config.tokenEndpoint)
        p.account.environment = true := by
  obtain ⟨identified, raw, info, clientInfo, known, same⟩ := names
  rw [renewed, identified, clientInfo] at whose
  obtain ⟨raw', info', clientInfo', known', home, environment⟩ := Strategy.account_cases whose
  obtain rfl := Option.some.inj (clientInfo.symm.trans clientInfo')
  obtain rfl := Except.ok.inj (known.symm.trans known')
  rw [← home] at same
  rw [Credential.keyOf_eq_keyOf_iff same, environment]
  rfl

theorem Operation.renewed_of_isAnonymous
    (whose : op.renewed p token bound cached tokens = .ok account)
    (anonymous : tokens.IsAnonymous) : account = cached.account := by
  rw [renewed] at whose
  split at whose
  next both =>
    rcases anonymous with none | none <;> simp [none] at both
  next => exact (Except.ok.inj whose).symm

/-- Whoever renews the tokens of an entry that is still there replaces it, or doubles it. -/
theorem Renewal.of_save {before : Store} {now : UInt64} {metadata : Option AppMetadata}
    {seen : Store} (filled : seen.IsFilledBy op.strategy)
    (found : seen.get? p.clientId p.account = some cached)
    (held : before.get? p.clientId p.account = some cached)
    (own : cached.refreshToken = some token)
    (whose : op.renewed p token bound cached tokens = .ok account) :
    Renewal op.strategy p cached token tokens before
      (before.save p.clientId (tokens.credential account p.scopes now) metadata) := by
  have replaces
      (same : Credential.keyOf p.clientId account = Credential.keyOf p.clientId p.account) :
      Store.Replaces p.clientId p.account token tokens before
        (before.save p.clientId (tokens.credential account p.scopes now) metadata) :=
    Store.save_replaces held own rfl rfl same
  have doubles
      (different : Credential.keyOf p.clientId account ≠ Credential.keyOf p.clientId p.account) :
      Store.Doubles p.clientId p.account token tokens before
        (before.save p.clientId (tokens.credential account p.scopes now) metadata) :=
    Store.save_doubles held own rfl different
  -- Whoever saved the entry that was read had an account of the same key.
  obtain ⟨clientId, keyed⟩ := filled.keyed found
  have owners (alike : (Owner.of p.clientId cached.account).hyphens =
      (Owner.of p.clientId p.account).hyphens) :
      (Owner.of p.clientId p.account).Same (Owner.of clientId cached.account) := by
    have counts : (Owner.of p.clientId p.account).hyphens =
        (Owner.of clientId cached.account).hyphens := alike.symm
    exact (Owner.key_eq_key_iff counts).mp keyed
  have alikeKey (alike : (Owner.of p.clientId cached.account).hyphens =
      (Owner.of p.clientId p.account).hyphens) :
      Credential.keyOf p.clientId cached.account = Credential.keyOf p.clientId p.account := by
    obtain ⟨-, home, environment⟩ := owners alike
    rw [eq_comm, Credential.keyOf_eq_keyOf_iff home]
    exact environment
  have anonymous (unnamed : tokens.IsAnonymous) : account = cached.account :=
    Operation.renewed_of_isAnonymous whose unnamed
  constructor
  · intro names
    split
    next same => exact replaces ((Operation.keyOf_renewed whose names).mpr same)
    next different =>
      exact doubles fun same => different ((Operation.keyOf_renewed whose names).mp same)
  · intro unnamed
    obtain rfl := anonymous unnamed
    split
    next same => exact replaces same
    next different => exact doubles different
  · exact alikeKey
  · rintro single alike (names | unnamed)
    · refine replaces ((Operation.keyOf_renewed whose names).mpr ?_)
      obtain ⟨-, -, environment⟩ := owners alike
      rw [Text.sameIgnoringCase_eq_true_iff] at environment ⊢
      rw [← filled.single single found]
      exact environment.symm
    · obtain rfl := anonymous unnamed
      exact replaces (alikeKey alike)

namespace Dispatch

variable {s t u looked : System} {n : Nat} {job : Job} {acquisition : Acquisition}
  {answer : Lookup}

/-- While a command is told what the cache holds, nothing is being written. -/
theorem Gets.write_eq_none {clientId : String} {earlier : List Dealing} (orderly : looked.Orderly)
    (gets : Gets n s earlier (.lookedUp clientId account answer) looked t) :
    looked.dispatcher.write = .none := by
  by_contra busy
  obtain ⟨m, own, program, held, found, progress, change⟩ := orderly.writer busy
  obtain ⟨job, program', next, found', progress', step⟩ := gets.exists_program
  obtain rfl := Option.some.inj (held.symm.trans gets.gives.1)
  obtain rfl := Option.some.inj (found.symm.trans found')
  obtain rfl := Progress.running.inj (progress.symm.trans progress')
  cases step
  cases change

/-- How a silent command has come to new tokens: what it has looked up, what it has saved, and
what this has made of the store when nobody has touched the entry in between. -/
structure Refreshes (op : Operation) (p : SilentParameters) (bound : Option String)
    (tokens : TokenResponse) (n : Nat) (start u : System) (cached : Credential) (token : Secret)
    (before after : System) : Prop where
  looked : ∃ looked,
    Gets n start [] (.lookedUp p.clientId p.account (.found cached)) looked u ∧
    looked.RunOf (IsCommandOf op.strategy) before
  granted : ∃ account granted, op.Granted p bound cached token tokens account granted
  saved : ∃ credential metadata next,
    before.Takes n (.save p.clientId credential metadata next) after
  rest : after.RunOf (IsCommandOf op.strategy) u
  renewal : before.store.get? p.clientId p.account = some cached →
    Renewal op.strategy p cached token tokens before.store after.store

/-- In a store that commands with a strategy have filled, whoever has redeemed a refresh token has
replaced the entry that it was in, or doubled it. -/
theorem System.RunOf.refreshes (fresh : s.IsFresh) (free : s.dispatcher.lock = none)
    (idle : s.dispatcher.write = .none) (empty : s.store.credentials = .empty)
    (run : s.RunOf (IsCommandOf op.strategy) t) (p : SilentParameters) (bound : Option String)
    (correlationId : String) (reply : Nat)
    (further : (t.submitted .silent correlationId reply
      (Operation.supervised (op.silent p bound))).RunOf (IsCommandOf op.strategy) u)
    (found : u.dispatcher.jobs[t.dispatcher.jobs.length]? = some job)
    (ended : job.progress = .running (.done (.ok acquisition)))
    (success : acquisition.token = some (.success tokens)) :
    ∃ cached token before after,
      Refreshes op p bound tokens t.dispatcher.jobs.length
        (t.submitted .silent correlationId reply (Operation.supervised (op.silent p bound))) u
        cached token before after := by
  obtain ⟨dealings, deals, along⟩ := further.exists_path found ended
  obtain ⟨cached, account, now, looks, renewal, rfl, -, renews⟩ :=
    Operation.silent_ended along success
  obtain ⟨token, granted, grants, rfl⟩ := renews.granted
  -- The state in which it is told that the tokens are saved, and before it the one of its lookup.
  have split : Dealing.lookedUp p.clientId p.account (.found cached) :: (looks ++ (granted ++
      [.now now, op.saved p.clientId account tokens p.scopes now])) =
      ([] ++ Dealing.lookedUp p.clientId p.account (.found cached) ::
        (looks ++ granted ++ [.now now])) ++
      op.saved p.clientId account tokens p.scopes now :: [] := by simp
  rw [split] at deals
  obtain ⟨saved, before, saves, rest⟩ := deals.exists_gets
  obtain ⟨looked, early, gets, between⟩ := before.exists_gets
  have submitted := run.move (.submit .silent correlationId reply ⟨op, .silent p, bound, rfl, rfl⟩)
  have reached := submitted.trans early.runOf
  obtain ⟨_, whole⟩ := reached.exists_run
  have orderly := (System.Orderly.of_free free idle).run whole
  obtain ⟨taken, after, next, onward, takes, late, -, -⟩ :=
    between.exists_saved orderly (gets.write_eq_none orderly) saves
  obtain ⟨_, onwards⟩ := rest.exists_run
  refine ⟨cached, token, taken, after, ⟨looked, gets.run onwards, onward⟩,
    ⟨account, granted, grants⟩, ⟨_, _, next, takes⟩, late.trans rest, fun held => ?_⟩
  have keeps : looked.Keeps (Store.IsFilledBy op.strategy) := by
    refine (reached.mono IsCommandOf.preserves).keeps ⟨Store.isFilledBy_of_empty empty, ?_⟩
    intro m job there
    simp [fresh.jobs] at there
  have stored := Store.get?_of_lookup gets.gives.2.symm
  rw [← Option.some.inj takes.changed?]
  exact .of_save keeps.store stored held grants.own grants.whose

/-- Work for a service that may send users to other clouds. -/
def roaming : Operation :=
  { service with
    strategy :=
      { service.strategy with
        config := { service.strategy.config with multipleClouds := true } } }

/-- Tokens for a user, with a refresh token or without. -/
def userTokens (accessToken : String) (refreshToken : Option String) : TokenResponse :=
  { accessToken
    refreshToken
    idToken := some "h.e30"
    clientInfo := some "eyJ1aWQiOiJ1c2VyIiwidXRpZCI6ImhvbWUifQ" }

/-- An answer with the text of some of its members. -/
def userAnswer (members : String) : HttpResponse :=
  { status := 200
    body := "\x7b" ++ members ++ ",\"id_token\":\"h.e30\",\"client_info\":" ++
      "\"eyJ1aWQiOiJ1c2VyIiwidXRpZCI6ImhvbWUifQ\"\x7d" }

/-- The account that they are for. -/
def userIn (environment : String) : Account :=
  { homeAccountId := "user.home", environment }

/-- The request of the user who was sent to another cloud. -/
def returning : SilentParameters :=
  { clientId := "app", scopes := [], account := userIn "other.example", forceRefresh := true }

/-- A user comes back from another cloud with a code, and then tokens are refreshed. -/
theorem exists_returned :
    ∃ t u result first second,
      (System.drawing drawnSeeds).RunOf (IsCommandOf roaming.strategy) t ∧
      (t.submitted .silent "second" 0
        (Operation.supervised (roaming.silent returning (some "second")))).RunOf
          (IsCommandOf roaming.strategy) u ∧
      Stands t.dispatcher.jobs.length
        (.done (.ok { local? := some result, token := some (.success (userTokens "a2" none)) }))
        u ∧
      t.store = Store.save {} "app"
        ((userTokens "a1" (some "r1")).credential (userIn "other.example") [] 0) first ∧
      u.store = t.store.save "app"
        ((userTokens "a2" none).credential (userIn "login.example") [] 0) second := by
  let q : InteractiveParameters := { clientId := "app", redirectUri := "app://done" }
  let response : AuthorizationResponse :=
    { code := "c", state := "AA", cloudHost := some "other.example" }
  let completion : Completion :=
    { code := .complete
      payload :=
        { finalUrl := some
            "app://done?code=c&state=AA&cloud_instance_host_name=other.example" } }
  have derived : authorityEndpoint (page "/common") authorizePath =
      .ok (page "/common/oauth2/v2.0/authorize") := by decide +kernel
  obtain ⟨request, built, state⟩ : ∃ request,
      (roaming.authorizationDraft q).build drawnSeeds (some "first") = .ok request ∧
        request.state = drawnSeeds.stateText := by
    rw [Operation.build_eq, show roaming.strategy.config.authority = page "/common" from rfl,
      derived]
    exact ⟨_, rfl, rfl⟩
  have succeeded : completion.result request.state = .ok (.success response) := by
    rw [state]
    decide +kernel
  -- The code is redeemed in the cloud that it came from, and the account is one of this cloud.
  have elsewhere : roaming.strategy.endpointFor response =
      .ok { page "/common/token" with authority := some { host := "other.example" } } := by
    decide +kernel
  obtain ⟨tokenRequest, asked, endpoint⟩ := Strategy.exists_tokenRequest request (some "first")
    elsewhere
  have there : roaming.strategy.account tokenRequest.endpoint (userTokens "a1" (some "r1")) =
      .ok (userIn "other.example") := by
    rw [endpoint]
    decide +kernel
  have first : IsCommandOf roaming.strategy
      (Operation.supervised (roaming.interactive q (some "first"))) :=
    ⟨roaming, .interactive q, some "first", rfl, rfl⟩
  have granted : (userAnswer "\"access_token\":\"a1\",\"refresh_token\":\"r1\"").tokenResult =
      .ok (.success (userTokens "a1" (some "r1"))) :=
    HttpResponse.tokenResult_of_read (by decide) (by decide +kernel)
  have renewed : (userAnswer "\"access_token\":\"a2\"").tokenResult =
      .ok (.success (userTokens "a2" none)) :=
    HttpResponse.tokenResult_of_read (by decide) (by decide +kernel)
  obtain ⟨t, result, before, stands, stored, answers⟩ := System.exists_signedIn first built
    succeeded asked granted there 0 [.respond (userAnswer "\"access_token\":\"a2\"") 0] 0
  -- The refresh token is handed in at the endpoint of the settings.
  have here : roaming.renewed returning ⟨"r1"⟩ (some "second")
      ((userTokens "a1" (some "r1")).credential (userIn "other.example") [] 0)
      (userTokens "a2" none) = .ok (userIn "login.example") := by decide +kernel
  obtain ⟨begun, starts, ready, same, waiting⟩ := System.exists_begun
    (IsCommandOf roaming.strategy) stands.free stands.idle stands.writable "second" 0
    (Operation.supervised (roaming.silent returning (some "second")))
  have found : begun.store.lookup returning.clientId returning.account =
      .found ((userTokens "a1" (some "r1")).credential (userIn "other.example") [] 0) := by
    rw [same, stored]
    exact Store.lookup_save {} _ _ rfl (by decide)
  obtain ⟨u, renews⟩ := ready.renews rfl found rfl (by decide) (waiting.trans answers) renewed
    here 0
  have last := renews.store
  rw [same] at last
  exact ⟨t, u, _, _, _, before, starts.trans (renews.runOf ready), renews.stands, stored, last⟩

/-- A silent command that refreshes tokens. -/
theorem sample_refreshes :
    ∃ (t u : System) (cached : Credential) (token : Secret) (before after : System),
      Refreshes roaming returning (some "second") (userTokens "a2" none)
        t.dispatcher.jobs.length
        (t.submitted .silent "second" 0
          (Operation.supervised (roaming.silent returning (some "second")))) u cached token before
        after := by
  obtain ⟨t, u, result, first, second, run, further, stands, -, -⟩ := exists_returned
  obtain ⟨job, found, ended, -⟩ := stands.exists_job
  exact ⟨t, u, System.RunOf.refreshes (System.drawing_isFresh drawnSeeds) rfl rfl rfl run returning
    (some "second") "second" 0 further found ended rfl⟩

theorem userTokens_names (accessToken : String) (refreshToken : Option String)
    (environment : String) : (userTokens accessToken refreshToken).Names (userIn environment) := by
  refine ⟨rfl, _, { uid := "user", utid := "home" }, rfl, by decide +kernel, ?_⟩
  rw [Text.sameIgnoringCase_eq_true_iff]
  rfl

/-- After a refresh, a user who came from another cloud is there twice: with the tokens of before,
and with the new access token, for which no refresh token was kept. -/
theorem returned_doubled :
    ∃ t u result first second,
      (System.drawing drawnSeeds).RunOf (IsCommandOf roaming.strategy) t ∧
      (t.submitted .silent "second" 0
        (Operation.supervised (roaming.silent returning (some "second")))).RunOf
          (IsCommandOf roaming.strategy) u ∧
      Stands t.dispatcher.jobs.length
        (.done (.ok { local? := some result, token := some (.success (userTokens "a2" none)) }))
        u ∧
      (userTokens "a2" none).Names returning.account ∧
      t.store = Store.save {} "app"
        ((userTokens "a1" (some "r1")).credential returning.account [] 0) first ∧
      u.store = t.store.save "app"
        ((userTokens "a2" none).credential (userIn "login.example") [] 0) second ∧
      Store.Doubles "app" returning.account ⟨"r1"⟩ (userTokens "a2" none) t.store u.store ∧
      (∃ c, u.store.get? "app" (userIn "login.example") = some c ∧ c.refreshToken = none) ∧
      ¬ Store.Replaces "app" returning.account ⟨"r1"⟩ (userTokens "a2" none) t.store
        u.store := by
  obtain ⟨t, u, result, first, second, run, further, stands, stored, saved⟩ := exists_returned
  let old := (userTokens "a1" (some "r1")).credential returning.account [] 0
  let new := (userTokens "a2" none).credential (userIn "login.example") [] 0
  have different : Credential.keyOf "app" (userIn "login.example") ≠
      Credential.keyOf "app" returning.account := by decide
  have held : t.store.get? "app" returning.account = some old := by
    rw [stored]
    exact Store.get?_save {} "app" old first
  have unknown : t.store.get? "app" (userIn "login.example") = none := by
    rw [stored, Store.get?, Store.find?_save]
    exact (if_neg different).trans rfl
  have beside : u.store.get? "app" (userIn "login.example") = some new := by
    have kept := t.store.get?_save "app" new second
    rw [show t.store.get? "app" new.account = none from unknown] at kept
    rw [saved]
    exact kept
  have doubles : Store.Doubles "app" returning.account ⟨"r1"⟩ (userTokens "a2" none) t.store
      u.store := by
    rw [saved]
    exact Store.save_doubles held rfl rfl different
  refine ⟨t, u, result, first, second, run, further, stands, userTokens_names "a2" none _, stored,
    saved, doubles, ⟨new, beside, rfl⟩, fun replaces => ?_⟩
  obtain ⟨c, found, own, -⟩ := replaces.renewed
  rw [doubles.stays, held] at found
  obtain rfl := Option.some.inj found
  exact absurd own (by decide)

end Dispatch

end TokenAcquisition
