import TokenAcquisition.Credential.File
import TokenAcquisition.Proofs.Authorization.Exchange
import TokenAcquisition.Proofs.Program.Keeping

/-!
Whose correlation id work carries.  What a command does under an id puts this id on all that it
launches, posts and comes to, whatever it is answered.  It ends with no failure that has an id on
it, unless an answer was one.
-/

namespace TokenAcquisition

namespace Failure

variable {id : String} {failure : Failure}

/-- Nobody has stamped the failure. -/
def IsBare (failure : Failure) : Prop :=
  failure.correlationId = none

/-- It is of this side of the wire, and nobody has stamped it. -/
def IsClient (failure : Failure) : Prop :=
  ∃ code message, failure = .client code message

theorem IsClient.isBare (own : failure.IsClient) : failure.IsBare := by
  obtain ⟨code, message, rfl⟩ := own
  rfl

/-- A failure that has an id on it keeps it. -/
theorem stamped_of_ne_none (stamp : failure.correlationId ≠ none) (id : Option String) :
    failure.stamped id = failure := by
  obtain ⟨cause, _ | other⟩ := failure
  · exact absurd rfl stamp
  · rfl

theorem stamped_cases (failure : Failure) (id : String) :
    (failure.stamped (some id)).correlationId = some id ∨ failure.stamped (some id) = failure := by
  by_cases bare : failure.correlationId = none
  · exact .inl (by rw [stamped, bare]; rfl)
  · exact .inr (stamped_of_ne_none bare _)

theorem IsBare.stamped (bare : failure.IsBare) :
    (failure.stamped (some id)).correlationId = some id := by
  rw [Failure.stamped, bare]
  rfl

theorem correlationId_stamped_ne_none (failure : Failure) (id : String) :
    (failure.stamped (some id)).correlationId ≠ none := by
  cases stamp : failure.correlationId <;> simp [Failure.stamped, stamp]

end Failure

/-- If it is a failure, it is one of a kind. -/
def FailsWith {α : Type} (kind : Failure → Prop) (answer : Except Failure α) : Prop :=
  ∀ failure, answer = .error failure → kind failure

namespace FailsWith

variable {α β : Type} {kind kind' : Failure → Prop} {answer : Except Failure α}

theorem ok (value : α) : FailsWith kind (.ok value) := by
  intro failure failed
  cases failed

theorem error {failure : Failure} (own : kind failure) :
    FailsWith kind (.error failure : Except Failure α) := by
  intro other failed
  cases failed
  exact own

theorem client (code message : String) :
    FailsWith Failure.IsBare (.error (.client code message) : Except Failure α) :=
  error rfl

theorem ofClient (code message : String) :
    FailsWith Failure.IsClient (.error (.client code message) : Except Failure α) :=
  error ⟨code, message, rfl⟩

theorem bare (fails : FailsWith Failure.IsClient answer) : FailsWith Failure.IsBare answer :=
  fun failure failed => (fails failure failed).isBare

theorem bind {next : α → Except Failure β} (fails : FailsWith kind answer)
    (later : ∀ value, FailsWith kind (next value)) : FailsWith kind (answer >>= next) := by
  cases answer with
  | error failure => exact error (fails failure rfl)
  | ok value => exact later value

theorem map (fails : FailsWith kind answer) (f : α → β) : FailsWith kind (answer.map f) := by
  cases answer with
  | error failure => exact error (fails failure rfl)
  | ok value => exact ok (f value)

end FailsWith

/-- If it is a failure, nobody has stamped it. -/
abbrev FailsBare {α : Type} (answer : Except Failure α) : Prop :=
  FailsWith Failure.IsBare answer

/-- If it is a failure, it is of this side of the wire. -/
abbrev FailsClient {α : Type} (answer : Except Failure α) : Prop :=
  FailsWith Failure.IsClient answer

/-- A result of work has the id on it if it has tokens, and is otherwise a failure of a kind if it
is one. -/
def EndsWith (kind : Failure → Prop) (id : String) : Except Breakdown Acquisition → Prop
  | .ok a => ∀ authentication, a.local? = some authentication →
      authentication.correlationId = some id
  | .error (.typed failure) => kind failure
  | .error _ => True

theorem Acquisition.isBare_failure (a : Acquisition) : a.failure.IsBare := by
  unfold failure
  split
  next => rfl
  next => rfl
  next =>
    split
    next => split <;> rfl
    next => rfl

namespace Outcome

variable {kind : Failure → Prop} {id : String} {work : Except Breakdown Acquisition}
  {failure : Failure} {authentication : Authentication}

theorem cases_of_error (told : ofWork (some id) work = .error failure) :
    (∃ breakdown, work = .error breakdown ∧ failure = breakdown.failure.stamped (some id)) ∨
      ∃ a, work = .ok a ∧ failure = a.failure.stamped (some id) := by
  unfold ofWork at told
  split at told
  next breakdown => exact .inl ⟨breakdown, rfl, (Outcome.error.inj told).symm⟩
  next a =>
    split at told
    next => cases told
    next =>
      split at told
      next => cases told
      next => exact .inr ⟨a, rfl, (Outcome.error.inj told).symm⟩

theorem stamped_of_error (told : ofWork (some id) work = .error failure) :
    failure.correlationId ≠ none := by
  rcases cases_of_error told with ⟨_, -, rfl⟩ | ⟨_, -, rfl⟩
  · exact Failure.correlationId_stamped_ne_none _ id
  · exact Failure.correlationId_stamped_ne_none _ id

/-- A caller is told of a failure under the id, or of what the work ended with. -/
theorem own_of_error (ends : EndsWith kind id work)
    (told : ofWork (some id) work = .error failure) :
    failure.correlationId = some id ∨ kind failure := by
  rcases cases_of_error told with ⟨breakdown, rfl, rfl⟩ | ⟨a, -, rfl⟩
  · cases breakdown with
    | typed failure =>
        rcases failure.stamped_cases id with own | same
        · exact .inl own
        · exact .inr (same.symm ▸ ends)
    | foreign | panic => exact .inl rfl
  · exact .inl a.isBare_failure.stamped

theorem own_of_success (ends : EndsWith kind id work)
    (told : ofWork (some id) work = .success authentication) :
    authentication.correlationId = some id := by
  unfold ofWork at told
  split at told
  next => cases told
  next a =>
    split at told
    next got => exact ends _ (Outcome.success.inj told ▸ got)
    next => split at told <;> cases told

end Outcome

/-! ### Failures that arise on this side of the wire -/

theorem failsBare_authorityEndpoint (authority : Url) (path : String) :
    FailsBare (authorityEndpoint authority path) := by
  unfold authorityEndpoint
  dsimp only
  split
  next => exact .ok _
  next => exact .client _ _

theorem failsBare_build (op : Operation) (p : InteractiveParameters) (seeds : Seeds)
    (bound : Option String) : FailsBare ((op.authorizationDraft p).build seeds bound) := by
  rw [Operation.build_eq]
  exact FailsWith.map (failsBare_authorityEndpoint _ _) _

theorem HttpResponse.failsClient_tokenResult (response : HttpResponse) :
    FailsClient response.tokenResult := by
  unfold tokenResult
  split
  next => exact .ok _
  next =>
    split
    next => exact .ok _
    next => exact .ofClient _ _

theorem IdToken.failsClient_parse (raw : String) : FailsClient (IdToken.parse raw) := by
  unfold IdToken.parse
  split
  next => exact .ofClient _ _
  next =>
    split
    next => exact .ok _
    next => exact .ofClient _ _

theorem ClientInfo.failsClient_parse (raw : String) : FailsClient (ClientInfo.parse raw) := by
  unfold ClientInfo.parse
  split
  next => exact .ok _
  next => exact .ofClient _ _

theorem Cache.failsClient_replace (cache : Cache) (store : Store) :
    FailsClient (cache.replace store).1 := by
  unfold replace
  split
  next => exact .ok ()
  next => exact .ofClient _ _

theorem Completion.failsBare_result (completion : Completion) (state : String) :
    FailsBare (completion.result state) := by
  unfold Completion.result
  dsimp only
  split
  case h_4 =>
    split
    next => exact .ok _
    next =>
      split
      next => exact .ok _
      next =>
        split
        next => exact .client _ _
        next => exact .ok _
  all_goals exact .ok _

namespace Strategy

theorem failsBare_tokenRequest (strategy : Strategy) (request : AuthorizationRequest)
    (response : AuthorizationResponse) (bound : Option String) :
    FailsBare (strategy.tokenRequest request response bound) := by
  refine FailsWith.map ?_ _
  unfold endpointFor
  dsimp only
  split
  next =>
    split
    next => exact .ok _
    next => exact .client _ _
  next => exact .ok _

theorem failsClient_account (strategy : Strategy) (endpoint : Url) (tokens : TokenResponse) :
    FailsClient (strategy.account endpoint tokens) := by
  unfold account
  cases tokens.idToken with
  | none => exact .ofClient _ _
  | some idToken =>
      cases tokens.clientInfo with
      | none => exact .ofClient _ _
      | some clientInfo =>
          refine (IdToken.failsClient_parse idToken).bind fun token => ?_
          exact (ClientInfo.failsClient_parse clientInfo).bind fun info => .ok _

end Strategy

namespace Program

/-- Whatever it is answered, a program puts the id on what it launches, posts and comes to, and
ends with no failure but one of a kind, as long as it is answered no other. -/
def Carries (kind : Failure → Prop) (id : Uuid) : Program (Except Breakdown Acquisition) → Prop
  | .done result => EndsWith kind id.render result
  | .now next => ∀ answer, (next answer).Carries kind id
  | .seeds next => ∀ answer, (next answer).Carries kind id
  | .sleep _ next => next.Carries kind id
  | .lookup _ _ next => ∀ answer, (next answer).Carries kind id
  | .save _ _ _ next => ∀ answer, FailsWith kind answer → (next answer).Carries kind id
  | .invalidate _ _ next => ∀ answer, FailsWith kind answer → (next answer).Carries kind id
  | .post request next =>
      request.correlation = some id ∧
        ∀ answer, FailsWith kind answer → (next answer).Carries kind id
  | .launch request next =>
      request.correlation = some id ∧
        ∀ answer, FailsWith kind answer → (next answer).Carries kind id
  | .await _ next =>
      ∀ answer, (∀ told, answer = some told → FailsWith kind told) → (next answer).Carries kind id
  | .dispose next => next.Carries kind id

end Program

namespace Dealing

/-- The failure that a program is answered, if it is one. -/
def failure? : Dealing → Option Failure
  | .saved _ _ _ (.error failure) => some failure
  | .invalidated _ _ (.error failure) => some failure
  | .posted _ (.fail failure _) => some failure
  | .launched _ (.error failure) => some failure
  | .awaited _ (some (.error failure)) => some failure
  | _ => none

/-- The failure that comes from the network, if it is one. -/
def handed? : Dealing → Option Failure
  | .posted _ (.fail failure _) => some failure
  | _ => none

/-- What is asked of others has the id on it. -/
def IsOwn (id : Uuid) : Dealing → Prop
  | .posted request _ => request.correlation = some id
  | .launched request _ => request.correlation = some id
  | _ => True

end Dealing

namespace Program

variable {kind : Failure → Prop} {id : Uuid} {p q : Program (Except Breakdown Acquisition)}
  {dealing : Dealing}

/-- A program that comes to no tokens puts no id on them. -/
theorem carries_of_untold {a : Acquisition} (untold : a.local? = none) :
    (done (.ok a)).Carries kind id := by
  intro authentication got
  cases untold.symm.trans got

theorem Carries.isOwn (carries : p.Carries kind id) (step : p.Step dealing q) :
    dealing.IsOwn id := by
  cases step with
  | launch | post => exact carries.1
  | _ => exact trivial

theorem Carries.step (carries : p.Carries kind id) (step : p.Step dealing q)
    (fails : ∀ failure, dealing.failure? = some failure → kind failure) : q.Carries kind id := by
  cases step with
  | now | seeds | lookup => exact carries _
  | sleep | dispose => exact carries
  | save answer | invalidate answer =>
      refine carries _ fun failure failed => fails failure ?_
      rw [failed]
      rfl
  | launch answer =>
      refine carries.2 _ fun failure failed => fails failure ?_
      rw [failed]
      rfl
  | await answer =>
      refine carries answer ?_
      rintro told rfl failure failed
      refine fails failure ?_
      rw [failed]
      rfl
  | post answer =>
      cases answer with
      | respond response delay => exact carries.2 _ (.ok response)
      | fail failure delay => exact carries.2 _ (.error (fails failure rfl))
      | panic message delay => exact trivial

end Program

namespace Operation

open Program

variable {op : Operation} {kind : Failure → Prop} {id : Uuid}

theorem carries_settling (op : Operation) (id : Uuid) (clientId : String) (account : Account)
    (tokens : TokenResponse) (requested : List String) {told : Authentication → Acquisition}
    (hands : ∀ result, (told result).local? = some result) :
    (op.settling clientId account tokens requested (some id.render) told).Carries kind id := by
  intro now answer fails
  cases answer with
  | error failure => exact fails failure rfl
  | ok =>
      intro authentication got
      rw [hands] at got
      cases got
      rfl

theorem correlation_of_tokenRequest {strategy : Strategy} {request : AuthorizationRequest}
    {response : AuthorizationResponse} {tokenRequest : TokenRequest}
    (made : strategy.tokenRequest request response (some id.render) = .ok tokenRequest) :
    tokenRequest.correlation = some id := by
  obtain ⟨endpoint, -, rfl⟩ := exceptMap_eq_ok_iff.mp made
  dsimp only
  rw [Correlation.uuid?_render]

theorem correlation_refreshRequest (op : Operation) (p : SilentParameters) (token : Secret)
    (bound : Option String) :
    (op.refreshRequest p token bound).correlation = Correlation.uuid? bound := rfl

theorem failsClient_renewed (op : Operation) (p : SilentParameters) (token : Secret)
    (bound : Option String) (cached : Credential) (tokens : TokenResponse) :
    FailsClient (op.renewed p token bound cached tokens) := by
  unfold renewed
  split
  next => exact op.strategy.failsClient_account _ _
  next => exact .ok _

section

-- Whatever fails on this side of the wire is of the kind.
variable (bare : ∀ {failure : Failure}, failure.IsBare → kind failure)

include bare

theorem carries_afterToken (op : Operation) (p : InteractiveParameters) (id : Uuid)
    (authorization : AuthorizationResult) (request : TokenRequest)
    {answer : Except Failure HttpResponse} (fails : FailsWith kind answer) :
    (op.afterToken p (some id.render) authorization request answer).Carries kind id := by
  cases answer with
  | error failure => exact fails failure rfl
  | ok response =>
      rw [afterToken]
      rcases made : response.tokenResult with failure | tokens | e
      · exact bare (response.failsClient_tokenResult failure made).isBare
      · dsimp only
        cases whose : op.strategy.account request.endpoint tokens with
        | error failure => exact bare (op.strategy.failsClient_account _ _ failure whose).isBare
        | ok account =>
            dsimp only
            rw [supervised_keeping]
            exact carries_settling _ _ _ _ _ _ fun result => rfl
      · exact carries_of_untold rfl

theorem carries_afterRedirect (op : Operation) (p : InteractiveParameters) (id : Uuid)
    (request : AuthorizationRequest) {answer : Option (Except Failure AuthorizationResult)}
    (fails : ∀ told, answer = some told → FailsWith kind told) :
    (op.afterRedirect p (some id.render) request answer).Carries kind id := by
  rcases answer with _ | failure | response | _ | _
  · exact bare rfl
  · exact fails _ rfl failure rfl
  · rw [afterRedirect]
    cases made : op.strategy.tokenRequest request response (some id.render) with
    | error failure => exact bare (op.strategy.failsBare_tokenRequest _ _ _ failure made)
    | ok tokenRequest =>
        exact ⟨correlation_of_tokenRequest made,
          fun _ fails => carries_afterToken bare op p id _ _ fails⟩
  · exact carries_of_untold rfl
  · exact carries_of_untold rfl

theorem carries_interactive (op : Operation) (p : InteractiveParameters) (id : Uuid) :
    (supervised (op.interactive p (some id.render))).Carries kind id := by
  rw [supervised_interactive]
  intro seeds
  rw [afterSeeds]
  cases built : (op.authorizationDraft p).build seeds (some id.render) with
  | error failure => exact bare (failsBare_build op p seeds _ failure built)
  | ok request =>
      have named := (builds built).correlation.trans (Correlation.uuid?_render id)
      refine ⟨named, fun answer fails => ?_⟩
      cases answer with
      | error failure => exact fails failure rfl
      | ok => exact fun answer fails => carries_afterRedirect bare op p id request fails

theorem carries_afterRefresh (op : Operation) (p : SilentParameters) (id : Uuid)
    (cached : Credential) (token : Secret) {answer : Except Failure HttpResponse}
    (fails : FailsWith kind answer) :
    (op.afterRefresh p (some id.render) cached token answer).Carries kind id := by
  cases answer with
  | error failure => exact fails failure rfl
  | ok response =>
      rw [afterRefresh]
      rcases made : response.tokenResult with failure | tokens | e
      · exact bare (response.failsClient_tokenResult failure made).isBare
      · dsimp only
        cases whose : op.renewed p token (some id.render) cached tokens with
        | error failure => exact bare (op.failsClient_renewed _ _ _ _ _ failure whose).isBare
        | ok account =>
            dsimp only
            rw [supervised_renewing]
            exact carries_settling _ _ _ _ _ _ fun result => rfl
      · dsimp only
        split
        · intro answer fails
          cases answer with
          | error failure => exact fails failure rfl
          | ok => exact carries_of_untold rfl
        · exact carries_of_untold rfl

theorem carries_refreshing (op : Operation) (p : SilentParameters) (id : Uuid)
    (cached : Credential) : (op.refreshing p (some id.render) cached).Carries kind id := by
  rw [refreshing]
  split
  next token filled =>
    have named := (op.correlation_refreshRequest p token (some id.render)).trans
      (Correlation.uuid?_render id)
    exact ⟨named, fun answer fails => carries_afterRefresh bare op p id cached token fails⟩
  next => exact bare rfl

theorem carries_silent (op : Operation) (p : SilentParameters) (id : Uuid) :
    (supervised (op.silent p (some id.render))).Carries kind id := by
  rw [supervised_silent]
  rintro (cached | _ | _)
  · rw [afterLookup]
    split
    · exact carries_refreshing bare op p id cached
    · intro now
      dsimp only
      rcases cached.hasValidAccessToken p.scopes now with panic | _ | _
      · exact trivial
      · exact carries_refreshing bare op p id cached
      · rintro authentication ⟨⟩
        rfl
  · exact bare rfl
  · exact bare rfl

end

end Operation

/-- Whatever a command is asked to do under an id, it carries that id. -/
theorem Command.carries (command : Command) (op : Operation) {kind : Failure → Prop}
    (bare : ∀ {failure : Failure}, failure.IsBare → kind failure) (id : Uuid) :
    (command.program op (some id.render)).Carries kind id := by
  cases command with
  | interactive p => exact Operation.carries_interactive bare op p id
  | silent p => exact Operation.carries_silent bare op p id

end TokenAcquisition
