import TokenAcquisition.Command
import TokenAcquisition.Program
import TokenAcquisition.Strategy

/-!
The work of commands.  An interactive command asks the user for a code and redeems it; a silent
one serves the cached access token or redeems the cached refresh token.  Errors of the server are
no failures here: they are part of the result.
-/

namespace TokenAcquisition

structure Operation where
  strategy : Strategy
  /-- Noted with the application in the cache. -/
  applicationUid : Int
  /-- How many seconds to wait for a redirect; without a number there is no limit. -/
  timeout : Option Nat := none

namespace Operation

def oidcScopes : List String :=
  ["openid", "profile", "offline_access"]

/-- The requested scopes and those of every request, each once up to case. -/
def requestScope (scopes : List String) : String :=
  " ".intercalate (withoutRepeats Text.sameIgnoringCase (scopes ++ oidcScopes))

/-- Caches the tokens of a response and hands them to the caller. -/
def keep (op : Operation) (clientId : String) (account : Account) (response : TokenResponse)
    (requested : List String) (bound : Option String) : Work Authentication := do
  let now ← (Program.now .done : Program UInt64)
  let expiresOn := response.expiresOn now
  let scopes := if response.scopes.isEmpty then requested else response.scopes
  let credential : Credential :=
    { account
      accessToken := some ⟨response.accessToken⟩
      refreshToken := response.refreshToken.map Secret.mk
      idToken := response.idToken
      expiresOn, scopes
      tenantId := account.realm }
  let metadata : AppMetadata :=
    { clientId
      environment := account.environment
      foci := response.foci
      applicationUid := op.applicationUid }
  Work.orFail (.save clientId credential (some metadata))
  return {
    accessToken := ⟨response.accessToken⟩
    idToken := response.idToken
    account, expiresOn, scopes
    tenantId := account.realm
    correlationId := bound
    fromCache := false }

def redeem (request : TokenRequest) : Work TokenResult := do
  let response ← Work.orFail (.post request)
  Work.ofResult response.tokenResult

def timedOut (seconds : Nat) : Failure :=
  .client ClientCode.authorizationTimedOut ("no redirect within " ++ toString seconds ++ "s")

def authorizationDraft (op : Operation) (p : InteractiveParameters) : AuthorizationDraft :=
  (op.strategy.draft p.account).override
    { clientId := some p.clientId
      redirectUri := some p.redirectUri
      scope := some (requestScope p.scopes)
      loginHint := p.loginHint
      prompt := p.prompt
      extraQuery := p.extraQuery
      extraScopes := p.extraScopes }

/-- Waits for the result of the flow.  When none comes in time the flow is disposed of. -/
def awaitRedirect (op : Operation) : Work AuthorizationResult := do
  match ← (Program.await op.timeout .done : Program _) with
  | some answer => Work.ofResult answer
  | none =>
      (Program.dispose (.done ()) : Program Unit)
      Work.fail (timedOut (op.timeout.getD 0))

def interactive (op : Operation) (p : InteractiveParameters) (bound : Option String) :
    Work Acquisition := do
  let seeds ← (Program.seeds .done : Program Seeds)
  let request ← Work.ofResult ((op.authorizationDraft p).build seeds bound)
  Work.orFail (.launch request)
  let authorization ← op.awaitRedirect
  match authorization with
  | .success response =>
      let tokenRequest ← Work.ofResult (op.strategy.tokenRequest request response bound)
      let token ← redeem tokenRequest
      match token with
      | .error _ => return { authorization := some authorization, token := some token }
      | .success tokens =>
          let account ← Work.ofResult (op.strategy.account tokenRequest.endpoint tokens)
          let result ← op.keep p.clientId account tokens p.scopes bound
          return { local? := some result, authorization := some authorization, token := some token }
  | _ => return { authorization := some authorization }

def fromCache (c : Credential) (bound : Option String) : Authentication :=
  { accessToken := c.accessToken.getD ⟨""⟩
    idToken := c.idToken
    account := c.account
    expiresOn := c.expiresOn
    scopes := c.scopes
    tenantId := c.tenantId
    correlationId := bound
    fromCache := true }

def refreshRequest (op : Operation) (p : SilentParameters) (token : Secret)
    (bound : Option String) : TokenRequest :=
  { op.strategy.refreshRequest with
    clientId := some p.clientId
    refreshToken := some token
    scope := some (requestScope p.scopes)
    correlation := Correlation.uuid? bound }

/-- Redeems a cached refresh token.  A rejected one costs the account its tokens. -/
def refresh (op : Operation) (p : SilentParameters) (cached : Credential) (token : Secret)
    (bound : Option String) : Work Acquisition := do
  let request := op.refreshRequest p token bound
  let answer ← redeem request
  match answer with
  | .error e =>
      if e.isBadToken then Work.orFail (.invalidate p.clientId p.account)
      return { token := some answer }
  | .success tokens =>
      let account ←
        if tokens.idToken.isSome && tokens.clientInfo.isSome then
          Work.ofResult (op.strategy.account request.endpoint tokens)
        else pure cached.account
      let result ← op.keep p.clientId account tokens p.scopes bound
      return { local? := some result, token := some answer }

def silent (op : Operation) (p : SilentParameters) (bound : Option String) : Work Acquisition := do
  match ← (Program.lookup p.clientId p.account .done : Program Lookup) with
  | .notFound =>
      Work.fail (.uiRequired ClientCode.noAccountFound none "no cached credentials for the account")
  | .uiRequired =>
      Work.fail (.uiRequired ClientCode.noTokensFound none "no tokens cached for the account")
  | .found cached =>
      let serves ←
        if p.forceRefresh then pure false
        else
          let now ← (Program.now .done : Program UInt64)
          Work.ofCheck (cached.hasValidAccessToken p.scopes now)
      if serves then return { local? := some (fromCache cached bound) }
      match cached.refreshToken.filter Secret.isFilled with
      | some token => op.refresh p cached token bound
      | none =>
          Work.fail
            (.uiRequired ClientCode.noTokensFound none "no refresh token cached for the account")

/-- Work as a program, with how it broke down as its result. -/
def supervised (work : Work Acquisition) : Program (Except Breakdown Acquisition) :=
  work.run

end Operation

end TokenAcquisition
