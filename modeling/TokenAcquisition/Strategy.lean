import TokenAcquisition.Account
import TokenAcquisition.Authorization.Request
import TokenAcquisition.Authorization.Result
import TokenAcquisition.Cloud
import TokenAcquisition.Token.Request
import TokenAcquisition.Token.Response

/-!
The protocol.  A strategy knows an authority, its token endpoint and the clouds; from these it
makes requests, and from answers accounts.  It never changes: a redirect to another cloud
retargets one token request.
-/

namespace TokenAcquisition

def tokenPath : String := "oauth2/v2.0/token"

structure StrategyConfig where
  authority : Url
  tokenEndpoint : Url
  slice : Option Slice := none
  flightParameters : SortedMap String := .empty
  multipleClouds : Bool := false

/-- The settings for an authority alone. -/
def StrategyConfig.ofAuthority (authority : Url) : Except Failure StrategyConfig :=
  (authorityEndpoint authority tokenPath).map fun tokenEndpoint => { authority, tokenEndpoint }

structure Strategy where
  config : StrategyConfig
  registry : CloudRegistry

namespace Strategy

/-- The host that credentials of a URL's host are cached under. -/
def cacheHost (s : Strategy) (url : Url) : String :=
  match s.registry.lookup url.host with
  | some cloud => cloud.cacheHost
  | none => url.host

/-- A request in the making.  An account whose home id has two halves that are not blank is
hinted at. -/
def draft (s : Strategy) (account : Option Account) : AuthorizationDraft :=
  let halves := (account.map Account.tenantInfo).filter fun halves =>
    !Text.allBlank halves.1 && !Text.allBlank halves.2
  { authority := some s.config.authority
    flightParameters := some s.config.flightParameters
    multipleCloudAware := some s.config.multipleClouds
    slice := s.config.slice
    uid := halves.map Prod.fst
    utid := halves.map Prod.snd }

/-- The token endpoint for a response: that of the settings, on the host of the cloud that the
response names if several clouds are supported. -/
def endpointFor (s : Strategy) (response : AuthorizationResponse) : Except Failure Url :=
  let host? := response.cloudHost.filter fun host => !Text.allBlank host
  match s.config.multipleClouds, host? with
  | true, some host =>
      match s.config.tokenEndpoint.withHost host with
      | .ok url => .ok url
      | .error fault =>
          .error (.client ClientCode.malformedUrl
            ("invalid cloud instance host " ++ host ++ ": " ++ fault.message))
  | _, _ => .ok s.config.tokenEndpoint

def tokenRequest (s : Strategy) (request : AuthorizationRequest)
    (response : AuthorizationResponse) (bound : Option String) : Except Failure TokenRequest :=
  (s.endpointFor response).map fun endpoint =>
    { endpoint
      grantType := TokenRequest.codeGrant
      clientId := some request.clientId
      code := some response.code
      codeVerifier := some request.pkce.verifier
      redirectUri := some request.redirectUri
      scope := some request.fullScope
      correlation := Correlation.uuid? bound }

/-- A request that redeems a refresh token, still without one. -/
def refreshRequest (s : Strategy) : TokenRequest :=
  { endpoint := s.config.tokenEndpoint, grantType := TokenRequest.refreshGrant }

/-- The account of a response, in the environment of the endpoint that gave it. -/
def account (s : Strategy) (endpoint : Url) (response : TokenResponse) :
    Except Failure Account := do
  let some idToken := response.idToken
    | .error (.client ClientCode.invalidIdToken "token response carries no id token")
  let some clientInfo := response.clientInfo
    | .error (.client ClientCode.invalidClientInfo "token response carries no client info")
  let token ← IdToken.parse idToken
  let info ← ClientInfo.parse clientInfo
  return { Account.ofIdToken token info with environment := s.cacheHost endpoint }

end Strategy

end TokenAcquisition
