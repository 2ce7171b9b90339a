import TokenAcquisition.Secret
import TokenAcquisition.Text.Uuid
import TokenAcquisition.Url.Basic

/-!
Requests to the token endpoint: a code is redeemed with the verifier of its proof key, or a refresh
token by itself.
-/

namespace TokenAcquisition

structure TokenRequest where
  endpoint : Url
  grantType : String
  clientId : Option String := none
  code : Option String := none
  codeVerifier : Option Secret := none
  redirectUri : Option String := none
  refreshToken : Option Secret := none
  scope : Option String := none
  correlation : Option Uuid := none
  wantsClientInfo : Bool := true

namespace TokenRequest

def codeGrant : String := "authorization_code"

def refreshGrant : String := "refresh_token"

def isRefresh (request : TokenRequest) : Bool :=
  request.grantType == refreshGrant

private def field (name : String) (value : Option String) : List (String × String) :=
  match value with
  | some text => [(name, text)]
  | none => []

/-- The parameters of the body; those not given are left out. -/
def form (request : TokenRequest) : List (String × String) :=
  ("grant_type", request.grantType) ::
    (field "client_id" request.clientId ++
      field "code" request.code ++
      field "code_verifier" (request.codeVerifier.map Secret.expose) ++
      field "redirect_uri" request.redirectUri ++
      field "refresh_token" (request.refreshToken.map Secret.expose) ++
      field "scope" request.scope ++
      (if request.wantsClientInfo then [("client_info", "1")] else []))

/-- The headers: the correlation id, and a wish to have it sent back. -/
def headers (request : TokenRequest) : List (String × String) :=
  match request.correlation with
  | some id => [("client-request-id", id.render), ("return-client-request-id", "true")]
  | none => []

end TokenRequest

end TokenAcquisition
