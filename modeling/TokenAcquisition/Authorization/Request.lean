import TokenAcquisition.Failure
import TokenAcquisition.Pkce
import TokenAcquisition.SortedMap
import TokenAcquisition.Text.Characters
import TokenAcquisition.Url.Parser

/-!
Authorization requests: what the user is asked to agree to in a browser, written as a URL.
-/

namespace TokenAcquisition

/-- Routing to a part of the service. -/
structure Slice where
  slice : Option String := none
  dc : Option String := none
  deriving DecidableEq, Repr

/-- A request for an authorization code, bound to a state and a proof key of its own. -/
structure AuthorizationRequest where
  clientId : String
  redirectUri : String
  authority : Url
  endpoint : Url
  scope : String
  state : String
  pkce : Pkce
  loginHint : Option String := none
  prompt : Option String := none
  uid : Option String := none
  utid : Option String := none
  extraQuery : List (String × String) := []
  extraScopes : List String := []
  slice : Option Slice := none
  flightParameters : SortedMap String := .empty
  multipleCloudAware : Bool := false
  correlation : Option Uuid := none
  headers : SortedMap String := .empty

def authorizePath : String := "oauth2/v2.0/authorize"

/-- A list without the entries that a relation finds among those before them. -/
def withoutRepeats (same : String → String → Bool) (entries : List String) : List String :=
  entries.foldl
    (fun kept entry => if kept.any fun k => same k entry then kept else kept ++ [entry]) []

/-- The endpoint at a path under an authority.  The last segment of the authority is a tenant and
stays, with or without a slash behind it. -/
def authorityEndpoint (authority : Url) (path : String) : Except Failure Url :=
  let base :=
    if authority.path.toList.getLast? = some '/' then authority
    else authority.withPath (authority.path ++ "/")
  match base.join path with
  | .ok url => .ok url
  | .error fault =>
      .error (.client ClientCode.malformedUrl
        ("cannot derive endpoint " ++ path ++ " from " ++ authority.render ++ ": " ++
          fault.message))

namespace AuthorizationRequest

/-- The requested scopes, then the extra ones, each once. -/
def fullScope (request : AuthorizationRequest) : String :=
  " ".intercalate
    (withoutRepeats (· == ·) (Text.words request.scope ++ request.extraScopes))

private def given (name : String) (value : Option String) : List (String × String) :=
  match value with
  | some text => [(name, text)]
  | none => []

theorem given_eq (name : String) (value : Option String) :
    given name value = (value.map fun text => (name, text)).toList := by
  cases value <;> rfl

/-- The query parameters, in the order in which they are written. -/
def parameters (request : AuthorizationRequest) : List (String × String) :=
  [("response_type", "code"),
   ("client_id", request.clientId),
   ("redirect_uri", request.redirectUri),
   ("scope", request.fullScope),
   ("state", request.state),
   ("code_challenge", request.pkce.challenge),
   ("code_challenge_method", Pkce.method)] ++
  given "login_hint" request.loginHint ++
  given "prompt" request.prompt ++
  (match request.uid, request.utid with
  | some uid, some utid => [("login_req", uid), ("domain_req", utid)]
  | _, _ => []) ++
  (if request.multipleCloudAware then [("instance_aware", "true")] else []) ++
  given "client-request-id" (request.correlation.map Uuid.render) ++
  given "slice" (request.slice.bind Slice.slice) ++
  given "dc" (request.slice.bind Slice.dc) ++
  request.flightParameters.entries ++
  request.extraQuery

def toUrl (request : AuthorizationRequest) : Url :=
  request.endpoint.appendQuery request.parameters

end AuthorizationRequest

structure AuthorizationDraft where
  clientId : Option String := none
  redirectUri : Option String := none
  authority : Option Url := none
  endpoint : Option Url := none
  scope : Option String := none
  state : Option String := none
  pkce : Option Pkce := none
  loginHint : Option String := none
  prompt : Option String := none
  uid : Option String := none
  utid : Option String := none
  extraQuery : List (String × String) := []
  extraScopes : List String := []
  slice : Option Slice := none
  flightParameters : Option (SortedMap String) := none
  multipleCloudAware : Option Bool := none
  headers : SortedMap String := .empty

namespace AuthorizationDraft

/-- A draft with the parts that another one gives in place of its own. -/
def override (draft given : AuthorizationDraft) : AuthorizationDraft :=
  { clientId := given.clientId <|> draft.clientId
    redirectUri := given.redirectUri <|> draft.redirectUri
    authority := given.authority <|> draft.authority
    endpoint := given.endpoint <|> draft.endpoint
    scope := given.scope <|> draft.scope
    state := given.state <|> draft.state
    pkce := given.pkce <|> draft.pkce
    loginHint := given.loginHint <|> draft.loginHint
    prompt := given.prompt <|> draft.prompt
    uid := given.uid <|> draft.uid
    utid := given.utid <|> draft.utid
    extraQuery := given.extraQuery
    extraScopes := given.extraScopes
    slice := given.slice <|> draft.slice
    flightParameters := given.flightParameters <|> draft.flightParameters
    multipleCloudAware := given.multipleCloudAware <|> draft.multipleCloudAware
    headers := given.headers }

def require {α : Type} (value : Option α) (name : String) : Except Failure α :=
  match value with
  | some a => .ok a
  | none =>
      .error (.client ClientCode.missingParameter ("authorization request is missing " ++ name))

/-- The finished request.  A state and a proof key that were not given are made from the seeds,
and the bound correlation id is attached if it is an identifier. -/
def build (draft : AuthorizationDraft) (seeds : Seeds) (bound : Option String) :
    Except Failure AuthorizationRequest := do
  let clientId ← require draft.clientId "client_id"
  let redirectUri ← require draft.redirectUri "redirect_uri"
  let authority ← require draft.authority "authority"
  let scope ← require draft.scope "scope"
  let endpoint ←
    match draft.endpoint with
    | some url => pure url
    | none => authorityEndpoint authority authorizePath
  return {
    clientId, redirectUri, authority, endpoint, scope
    state := draft.state.getD seeds.stateText
    pkce := draft.pkce.getD seeds.pkce
    loginHint := draft.loginHint
    prompt := draft.prompt
    uid := draft.uid
    utid := draft.utid
    extraQuery := draft.extraQuery
    extraScopes := draft.extraScopes
    slice := draft.slice
    flightParameters := draft.flightParameters.getD .empty
    multipleCloudAware := draft.multipleCloudAware.getD false
    correlation := Correlation.uuid? bound
    headers := draft.headers }

end AuthorizationDraft

end TokenAcquisition
