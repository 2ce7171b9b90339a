import TokenAcquisition.Failure
import TokenAcquisition.Json.Parser
import TokenAcquisition.Json.Printer
import TokenAcquisition.Json.Value
import TokenAcquisition.Text.Characters

/-!
Answers of the token endpoint: tokens, or an error.
-/

namespace TokenAcquisition

structure HttpResponse where
  status : Nat
  body : String
  headers : SortedMap (List String) := .empty

structure TokenResponse where
  accessToken : String
  tokenType : Option String := none
  refreshToken : Option String := none
  idToken : Option String := none
  clientInfo : Option String := none
  /-- The lifetime in seconds. -/
  expiresIn : Option UInt64 := none
  extExpiresIn : Option UInt64 := none
  scope : Option String := none
  foci : Option String := none
  deriving DecidableEq, Repr

def saturatingAdd (a b : UInt64) : UInt64 :=
  UInt64.ofNat (min (a.toNat + b.toNat) (UInt64.size - 1))

def saturatingMul (a b : UInt64) : UInt64 :=
  UInt64.ofNat (min (a.toNat * b.toNat) (UInt64.size - 1))

namespace TokenResponse

open Json (encode)

def fields : List Field :=
  [⟨"access_token", []⟩, ⟨"token_type", []⟩, ⟨"refresh_token", []⟩, ⟨"id_token", []⟩,
    ⟨"client_info", []⟩, ⟨"expires_in", []⟩, ⟨"ext_expires_in", []⟩, ⟨"scope", []⟩, ⟨"foci", []⟩]

def ofJson? (value : Json) : Option TokenResponse := do
  let r ← value.record? fields
  some
    { accessToken := ← r.required "access_token" Json.text?
      tokenType := ← r.optional "token_type" Json.text?
      refreshToken := ← r.optional "refresh_token" Json.text?
      idToken := ← r.optional "id_token" Json.text?
      clientInfo := ← r.optional "client_info" Json.text?
      expiresIn := ← r.optional "expires_in" Json.word?
      extExpiresIn := ← r.optional "ext_expires_in" Json.word?
      scope := ← r.optional "scope" Json.text?
      foci := ← r.optional "foci" Json.text? }

def toJson (response : TokenResponse) : Json :=
  .record
    [("access_token", encode response.accessToken),
     ("token_type", encode response.tokenType),
     ("refresh_token", encode response.refreshToken),
     ("id_token", encode response.idToken),
     ("client_info", encode response.clientInfo),
     ("expires_in", encode response.expiresIn),
     ("ext_expires_in", encode response.extExpiresIn),
     ("scope", encode response.scope),
     ("foci", encode response.foci)]

instance : Json.Encode TokenResponse := ⟨toJson⟩

/-- The end of the lifetime in milliseconds, for a response at the given time. -/
def expiresOn (response : TokenResponse) (now : UInt64) : UInt64 :=
  saturatingAdd now (saturatingMul (response.expiresIn.getD 0) 1000)

def scopes (response : TokenResponse) : List String :=
  Text.words (response.scope.getD "")

end TokenResponse

structure TokenError where
  error : String := ""
  description : Option String := none
  suberror : Option String := none
  errorCodes : List Int := []
  traceId : Option String := none
  correlationId : Option String := none
  status : Nat := 0
  /-- The headers of the answer as a JSON text. -/
  headersJson : Option String := none
  body : Option String := none
  deriving DecidableEq, Repr

namespace TokenError

open Json (encode)

def fields : List Field :=
  [⟨"error", []⟩, ⟨"error_description", []⟩, ⟨"suberror", ["error_subcode"]⟩, ⟨"error_codes", []⟩,
    ⟨"trace_id", []⟩, ⟨"correlation_id", []⟩]

def ofJson? (value : Json) : Option TokenError := do
  let r ← value.record? fields
  some
    { error := ← r.withDefault "error" "" Json.text?
      description := ← r.optional "error_description" Json.text?
      suberror := ← r.optional "suberror" Json.text?
      errorCodes := ← r.withDefault "error_codes" [] (Json.list? (Json.signed? 64))
      traceId := ← r.optional "trace_id" Json.text?
      correlationId := ← r.optional "correlation_id" Json.text? }

def toJson (e : TokenError) : Json :=
  .record
    [("error", encode e.error),
     ("error_description", encode e.description),
     ("suberror", encode e.suberror),
     ("error_codes", encode e.errorCodes),
     ("trace_id", encode e.traceId),
     ("correlation_id", encode e.correlationId)]

/-- The description, or else the error code. -/
def message (e : TokenError) : String :=
  e.description.getD e.error

def isBadToken (e : TokenError) : Bool :=
  TokenAcquisition.isBadToken e.error e.suberror

end TokenError

inductive TokenResult where
  | success (response : TokenResponse)
  | error (error : TokenError)
  deriving DecidableEq, Repr

namespace HttpResponse

open Json (encode)

/-- The error of an answer.  A body that holds none, or an empty one, gives the status as the
error. -/
def tokenError (response : HttpResponse) : TokenError :=
  let written := ((Json.parseText? response.body).bind TokenError.ofJson?).getD {}
  { written with
    error := if written.error.isEmpty then "http_" ++ toString response.status else written.error
    status := response.status
    headersJson :=
      if response.headers.entries.isEmpty then none
      else some (encode response.headers).render
    body := some response.body }

/-- What an answer says.  From status 400 on it is an error whatever its body holds; below, the
body has to hold tokens. -/
def tokenResult (response : HttpResponse) : Except Failure TokenResult :=
  if response.status ≥ 400 then .ok (.error response.tokenError)
  else
    match (Json.parseText? response.body).bind TokenResponse.ofJson? with
    | some tokens => .ok (.success tokens)
    | none =>
        .error (.client ClientCode.malformedTokenResponse
          "token response is not valid JSON: unexpected content")

end HttpResponse

/-! ### The other end of the wire -/

/-- What the other end of the wire does for a request. -/
inductive TransportAnswer where
  /-- An answer after some milliseconds. -/
  | respond (response : HttpResponse) (delay : Nat)
  | fail (failure : Failure) (delay : Nat)
  | panic (message : String) (delay : Nat)

namespace TransportAnswer

def exhausted : TransportAnswer :=
  .fail (.unknown "no scripted response" []) 0

def delay : TransportAnswer → Nat
  | .respond _ delay => delay
  | .fail _ delay => delay
  | .panic _ delay => delay

def next (answers : List TransportAnswer) : TransportAnswer × List TransportAnswer :=
  match answers with
  | answer :: rest => (answer, rest)
  | [] => (exhausted, [])

end TransportAnswer

end TokenAcquisition
