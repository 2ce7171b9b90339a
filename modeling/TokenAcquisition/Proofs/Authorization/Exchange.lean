import TokenAcquisition.Proofs.Url.Form
import TokenAcquisition.Operation

/-!
What binds the parts of an exchange to one another: the URL that is launched, the redirect that
answers it, and the request that redeems the code of the redirect.
-/

namespace TokenAcquisition

namespace Uuid

theorem hexValue?_hexDigit (digit : Fin 16) :
    Text.hexValue? (Text.hexDigit digit).toNat = some digit := by
  revert digit
  decide

theorem ofDigits?_map (id : Uuid) : ofDigits? (id.digits.map Text.hexDigit) = some id := by
  have read : (id.digits.map Text.hexDigit).mapM (fun c => Text.hexValue? c.toNat) =
      some id.digits := by
    induction id.digits with
    | nil => rfl
    | cons digit digits inductionHypothesis =>
        rw [List.map_cons, List.mapM_cons, hexValue?_hexDigit, inductionHypothesis]
        rfl
  rw [ofDigits?, read]
  exact dif_pos id.length_eq

theorem ofHyphenated?_groups {a b c d e : List Char} (atA : a.length = 8) (atB : b.length = 4)
    (atC : c.length = 4) (atD : d.length = 4) :
    ofHyphenated? (a ++ '-' :: b ++ '-' :: c ++ '-' :: d ++ '-' :: e) =
      ofDigits? (a ++ b ++ c ++ d ++ e) := by
  have groups : a ++ '-' :: b ++ '-' :: c ++ '-' :: d ++ '-' :: e =
      a ++ ('-' :: (b ++ ('-' :: (c ++ ('-' :: (d ++ '-' :: e)))))) := by simp
  rw [groups]
  simp [ofHyphenated?, List.getElem?_append, List.drop_append,
    List.drop_eq_nil_of_le, atA, atB, atC, atD]

/-- An identifier is read back as it is written. -/
theorem parse?_render (id : Uuid) : parse? id.render = some id := by
  have size : (id.digits.map Text.hexDigit).length = 32 := by rw [List.length_map, id.length_eq]
  rw [← ofDigits?_map id, parse?, render, String.toList_ofList]
  generalize id.digits.map Text.hexDigit = cs at size
  have groups := ofHyphenated?_groups (a := cs.take 8) (b := (cs.drop 8).take 4)
    (c := (cs.drop 12).take 4) (d := (cs.drop 16).take 4) (e := cs.drop 20)
    (by simp [size]) (by simp [size]) (by simp [size]) (by simp [size])
  have whole : cs.take 8 ++ (cs.drop 8).take 4 ++ (cs.drop 12).take 4 ++ (cs.drop 16).take 4 ++
      cs.drop 20 = cs := by
    rw [← List.take_add, ← List.take_add, ← List.take_add, List.take_append_drop]
  rw [whole] at groups
  simp only [List.append_assoc, List.cons_append] at groups ⊢
  rw [← groups]
  simp [size]

end Uuid

theorem Correlation.uuid?_render (id : Uuid) : uuid? (some id.render) = some id := by
  rw [uuid?, Option.bind_some, id.parse?_render]

namespace Url

variable {base url : Url} {c : Char} {rest : List Char}

/-- A text that is nothing but a path, and not one from the root. -/
structure IsBarePath (c : Char) (rest : List Char) : Prop where
  relative : isAnySlash c = false
  path : endsPath c = false
  whole : (c :: rest).dropWhile (fun c => !endsPath c) = []
  unbroken : withoutBreaks (c :: rest) = c :: rest
  driveless : startsWithDrive (c :: rest) = false

theorem query_of_relative (bare : IsBarePath c rest)
    (resolved : relative base (c :: rest) = .ok url) : url.query = none := by
  have path := bare.path
  simp only [endsPath, Bool.or_eq_false_iff, beq_eq_false_iff_ne] at path
  unfold relative at resolved
  simp only [bare.whole] at resolved
  split at resolved
  next same => cases same
  next same => exact absurd (List.cons.inj same).1 path.1
  next same => exact absurd (List.cons.inj same).1 path.2
  next same =>
    cases same
    simp only [bare.relative, Bool.false_eq_true, ↓reduceIte] at resolved
    cases resolved
    rfl

theorem query_of_file (bare : IsBarePath c rest)
    (resolved : file (some base) (c :: rest) = .ok url) : url.query = none := by
  have path := bare.path
  simp only [endsPath, Bool.or_eq_false_iff] at path
  have unbroken : (c :: rest).dropWhile isBreak = c :: rest := by
    have all := bare.unbroken
    simp only [withoutBreaks, List.filter_eq_self] at all
    have first : isBreak c = false := by simpa using all c
    simp [first]
  unfold file at resolved
  simp only [unbroken, bare.whole, bare.relative, path.1, path.2, bare.unbroken, bare.driveless,
    Bool.false_eq_true, ↓reduceIte] at resolved
  cases resolved
  rfl

/-- An endpoint has no query, whatever its authority has. -/
theorem query_of_join (joined : base.join authorizePath = .ok url) : url.query = none := by
  have text : trimmed authorizePath.toList = 'o' :: "auth2/v2.0/authorize".toList := by decide
  have schemeless : scheme? ('o' :: "auth2/v2.0/authorize".toList) = none := by decide
  have bare : IsBarePath 'o' "auth2/v2.0/authorize".toList := by constructor <;> decide
  simp only [join, parseFrom, text, schemeless, bare.unbroken] at joined
  rw [if_neg (by decide)] at joined
  split at joined
  next => cases joined
  next =>
    split at joined
    next => exact query_of_file bare joined
    next => exact query_of_relative bare joined

end Url

theorem query_of_authorityEndpoint {authority url : Url}
    (derived : authorityEndpoint authority authorizePath = .ok url) : url.query = none := by
  simp only [authorityEndpoint] at derived
  split at derived
  next joined =>
    cases derived
    exact Url.query_of_join joined
  next => cases derived

theorem Seeds.stateText_ne_empty {seeds : Seeds} (drawn : seeds.state ≠ []) :
    seeds.stateText ≠ "" := by
  intro empty
  have nothing : Text.Base64Url.sextets seeds.state = [] := by
    simpa [stateText, Text.Base64Url.encode, String.ext_iff] using empty
  obtain ⟨first, rest, bytes⟩ := List.exists_cons_of_ne_nil drawn
  rw [bytes] at nothing
  rcases rest with _ | ⟨second, _ | ⟨third, rest⟩⟩ <;> cases nothing

/-! ### What is launched -/

/-- The first value of a name that the URL of a launch carries. -/
def Launch.carried? (launch : Launch) (name : String) : Option String :=
  launch.url.queryPairs.lookup name

namespace AuthorizationRequest

variable {request : AuthorizationRequest}

/-- Parameters that a caller adds come behind those that a request writes by itself. -/
theorem queryPairs_toUrl (queryless : request.endpoint.query = none) :
    request.toUrl.queryPairs = request.parameters := by
  rw [toUrl, Url.queryPairs_appendQuery, Url.queryPairs, queryless, List.nil_append]

end AuthorizationRequest

namespace Operation

variable {op : Operation} {p : InteractiveParameters} {seeds : Seeds} {bound : Option String}
  {request : AuthorizationRequest}

/-- What a request for authorization is made of. -/
structure Builds (p : InteractiveParameters) (seeds : Seeds) (bound : Option String)
    (request : AuthorizationRequest) : Prop where
  clientId : request.clientId = p.clientId
  redirectUri : request.redirectUri = p.redirectUri
  scope : request.scope = requestScope p.scopes
  extraScopes : request.extraScopes = p.extraScopes
  state : request.state = seeds.stateText
  pkce : request.pkce = seeds.pkce
  correlation : request.correlation = Correlation.uuid? bound
  queryless : request.endpoint.query = none

theorem build_eq (op : Operation) (p : InteractiveParameters) (seeds : Seeds)
    (bound : Option String) :
    (op.authorizationDraft p).build seeds bound =
      (authorityEndpoint op.strategy.config.authority authorizePath).map fun endpoint =>
        { clientId := p.clientId
          redirectUri := p.redirectUri
          authority := op.strategy.config.authority
          endpoint
          scope := requestScope p.scopes
          state := seeds.stateText
          pkce := seeds.pkce
          loginHint := p.loginHint
          prompt := p.prompt
          uid := (op.authorizationDraft p).uid
          utid := (op.authorizationDraft p).utid
          extraQuery := p.extraQuery
          extraScopes := p.extraScopes
          slice := op.strategy.config.slice
          flightParameters := op.strategy.config.flightParameters
          multipleCloudAware := op.strategy.config.multipleClouds
          correlation := Correlation.uuid? bound } := by
  cases derived : authorityEndpoint op.strategy.config.authority authorizePath <;>
    simp [AuthorizationDraft.build, authorizationDraft, AuthorizationDraft.override,
      Strategy.draft, AuthorizationDraft.require, derived, bind, Except.bind, pure, Except.pure,
      Except.map]

theorem builds (built : (op.authorizationDraft p).build seeds bound = .ok request) :
    Builds p seeds bound request := by
  rw [build_eq] at built
  obtain ⟨endpoint, derived, rfl⟩ := exceptMap_eq_ok_iff.mp built
  exact ⟨rfl, rfl, rfl, rfl, rfl, rfl, rfl, query_of_authorityEndpoint derived⟩

end Operation

/-! ### What is brought back and redeemed -/

/-- What a code is asked for with, and what it is redeemed with. -/
structure Exchange where
  clientId : String
  redirectUri : String
  scope : String
  state : String
  verifier : String
  code : String

namespace Exchange

/-- The URL of a launch carries all of it, before anything that a caller added; of the verifier it
carries the challenge. -/
structure LaunchedBy (x : Exchange) (launch : Launch) : Prop where
  clientId : launch.carried? "client_id" = some x.clientId
  redirectUri : launch.carried? "redirect_uri" = some x.redirectUri
  scope : launch.carried? "scope" = some x.scope
  state : launch.carried? "state" = some x.state
  challenge : launch.carried? "code_challenge" = some (challengeOf x.verifier)

/-- A completion reports the URL of a redirect with the code and the state. -/
structure BroughtBy (x : Exchange) (completion : Completion) (redirect : String) : Prop where
  complete : completion.code = .complete
  redirected : completion.payload.finalUrl = some redirect
  code : (urlParameters redirect).find? "code" = some x.code
  filled : x.code ≠ ""
  state : ((urlParameters redirect).find? "state").getD "" = x.state

/-- A state that is not empty comes back as it was sent. -/
theorem BroughtBy.find?_state {x : Exchange} {completion : Completion} {redirect : String}
    (brought : x.BroughtBy completion redirect) (drawn : x.state ≠ "") :
    (urlParameters redirect).find? "state" = some x.state := by
  have returned := brought.state
  cases found : (urlParameters redirect).find? "state" with
  | none =>
      rw [found] at returned
      exact absurd returned.symm drawn
  | some state =>
      rw [found] at returned
      exact congrArg some returned

/-- A request for tokens hands in the code and what it was asked for with, and nothing else. -/
structure RedeemedBy (x : Exchange) (request : TokenRequest) (id : Uuid) : Prop where
  form : request.form =
    [("grant_type", "authorization_code"), ("client_id", x.clientId), ("code", x.code),
      ("code_verifier", x.verifier), ("redirect_uri", x.redirectUri), ("scope", x.scope),
      ("client_info", "1")]
  headers : request.headers =
    [("client-request-id", id.render), ("return-client-request-id", "true")]

/-- What a request for authorization asks for, with the code that it is answered by. -/
def of (request : AuthorizationRequest) (code : String) : Exchange where
  clientId := request.clientId
  redirectUri := request.redirectUri
  scope := request.fullScope
  state := request.state
  verifier := request.pkce.verifier.expose
  code := code

variable {p : InteractiveParameters} {seeds : Seeds} {bound : Option String}
  {request : AuthorizationRequest}

theorem launchedBy_launchOf (builds : Operation.Builds p seeds bound request) (agent : Agent)
    (token : Uuid) (id : Option String) (code : String) :
    (of request code).LaunchedBy (Flow.launchOf request agent token id) := by
  have carried : (Flow.launchOf request agent token id).url.queryPairs = request.parameters :=
    AuthorizationRequest.queryPairs_toUrl builds.queryless
  have challenge : challengeOf request.pkce.verifier.expose = request.pkce.challenge := by
    rw [builds.pkce]
    rfl
  constructor <;> rw [Launch.carried?, carried]
  · rfl
  · rfl
  · rfl
  · rfl
  · rw [of, challenge]
    rfl

/-- Only a redirect with a code and with the state of the launch leads to a success. -/
theorem broughtBy_of_result {completion : Completion} {response : AuthorizationResponse}
    (succeeded : completion.result request.state = .ok (.success response)) :
    ∃ redirect, (of request response.code).BroughtBy completion redirect := by
  unfold Completion.result at succeeded
  cases code : completion.code with
  | complete =>
      cases redirected : completion.payload.finalUrl with
      | none =>
          simp only [code, redirected] at succeeded
          cases succeeded
      | some redirect =>
          simp only [code, redirected] at succeeded
          split at succeeded
          next => cases succeeded
          next found filtered =>
            obtain ⟨found, filled⟩ := Option.filter_eq_some_iff.mp filtered
            split at succeeded
            next => cases succeeded
            next same =>
              cases succeeded
              refine ⟨redirect, code, redirected, found, ?_, Decidable.not_not.mp same⟩
              rintro rfl
              cases filled
  | _ => simp [code] at succeeded

theorem redeemedBy_tokenRequest {strategy : Strategy} {response : AuthorizationResponse}
    {id : Uuid} {tokenRequest : TokenRequest}
    (made : strategy.tokenRequest request response (some id.render) = .ok tokenRequest) :
    (of request response.code).RedeemedBy tokenRequest id := by
  obtain ⟨endpoint, -, rfl⟩ := exceptMap_eq_ok_iff.mp made
  exact ⟨rfl, by simp [TokenRequest.headers, Correlation.uuid?_render]⟩

end Exchange

end TokenAcquisition
