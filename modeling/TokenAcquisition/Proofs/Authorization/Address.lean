import TokenAcquisition.Proofs.Url.Form
import TokenAcquisition.Authorization.Request

/-!
The URL of an authorization request.  It is the URL of the endpoint with a longer query, and the
query is read back as the parameters of the request: no value becomes a part of another one.
-/

namespace TokenAcquisition

namespace AuthorizationRequest

/-- The named parameters of a request in the order in which they are written, each with the value
that the request has for it, if any.  The account is asked for by both parts of its id or not at
all. -/
def rows (request : AuthorizationRequest) : List (String × Option String) :=
  let account := request.uid.bind fun uid => request.utid.map fun utid => (uid, utid)
  [("response_type", some "code"),
   ("client_id", some request.clientId),
   ("redirect_uri", some request.redirectUri),
   ("scope", some request.fullScope),
   ("state", some request.state),
   ("code_challenge", some request.pkce.challenge),
   ("code_challenge_method", some Pkce.method),
   ("login_hint", request.loginHint),
   ("prompt", request.prompt),
   ("login_req", account.map Prod.fst),
   ("domain_req", account.map Prod.snd),
   ("instance_aware", if request.multipleCloudAware then some "true" else none),
   ("client-request-id", request.correlation.map Uuid.render),
   ("slice", request.slice.bind Slice.slice),
   ("dc", request.slice.bind Slice.dc)]

def given? (row : String × Option String) : Option (String × String) :=
  row.2.map fun value => (row.1, value)

theorem filterMap_given?_cons (row : String × Option String)
    (others : List (String × Option String)) :
    (row :: others).filterMap given? = (given? row).toList ++ others.filterMap given? := by
  rw [List.filterMap_cons]
  cases given? row <;> rfl

/-- The parameters of a request are the rows that have a value, and what is passed on as it is. -/
theorem parameters_eq (request : AuthorizationRequest) :
    request.parameters =
      request.rows.filterMap given? ++ request.flightParameters.entries ++ request.extraQuery := by
  have aware :
      (if request.multipleCloudAware then [("instance_aware", "true")] else []) =
      (given? ("instance_aware", if request.multipleCloudAware then some "true" else none)).toList
      := by
    cases request.multipleCloudAware <;> rfl
  unfold parameters rows
  simp only [filterMap_given?_cons, List.filterMap_nil, List.append_nil, ← List.append_assoc]
  -- The rows are taken off one by one from the end.
  refine congr (congrArg HAppend.hAppend ?_) rfl
  refine congr (congrArg HAppend.hAppend ?_) rfl
  refine congr (congrArg HAppend.hAppend ?_) (given_eq "dc" _)
  refine congr (congrArg HAppend.hAppend ?_) (given_eq "slice" _)
  refine congr (congrArg HAppend.hAppend ?_) (given_eq "client-request-id" _)
  refine congr (congrArg HAppend.hAppend ?_) aware
  rw [List.append_assoc _ (given? ("login_req", _)).toList]
  refine congr (congrArg HAppend.hAppend ?_) ?account
  case account => cases request.uid <;> cases request.utid <;> rfl
  refine congr (congrArg HAppend.hAppend ?_) (given_eq "prompt" _)
  exact congr rfl (given_eq "login_hint" _)

/-- What the URL `url` owes to the request `request`: it is the URL of the endpoint but for its
query, and the query carries what is asked for behind what was there, and nothing else. -/
structure CarriedBy (request : AuthorizationRequest) (url : Url) : Prop where
  elsewhere : { url with query := request.endpoint.query } = request.endpoint
  pairs : url.queryPairs =
    request.endpoint.queryPairs ++ request.rows.filterMap given? ++
      request.flightParameters.entries ++ request.extraQuery
  /-- The flight parameters come in the order of their keys, each key once. -/
  ordered : request.flightParameters.entries.Pairwise fun a b => a.1 < b.1
  /-- The text of the query goes on from that of the endpoint by a form of its own.  The form is
  written in characters that end neither a query nor a URL. -/
  text : ∃ form : List Char, (∀ c ∈ form, Url.Form.isWritten c = true) ∧
    Url.Form.decode form = request.rows.filterMap given? ++
      request.flightParameters.entries ++ request.extraQuery ∧
    url.query = some
      (String.ofList (Url.Form.stem (request.endpoint.query.getD "").toList ++ form))

theorem carriedBy_toUrl (request : AuthorizationRequest) : request.CarriedBy request.toUrl where
  elsewhere := rfl
  pairs := by
    rw [toUrl, Url.queryPairs_appendQuery, parameters_eq]
    simp only [List.append_assoc]
  ordered := request.flightParameters.ascending
  text := by
    have filled : request.parameters ≠ [] := by simp [parameters]
    refine ⟨Url.Form.append [] request.parameters,
      Url.Form.isWritten_append (fun c member => by cases member) _, ?_, ?_⟩
    · rw [Url.Form.decode_append_pairs, parameters_eq]
      rfl
    · rw [← Url.Form.append_eq_stem _ filled]
      rfl

end AuthorizationRequest

end TokenAcquisition
