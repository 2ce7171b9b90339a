import TokenAcquisition.Proofs.Json.Members
import TokenAcquisition.Token.Response

/-!
What an answer of the token endpoint is taken for: from status 400 on an error, whatever its body
holds, and below that the tokens that its body states, or a failure if it states none.
-/

namespace TokenAcquisition

open Json (Fills IsTextOf Means MeansOr encode list? signed? text? word?)

/-- The text is that of a value that gives `given` to the fields of a record. -/
def Json.TextFills (fields : List Field) (given : String → Option Json) (text : String) : Prop :=
  ∃ value, IsTextOf text value ∧ Fills fields given value

theorem Json.exists_textFills_iff {fields : List Field} {text : String}
    {states : (String → Option Json) → Prop} :
    (∃ given, TextFills fields given text ∧ states given) ↔
      ∃ value, IsTextOf text value ∧ ∃ given, Fills fields given value ∧ states given := by
  constructor
  · rintro ⟨given, ⟨value, isText, fills⟩, stated⟩
    exact ⟨value, isText, given, fills, stated⟩
  · rintro ⟨value, isText, given, fills, stated⟩
    exact ⟨given, ⟨value, isText, fills⟩, stated⟩

theorem Json.text?_eq_some_iff {value : Json} {s : String} :
    text? value = some s ↔ value = .text s := by
  constructor
  · intro read
    cases value with
    | string text =>
        obtain rfl : text = some s := read
        rfl
    | _ => cases read
  · rintro rfl
    rfl

/-- A text that a record cannot do without. -/
theorem Record.required_text_eq_some_iff {r : Record Json} {name s : String} :
    r.required name text? = some s ↔ r.value? name = some (.text s) := by
  simp only [Record.required, Option.bind_eq_some_iff, Json.text?_eq_some_iff]
  constructor
  · rintro ⟨_, found, rfl⟩
    exact found
  · intro found
    exact ⟨_, found, rfl⟩

namespace TokenResponse

/-- What the fields are given states the tokens. -/
structure Stated (given : String → Option Json) (tokens : TokenResponse) : Prop where
  accessToken : given "access_token" = some (.text tokens.accessToken)
  tokenType : Means text? (given "token_type") tokens.tokenType
  refreshToken : Means text? (given "refresh_token") tokens.refreshToken
  idToken : Means text? (given "id_token") tokens.idToken
  clientInfo : Means text? (given "client_info") tokens.clientInfo
  expiresIn : Means word? (given "expires_in") tokens.expiresIn
  extExpiresIn : Means word? (given "ext_expires_in") tokens.extExpiresIn
  scope : Means text? (given "scope") tokens.scope
  foci : Means text? (given "foci") tokens.foci

/-- The body is a text that states the tokens. -/
def IsStatedBy (tokens : TokenResponse) (body : String) : Prop :=
  ∃ given, Json.TextFills fields given body ∧ Stated given tokens

theorem distinct_fields : (fields.map Field.name).Nodup := by decide

variable {given other : String → Option Json} {tokens : TokenResponse} {value : Json}
  {body : String}

theorem Stated.congr (stated : Stated given tokens)
    (same : ∀ field ∈ fields, other field.name = given field.name) : Stated other tokens := by
  simp only [fields, List.forall_mem_cons, List.not_mem_nil, false_implies, implies_true,
    and_true] at same
  obtain ⟨accessToken, tokenType, refreshToken, idToken, clientInfo, expiresIn, extExpiresIn,
    scope, foci⟩ := same
  exact
    { accessToken := accessToken ▸ stated.accessToken
      tokenType := tokenType ▸ stated.tokenType
      refreshToken := refreshToken ▸ stated.refreshToken
      idToken := idToken ▸ stated.idToken
      clientInfo := clientInfo ▸ stated.clientInfo
      expiresIn := expiresIn ▸ stated.expiresIn
      extExpiresIn := extExpiresIn ▸ stated.extExpiresIn
      scope := scope ▸ stated.scope
      foci := foci ▸ stated.foci }

/-- Tokens are read from a value if and only if what it gives to their fields states them. -/
theorem ofJson?_eq_some_iff :
    ofJson? value = some tokens ↔ ∃ given, Fills fields given value ∧ Stated given tokens := by
  have optional {α : Type} {read : Json → Option α} (blank : read .null = none)
      {r : Record Json} {name : String} {o : Option α} :
      r.optional name read = some o ↔ Means read (r.value? name) o :=
    Record.optional_eq_some_iff blank
  constructor
  · intro read
    simp only [ofJson?, Option.bind_eq_bind, Option.bind_eq_some_iff, Option.some.injEq] at read
    obtain ⟨r, made, _, accessToken, _, tokenType, _, refreshToken, _, idToken, _, clientInfo,
      _, expiresIn, _, extExpiresIn, _, scope, _, foci, rfl⟩ := read
    exact ⟨r.value?, Json.fills_of_record? distinct_fields made,
      { accessToken := Record.required_text_eq_some_iff.mp accessToken
        tokenType := (optional rfl).mp tokenType
        refreshToken := (optional rfl).mp refreshToken
        idToken := (optional rfl).mp idToken
        clientInfo := (optional rfl).mp clientInfo
        expiresIn := (optional rfl).mp expiresIn
        extExpiresIn := (optional rfl).mp extExpiresIn
        scope := (optional rfl).mp scope
        foci := (optional rfl).mp foci }⟩
  · rintro ⟨given, fills, stated⟩
    obtain ⟨r, made, same⟩ := fills.exists_record distinct_fields
    have stated := stated.congr same
    simp only [ofJson?, made, Option.bind_eq_bind, Option.bind_some,
      Record.required_text_eq_some_iff.mpr stated.accessToken,
      (optional rfl).mpr stated.tokenType,
      (optional rfl).mpr stated.refreshToken, (optional rfl).mpr stated.idToken,
      (optional rfl).mpr stated.clientInfo, (optional rfl).mpr stated.expiresIn,
      (optional rfl).mpr stated.extExpiresIn, (optional rfl).mpr stated.scope,
      (optional rfl).mpr stated.foci]

theorem read_eq_some_iff :
    (Json.parseText? body).bind ofJson? = some tokens ↔ tokens.IsStatedBy body := by
  simp only [IsStatedBy, Json.exists_textFills_iff, Option.bind_eq_some_iff,
    Json.parseText?_eq_some_iff, ofJson?_eq_some_iff]

/-! ### Tokens that were written -/

def members (tokens : TokenResponse) : List (String × Json) :=
  [("access_token", encode tokens.accessToken),
   ("token_type", encode tokens.tokenType),
   ("refresh_token", encode tokens.refreshToken),
   ("id_token", encode tokens.idToken),
   ("client_info", encode tokens.clientInfo),
   ("expires_in", encode tokens.expiresIn),
   ("ext_expires_in", encode tokens.extExpiresIn),
   ("scope", encode tokens.scope),
   ("foci", encode tokens.foci)]

/-- The tokens are written in the members, in any order and among others that are none of theirs.
What the tokens lack is written as null or left out. -/
structure WrittenIn (tokens : TokenResponse) (kept extra all : List (String × Json)) : Prop where
  among : kept.Sublist tokens.members
  complete : ∀ member ∈ tokens.members, member ∈ kept ∨ member.2 = .null
  unknown : ∀ member ∈ extra, member.1 ∉ fields.map Field.name
  order : all.Perm (kept ++ extra)

variable {kept extra all : List (String × Json)}

theorem WrittenIn.isWrittenIn (written : WrittenIn tokens kept extra all) :
    Json.IsWrittenIn fields tokens.members kept extra all :=
  ⟨written.among, written.complete, written.unknown, written.order⟩

theorem WrittenIn.stated (written : WrittenIn tokens kept extra all) :
    Stated (fun name => kept.lookup name) tokens := by
  have text {name : String} {o : Option String} (inside : (name, encode o) ∈ tokens.members) :
      Means text? (kept.lookup name) o :=
    written.isWrittenIn.means distinct_fields (fun _ => rfl) Json.encode_text_ne_null inside
  have word {name : String} {o : Option UInt64} (inside : (name, encode o) ∈ tokens.members) :
      Means word? (kept.lookup name) o :=
    written.isWrittenIn.means distinct_fields Json.word?_encode nofun inside
  have accessToken : kept.lookup "access_token" = some (.text tokens.accessToken) := by
    have inside : ("access_token", encode tokens.accessToken) ∈ tokens.members := by
      simp [members]
    exact written.isWrittenIn.lookup_of_ne distinct_fields inside (Json.encode_text_ne_null _)
  constructor
  case accessToken => exact accessToken
  case expiresIn | extExpiresIn => exact word (by simp [members])
  all_goals exact text (by simp [members])

/-- Tokens are stated by every text of an object in which they are written. -/
theorem WrittenIn.isStatedBy (written : WrittenIn tokens kept extra all)
    (isText : IsTextOf body (.record all)) :
    tokens.IsStatedBy body :=
  ⟨_, ⟨_, isText, written.isWrittenIn.fills (by decide) distinct_fields rfl⟩, written.stated⟩

end TokenResponse

namespace TokenError

/-- What the fields are given states the error.  What comes from the answer around the body is
not among it. -/
structure Stated (given : String → Option Json) (e : TokenError) : Prop where
  error : MeansOr "" text? (given "error") e.error
  description : Means text? (given "error_description") e.description
  suberror : Means text? (given "suberror") e.suberror
  errorCodes : MeansOr [] (list? (signed? 64)) (given "error_codes") e.errorCodes
  traceId : Means text? (given "trace_id") e.traceId
  correlationId : Means text? (given "correlation_id") e.correlationId
  status : e.status = 0
  headersJson : e.headersJson = none
  body : e.body = none

/-- The body is a text that states the error. -/
def IsStatedBy (e : TokenError) (body : String) : Prop :=
  ∃ given, Json.TextFills fields given body ∧ Stated given e

theorem distinct_fields : (fields.map Field.name).Nodup := by decide

variable {given other : String → Option Json} {e : TokenError} {value : Json} {body : String}

theorem Stated.congr (stated : Stated given e)
    (same : ∀ field ∈ fields, other field.name = given field.name) : Stated other e := by
  simp only [fields, List.forall_mem_cons, List.not_mem_nil, false_implies, implies_true,
    and_true] at same
  obtain ⟨error, description, suberror, errorCodes, traceId, correlationId⟩ := same
  exact
    { stated with
      error := error ▸ stated.error
      description := description ▸ stated.description
      suberror := suberror ▸ stated.suberror
      errorCodes := errorCodes ▸ stated.errorCodes
      traceId := traceId ▸ stated.traceId
      correlationId := correlationId ▸ stated.correlationId }

/-- An error is read from a value if and only if what it gives to its fields states it. -/
theorem ofJson?_eq_some_iff :
    ofJson? value = some e ↔ ∃ given, Fills fields given value ∧ Stated given e := by
  have withDefault {α : Type} {read : Json → Option α} {r : Record Json} {name : String}
      {default a : α} :
      r.withDefault name default read = some a ↔ MeansOr default read (r.value? name) a :=
    Record.withDefault_eq_some_iff
  have optional {r : Record Json} {name : String} {o : Option String} :
      r.optional name text? = some o ↔ Means text? (r.value? name) o :=
    Record.optional_eq_some_iff rfl
  constructor
  · intro read
    simp only [ofJson?, Option.bind_eq_bind, Option.bind_eq_some_iff, Option.some.injEq] at read
    obtain ⟨r, made, _, error, _, description, _, suberror, _, errorCodes, _, traceId, _,
      correlationId, rfl⟩ := read
    exact ⟨r.value?, Json.fills_of_record? distinct_fields made,
      { error := withDefault.mp error
        description := optional.mp description
        suberror := optional.mp suberror
        errorCodes := withDefault.mp errorCodes
        traceId := optional.mp traceId
        correlationId := optional.mp correlationId
        status := rfl
        headersJson := rfl
        body := rfl }⟩
  · rintro ⟨given, fills, stated⟩
    obtain ⟨r, made, same⟩ := fills.exists_record distinct_fields
    have stated := stated.congr same
    obtain ⟨error, description, suberror, errorCodes, traceId, correlationId, status, headers,
      body⟩ := e
    obtain rfl : status = 0 := stated.status
    obtain rfl : headers = none := stated.headersJson
    obtain rfl : body = none := stated.body
    simp only [ofJson?, made, Option.bind_eq_bind, Option.bind_some,
      withDefault.mpr stated.error, optional.mpr stated.description,
      optional.mpr stated.suberror, withDefault.mpr stated.errorCodes,
      optional.mpr stated.traceId, optional.mpr stated.correlationId]

theorem read_eq_some_iff :
    (Json.parseText? body).bind ofJson? = some e ↔ e.IsStatedBy body := by
  simp only [IsStatedBy, Json.exists_textFills_iff, Option.bind_eq_some_iff,
    Json.parseText?_eq_some_iff, ofJson?_eq_some_iff]

end TokenError

namespace HttpResponse

variable {response : HttpResponse}

/-- What the error of an answer takes over from the answer. -/
structure GivesError (response : HttpResponse) (e : TokenError) : Prop where
  status : e.status = response.status
  body : e.body = some response.body
  filled : e.error ≠ ""
  /-- What the body states is taken over, but for an error without a name. -/
  stated (own : TokenError) (states : own.IsStatedBy response.body) :
    e.description = own.description ∧ e.suberror = own.suberror ∧
      e.errorCodes = own.errorCodes ∧ e.traceId = own.traceId ∧
      e.correlationId = own.correlationId ∧ (own.error ≠ "" → e.error = own.error)
  /-- Without a name in the body the error has the status for a name. -/
  named (nameless : ∀ own : TokenError, own.IsStatedBy response.body → own.error = "") :
    e.error = "http_" ++ toString response.status
  headless : response.headers.entries = [] → e.headersJson = none
  /-- The text of the headers is read back as the headers. -/
  headers : response.headers.entries ≠ [] → ∃ text, e.headersJson = some text ∧
    IsTextOf text (encode response.headers) ∧
    (Json.parseText? text).bind (Json.map? (list? text?)) = some response.headers

/-- What an answer is taken for. -/
structure Sorted (response : HttpResponse) : Prop where
  error : 400 ≤ response.status →
    ∃ e, response.tokenResult = .ok (.error e) ∧ response.GivesError e
  noError : response.status < 400 → ∀ e, response.tokenResult ≠ .ok (.error e)
  tokens : response.status < 400 → ∀ tokens : TokenResponse,
    response.tokenResult = .ok (.success tokens) ↔ tokens.IsStatedBy response.body
  malformed : response.status < 400 →
    (∀ tokens : TokenResponse, ¬ tokens.IsStatedBy response.body) →
    ∃ message, response.tokenResult =
      .error (.client ClientCode.malformedTokenResponse message)
  /-- Tokens that are written in the body, among members of any other names, are what is read. -/
  written (tokens : TokenResponse) (kept extra all : List (String × Json)) :
    tokens.WrittenIn kept extra all → IsTextOf response.body (.record all) →
    (Json.parseText? response.body).bind TokenResponse.ofJson? = some tokens

theorem exists_headersText (filled : response.headers.entries ≠ []) :
    ∃ text, response.tokenError.headersJson = some text ∧
      IsTextOf text (encode response.headers) ∧
      (Json.parseText? text).bind (Json.map? (list? text?)) = some response.headers := by
  have keeps := Json.keeps_map (m := response.headers) fun entry _ =>
    Json.keeps_list fun s (_ : s ∈ entry.2) => Json.keeps_text s
  have read := Json.parseText?_render keeps.exact
  refine ⟨(encode response.headers).render, ?_, Json.parseText?_eq_some_iff.mp read, ?_⟩
  · have some : response.headers.entries.isEmpty = false := by simpa using filled
    simp [tokenError, some]
  · rw [read, Option.bind_some, keeps.read]

theorem error_tokenError {own : TokenError}
    (read : ((Json.parseText? response.body).bind TokenError.ofJson?).getD {} = own) :
    response.tokenError.error =
      if own.error = "" then "http_" ++ toString response.status else own.error := by
  simp only [tokenError, read, String.isEmpty_iff]

theorem givesError_tokenError (response : HttpResponse) :
    response.GivesError response.tokenError := by
  constructor
  case status | body => rfl
  case headers => exact exists_headersText
  case headless =>
    intro none
    simp [tokenError, none]
  case filled =>
    rw [error_tokenError rfl]
    split
    next =>
      intro empty
      exact absurd (String.append_eq_empty_iff.mp empty).1 (by decide)
    next own => exact own
  case stated =>
    intro own states
    have read : ((Json.parseText? response.body).bind TokenError.ofJson?).getD {} = own := by
      rw [TokenError.read_eq_some_iff.mpr states, Option.getD_some]
    refine ⟨?_, ?_, ?_, ?_, ?_, fun filled => by rw [error_tokenError read, if_neg filled]⟩ <;>
      simp only [tokenError, read]
  case named =>
    intro nameless
    cases read : (Json.parseText? response.body).bind TokenError.ofJson? with
    | none => rw [error_tokenError (by rw [read, Option.getD_none]), if_pos rfl]
    | some own =>
        have own := nameless own (TokenError.read_eq_some_iff.mp read)
        rw [error_tokenError (by rw [read, Option.getD_some]), if_pos own]

/-- Every answer is sorted into the right side. -/
theorem sorted (response : HttpResponse) : response.Sorted := by
  have fine (below : response.status < 400) : ¬ response.status ≥ 400 := Nat.not_le_of_lt below
  constructor
  case error =>
    intro refused
    exact ⟨response.tokenError, if_pos refused, response.givesError_tokenError⟩
  case noError =>
    intro below e same
    rw [tokenResult, if_neg (fine below)] at same
    split at same <;> cases same
  case tokens =>
    intro below tokens
    rw [← TokenResponse.read_eq_some_iff, tokenResult, if_neg (fine below)]
    split
    next found read => rw [read, Except.ok.injEq, TokenResult.success.injEq, Option.some.injEq]
    next read => simp [read]
  case malformed =>
    intro below none
    rw [tokenResult, if_neg (fine below)]
    split
    next found read => exact absurd (TokenResponse.read_eq_some_iff.mp read) (none found)
    next => exact ⟨_, rfl⟩
  case written =>
    intro tokens kept extra all written isText
    exact TokenResponse.read_eq_some_iff.mpr (written.isStatedBy isText)

end HttpResponse

end TokenAcquisition
