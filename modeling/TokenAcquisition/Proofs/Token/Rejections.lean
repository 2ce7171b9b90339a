import TokenAcquisition.Proofs.Program.Rejection
import TokenAcquisition.Proofs.Token.Answers

/-!
Which bodies tell that a grant is turned down.  The body of an error is read as a whole or not at
all: besides the code and the subcode it takes that all else that has a place in it is of its
kind and is there once.  A body of which that cannot be said is taken for an error of the status,
whatever its code and subcode are.
-/

namespace TokenAcquisition

open Json (Fills IsTextOf Means MeansOr list? named signed? text?)

theorem Json.IsTextOf.unique {text : String} {value other : Json} (own : IsTextOf text value)
    (another : IsTextOf text other) : value = other := by
  rw [← Json.parseText?_eq_some_iff] at own another
  exact Option.some.inj (own.symm.trans another)

theorem Json.Means.toList_cases {value : Option Json} {o : Option String}
    (means : Means text? value o) :
    value.toList = [] ∨ value.toList = [.null] ∨ ∃ s, value.toList = [.text s] := by
  cases means with
  | absent => exact .inl rfl
  | null => exact .inr (.inl rfl)
  | value isText => exact .inr (.inr ⟨_, by rw [Json.text?_eq_some_iff.mp isText]; rfl⟩)

namespace TokenError

variable {e own : TokenError} {found : List (String × Json)}
  {members : List (Option String × Json)} {body : String}

theorem IsStatedBy.unique {other : TokenError} (states : e.IsStatedBy body)
    (another : other.IsStatedBy body) : e = other := by
  rw [← read_eq_some_iff] at states another
  exact Option.some.inj (states.symm.trans another)

/-- Members that are read as an error by which a grant is turned down.  No field is written twice,
so a subcode is written under one of its two names only, and what stands in the other fields is of
their kind.  Members of other names may be anything. -/
structure RejectsIn (found : List (String × Json)) : Prop where
  error : ∃ code, Record.written ⟨"error", []⟩ found = [.text code] ∧
    Text.sameIgnoringCase code "invalid_grant" = true
  suberror : ∃ subcode, Record.written ⟨"suberror", ["error_subcode"]⟩ found = [.text subcode] ∧
    Text.sameIgnoringCase subcode "bad_token" = true
  texts : ∀ name ∈ ["error_description", "trace_id", "correlation_id"],
    Record.written ⟨name, []⟩ found = [] ∨ Record.written ⟨name, []⟩ found = [.null] ∨
      ∃ s, Record.written ⟨name, []⟩ found = [.text s]
  errorCodes : Record.written ⟨"error_codes", []⟩ found = [] ∨
    ∃ items, Record.written ⟨"error_codes", []⟩ found = [.array items] ∧
      ∀ item ∈ items, ∃ i, signed? 64 item = some i

/-- The members hold the code and the subcode of a grant that is turned down.  Where the subcode is
there under both of its names, they agree. -/
structure HoldsRejection (found : List (String × Json)) : Prop where
  error : ∃ code, Record.written ⟨"error", []⟩ found = [.text code] ∧
    Text.sameIgnoringCase code "invalid_grant" = true
  suberror : ∃ subcode, Record.written ⟨"suberror", ["error_subcode"]⟩ found ≠ [] ∧
    (∀ value ∈ Record.written ⟨"suberror", ["error_subcode"]⟩ found, value = .text subcode) ∧
    Text.sameIgnoringCase subcode "bad_token" = true

theorem few_of_eq_singleton {values : List Json} {value : Json} (same : values = [value]) :
    values.length ≤ 1 := by
  rw [same, List.length_singleton]

theorem RejectsIn.few (rejects : RejectsIn found) :
    ∀ field ∈ fields, (Record.written field found).length ≤ 1 := by
  obtain ⟨_, error, -⟩ := rejects.error
  obtain ⟨_, suberror, -⟩ := rejects.suberror
  have text (name : String) (inside : name ∈ ["error_description", "trace_id", "correlation_id"]) :
      (Record.written ⟨name, []⟩ found).length ≤ 1 := by
    rcases rejects.texts name inside with none | null | ⟨s, own⟩
    · rw [none]
      exact Nat.zero_le 1
    · exact few_of_eq_singleton null
    · exact few_of_eq_singleton own
  have errorCodes : (Record.written ⟨"error_codes", []⟩ found).length ≤ 1 := by
    rcases rejects.errorCodes with none | ⟨items, own, -⟩
    · rw [none]
      exact Nat.zero_le 1
    · exact few_of_eq_singleton own
  simp only [fields, List.forall_mem_cons, List.not_mem_nil, false_implies, implies_true,
    and_true]
  exact ⟨few_of_eq_singleton error, text _ (by simp), few_of_eq_singleton suberror, errorCodes,
    text _ (by simp), text _ (by simp)⟩

/-- What such members are read as. -/
theorem RejectsIn.exists_stated (rejects : RejectsIn found) :
    ∃ given own, Fills fields given (.record found) ∧ Stated given own ∧ own.RejectsGrant := by
  obtain ⟨given, fills, written⟩ := Json.exists_fills_record distinct_fields rejects.few
  simp only [fields, List.forall_mem_cons, List.not_mem_nil, false_implies, implies_true,
    and_true] at written
  obtain ⟨ofError, ofDescription, ofSuberror, ofCodes, ofTrace, ofCorrelation⟩ := written
  have text {name : String} (inside : name ∈ ["error_description", "trace_id", "correlation_id"])
      (own : Record.written ⟨name, []⟩ found = (given name).toList) :
      ∃ o, Means text? (given name) o := by
    rcases rejects.texts name inside with absent | null | ⟨s, said⟩
    · rw [Option.toList_eq_nil_iff.mp (own.symm.trans absent)]
      exact ⟨none, .absent⟩
    · rw [Option.toList_eq_singleton_iff.mp (own.symm.trans null)]
      exact ⟨none, .null⟩
    · rw [Option.toList_eq_singleton_iff.mp (own.symm.trans said)]
      exact ⟨some s, .value rfl⟩
  have codes : ∃ numbers, MeansOr [] (list? (signed? 64)) (given "error_codes") numbers := by
    rcases rejects.errorCodes with absent | ⟨items, said, fit⟩
    · rw [Option.toList_eq_nil_iff.mp (ofCodes.symm.trans absent)]
      exact ⟨[], .absent⟩
    · rw [Option.toList_eq_singleton_iff.mp (ofCodes.symm.trans said)]
      obtain ⟨numbers, read⟩ := Lists.exists_mapM fit
      exact ⟨numbers, .value read⟩
  obtain ⟨code, error, isGrant⟩ := rejects.error
  obtain ⟨subcode, suberror, isToken⟩ := rejects.suberror
  obtain ⟨description, descriptionMeans⟩ := text (by simp) ofDescription
  obtain ⟨traceId, traceIdMeans⟩ := text (by simp) ofTrace
  obtain ⟨correlationId, correlationIdMeans⟩ := text (by simp) ofCorrelation
  obtain ⟨numbers, numbersMean⟩ := codes
  have error := Option.toList_eq_singleton_iff.mp (ofError.symm.trans error)
  have suberror := Option.toList_eq_singleton_iff.mp (ofSuberror.symm.trans suberror)
  refine ⟨given,
    { error := code, description, suberror := some subcode, errorCodes := numbers, traceId,
      correlationId }, fills, ?_, ⟨isGrant, subcode, rfl, isToken⟩⟩
  exact
    { error := by rw [error]; exact .value rfl
      description := descriptionMeans
      suberror := by rw [suberror]; exact .value rfl
      errorCodes := numbersMean
      traceId := traceIdMeans
      correlationId := correlationIdMeans
      status := rfl
      headersJson := rfl
      body := rfl }

/-- Members that are read as an error which turns down a grant are such members. -/
theorem rejectsIn_of_stated {given : String → Option Json}
    (written : ∀ field ∈ fields, Record.written field found = (given field.name).toList)
    (stated : Stated given own) (rejects : own.RejectsGrant) : RejectsIn found := by
  simp only [fields, List.forall_mem_cons, List.not_mem_nil, false_implies, implies_true,
    and_true] at written
  obtain ⟨ofError, ofDescription, ofSuberror, ofCodes, ofTrace, ofCorrelation⟩ := written
  constructor
  case error =>
    have code := stated.error
    have named := rejects.error
    rw [ofError]
    generalize given "error" = value, own.error = error at code named
    cases code with
    | absent => exact absurd named (by decide)
    | value isText => exact ⟨error, by rw [Json.text?_eq_some_iff.mp isText]; rfl, named⟩
  case suberror =>
    have subcode := stated.suberror
    obtain ⟨s, same, named⟩ := rejects.suberror
    rw [ofSuberror]
    rw [same] at subcode
    generalize given "suberror" = value at subcode
    cases subcode with
    | value isText => exact ⟨s, by rw [Json.text?_eq_some_iff.mp isText]; rfl, named⟩
  case texts =>
    simp only [List.forall_mem_cons, List.not_mem_nil, false_implies, implies_true, and_true]
    rw [ofDescription, ofTrace, ofCorrelation]
    exact ⟨stated.description.toList_cases, stated.traceId.toList_cases,
      stated.correlationId.toList_cases⟩
  case errorCodes =>
    have codes := stated.errorCodes
    rw [ofCodes]
    generalize given "error_codes" = value, own.errorCodes = numbers at codes
    cases codes with
    | absent => exact .inl rfl
    | @value value _ read =>
        cases value with
        | array items => exact .inr ⟨items, rfl, fun item => Lists.read_of_mapM read⟩
        | _ => cases read

/-- An object is read as an error by which a grant is turned down just if its members say so. -/
theorem exists_isStatedBy_iff (isText : IsTextOf body (.object members)) :
    (∃ own : TokenError, own.IsStatedBy body ∧ own.RejectsGrant) ↔
      ∃ found, members = named found ∧ RejectsIn found := by
  constructor
  · rintro ⟨own, ⟨given, ⟨value, another, fills⟩, stated⟩, rejects⟩
    obtain rfl := isText.unique another
    obtain ⟨found, same, written⟩ := fills.exists_named
    exact ⟨found, same, rejectsIn_of_stated written stated rejects⟩
  · rintro ⟨found, rfl, rejects⟩
    obtain ⟨given, own, fills, stated, rejects⟩ := rejects.exists_stated
    exact ⟨own, ⟨given, ⟨_, isText, fills⟩, stated⟩, rejects⟩

end TokenError

namespace HttpResponse

variable {response : HttpResponse} {members : List (Option String × Json)}

theorem named_status_ne (status : Nat) :
    ¬ Text.sameIgnoringCase ("http_" ++ toString status) "invalid_grant" = true := by
  rw [Text.sameIgnoringCase_eq_true_iff]
  intro same
  have first := congrArg (fun s : String => s.toList.head?) same
  simp at first

/-- What the error of an answer says of the grant is what its body says. -/
theorem rejectsGrant_tokenError_iff :
    response.tokenError.RejectsGrant ↔
      ∃ own : TokenError, own.IsStatedBy response.body ∧ own.RejectsGrant := by
  have gives := response.givesError_tokenError
  constructor
  · intro rejects
    by_cases states : ∃ own : TokenError, own.IsStatedBy response.body
    · obtain ⟨own, states⟩ := states
      obtain ⟨-, suberror, -, -, -, error⟩ := gives.stated own states
      by_cases empty : own.error = ""
      · have named := gives.named fun other stated => by rw [stated.unique states, empty]
        exact absurd (named ▸ rejects.error) (named_status_ne _)
      · exact ⟨own, states, error empty ▸ rejects.error, suberror ▸ rejects.suberror⟩
    · have named := gives.named fun own stated => absurd ⟨own, stated⟩ states
      exact absurd (named ▸ rejects.error) (named_status_ne _)
  · rintro ⟨own, states, rejects⟩
    obtain ⟨-, suberror, -, -, -, error⟩ := gives.stated own states
    have filled : own.error ≠ "" := by
      intro empty
      exact absurd (empty ▸ rejects.error) (by decide)
    exact ⟨error filled ▸ rejects.error, suberror ▸ rejects.suberror⟩

/-- What it takes for an answer to be recognised as one that turns down a grant, and what comes of
it either way. -/
structure Recognises (response : HttpResponse) : Prop where
  isError : response.tokenResult = .ok (.error response.tokenError)
  /-- The code and the subcode of an object are recognised just if all else that has a place in it
  is of its kind and is there once. -/
  recognised {members : List (Option String × Json)} :
    IsTextOf response.body (.object members) →
      (response.tokenError.isBadToken = true ↔
        ∃ found, members = named found ∧ TokenError.RejectsIn found)
  /-- Only the user can help then. -/
  classified {a : Acquisition} : a.Unobjected → a.token = some (.error response.tokenError) →
    a.failure =
      if response.tokenError.isBadToken then
        .uiRequired response.tokenError.error response.tokenError.suberror
          response.tokenError.message
      else
        (Failure.service response.tokenError.error response.tokenError.suberror
          response.tokenError.message).withStatus response.status
  /-- And a silent command drops the tokens of the account. -/
  dropped {op : Operation} {p : SilentParameters} {bound : Option String}
    {around : Surroundings} {cached : Credential} {token : Secret} {delay : Nat} :
    Operation.MustRedeem p around cached token → around.answer = .respond response delay →
    around.cache.file.IsWritable → response.tokenError.isBadToken = true →
      around.cache.store.invalidate? p.clientId p.account =
        some (op.alone p bound around).2.cache.store
  kept {op : Operation} {p : SilentParameters} {bound : Option String}
    {around : Surroundings} {cached : Credential} {token : Secret} {delay : Nat} :
    Operation.MustRedeem p around cached token → around.answer = .respond response delay →
    response.tokenError.isBadToken = false →
      (op.alone p bound around).2.cache = around.cache

theorem recognises (refused : 400 ≤ response.status) : response.Recognises := by
  constructor
  case isError => exact if_pos refused
  case recognised =>
    intro members isText
    rw [← TokenError.rejectsGrant_iff, rejectsGrant_tokenError_iff,
      TokenError.exists_isStatedBy_iff isText]
  case classified =>
    intro a unobjected failed
    rw [Acquisition.failure_of_unobjected unobjected, failed]
    rfl
  case dropped =>
    intro op p bound around cached token delay must answered writable bad
    have rejects := response.tokenError.rejectsGrant_iff.mpr bad
    obtain ⟨store, drops, same⟩ :=
      Operation.alone_of_rejected op bound must answered refused rejects writable
    rw [same, drops]
  case kept =>
    intro op p bound around cached token delay must answered good
    have accepts : ¬ response.tokenError.RejectsGrant := by
      rw [TokenError.rejectsGrant_iff, good]
      nofun
    rw [Operation.alone_of_refused op bound must answered refused accepts]
    rfl

open Dispatch (refusal)

theorem sample_recognises :
    400 ≤ refusal.status ∧ refusal.Recognises ∧ refusal.tokenError.isBadToken = true :=
  ⟨by decide, recognises (by decide), by decide +kernel⟩

/-- A refusal with a field that is null where a list has its place. -/
def nullCodes : HttpResponse :=
  { status := 400
    body := "\x7b\"error\":\"invalid_grant\",\"suberror\":\"bad_token\",\"error_codes\":null\x7d" }

def nullCodesMembers : List (String × Json) :=
  [("error", .text "invalid_grant"), ("suberror", .text "bad_token"), ("error_codes", .null)]

theorem isTextOf_nullCodes : IsTextOf nullCodes.body (.record nullCodesMembers) := by
  have exact : Json.IsExact (.record nullCodesMembers) := by
    refine .record ?_
    simp [nullCodesMembers, Json.IsExact.text, Json.IsExact.null]
  have same : nullCodes.body = (Json.record nullCodesMembers).render := by decide +kernel
  rw [same]
  exact Json.parseText?_eq_some_iff.mp (Json.parseText?_render exact)

/-- It is not enough that the code and the subcode are there. -/
theorem nullCodes_unrecognised :
    400 ≤ nullCodes.status ∧ IsTextOf nullCodes.body (.record nullCodesMembers) ∧
      TokenError.HoldsRejection nullCodesMembers ∧
      nullCodes.tokenError.error = "http_400" ∧ nullCodes.tokenError.suberror = none ∧
      nullCodes.tokenError.isBadToken = false := by
  have holds : TokenError.HoldsRejection nullCodesMembers :=
    ⟨⟨"invalid_grant", rfl, by decide⟩, "bad_token", nofun,
      by simp [nullCodesMembers, Record.written, Field.isNamed], by decide⟩
  refine ⟨by decide, isTextOf_nullCodes, holds, ?_, ?_, ?_⟩
  · decide +kernel
  · decide +kernel
  · decide +kernel

end HttpResponse

end TokenAcquisition
