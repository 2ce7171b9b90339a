import TokenAcquisition.Proofs.Credential.Likeness
import TokenAcquisition.Proofs.Program.Silent

/-!
The work of silent commands for caches that differ in the texts of tokens only, under two
correlation ids.  It asks for the same, but that it hands in the refresh token that it found, and it
comes to outcomes that differ in no more than the tokens and the ids.
-/

namespace TokenAcquisition

/-- Results that differ in the tokens and their correlation ids only. -/
structure Authentication.Alike (id otherId : String) (tokens other : Authentication) : Prop where
  account : other.account = tokens.account
  expiresOn : other.expiresOn = tokens.expiresOn
  scopes : other.scopes = tokens.scopes
  tenantId : other.tenantId = tokens.tenantId
  fromCache : other.fromCache = tokens.fromCache
  correlationId : tokens.correlationId = some id
  otherCorrelationId : other.correlationId = some otherId

inductive Outcome.Alike (id otherId : String) : Outcome → Outcome → Prop where
  | success {tokens other : Authentication} :
      tokens.Alike id otherId other → Alike id otherId (.success tokens) (.success other)
  | cancel : Alike id otherId .cancel .cancel
  | error {failure other : Failure} :
      other.cause = failure.cause → Alike id otherId (.error failure) (.error other)

/-- Results of work that callers are told of alike. -/
def ResultsAlike (id otherId : String) (result other : Except Breakdown Acquisition) : Prop :=
  (Outcome.ofWork (some id) result).Alike id otherId (Outcome.ofWork (some otherId) other)

/-- Programs that ask for the same, with answers that are alike, and come to results that are
alike.  What they post may differ. -/
inductive Program.Alike (id otherId : String) :
    Program (Except Breakdown Acquisition) → Program (Except Breakdown Acquisition) → Prop where
  | done {result other} : ResultsAlike id otherId result other →
      Alike id otherId (.done result) (.done other)
  | now {next otherNext} : (∀ answer, Alike id otherId (next answer) (otherNext answer)) →
      Alike id otherId (.now next) (.now otherNext)
  | sleep (milliseconds) {next otherNext} : Alike id otherId next otherNext →
      Alike id otherId (.sleep milliseconds next) (.sleep milliseconds otherNext)
  | lookup (clientId account) {next otherNext} :
      (∀ {found other : Lookup}, found.Alike other →
        Alike id otherId (next found) (otherNext other)) →
      Alike id otherId (.lookup clientId account next) (.lookup clientId account otherNext)
  | save (clientId credential metadata) {next otherNext} :
      (∀ answer, Alike id otherId (next answer) (otherNext answer)) →
      Alike id otherId (.save clientId credential metadata next)
        (.save clientId credential metadata otherNext)
  | invalidate (clientId account) {next otherNext} :
      (∀ answer, Alike id otherId (next answer) (otherNext answer)) →
      Alike id otherId (.invalidate clientId account next)
        (.invalidate clientId account otherNext)
  | post (request otherRequest) {next otherNext} :
      (∀ answer, Alike id otherId (next answer) (otherNext answer)) →
      Alike id otherId (.post request next) (.post otherRequest otherNext)

variable {id otherId : String}

theorem resultsAlike_error (id otherId : String) (breakdown : Breakdown) :
    ResultsAlike id otherId (.error breakdown) (.error breakdown) :=
  .error rfl

/-- Of an attempt without tokens the same is told. -/
theorem resultsAlike_of_tokenless {acquisition : Acquisition}
    (tokenless : acquisition.local? = none) (id otherId : String) :
    ResultsAlike id otherId (.ok acquisition) (.ok acquisition) := by
  simp only [ResultsAlike, Outcome.ofWork, tokenless]
  cases own : acquisition.failure.cause with
  | userCancel => exact .cancel
  | client | service | uiRequired | unknown => exact .error rfl

namespace Operation

open Program

variable {op : Operation} {p : SilentParameters} {cached other : Credential}

theorem alike_renewing (op : Operation) (p : SilentParameters) (id otherId : String)
    (account : Account) (tokens : TokenResponse) :
    (supervised (op.renewing p (some id) account tokens)).Alike id otherId
      (supervised (op.renewing p (some otherId) account tokens)) := by
  refine .now fun now => .save _ _ _ fun answer => ?_
  cases answer with
  | error failure => exact .done (resultsAlike_error id otherId (.typed failure))
  | ok => exact .done (.success ⟨rfl, rfl, rfl, rfl, rfl, rfl, rfl⟩)

theorem alike_afterRefresh (op : Operation) (p : SilentParameters) (id otherId : String)
    (same : cached.Alike other) (token otherToken : Secret)
    (answer : Except Failure HttpResponse) :
    (op.afterRefresh p (some id) cached token answer).Alike id otherId
      (op.afterRefresh p (some otherId) other otherToken answer) := by
  cases answer with
  | error failure => exact .done (resultsAlike_error id otherId (.typed failure))
  | ok response =>
      rw [afterRefresh, afterRefresh]
      rcases response.tokenResult with failure | tokens | e
      · exact .done (resultsAlike_error id otherId (.typed failure))
      · have whose : op.renewed p otherToken (some otherId) other tokens =
            op.renewed p token (some id) cached tokens := by
          rw [renewed, renewed, same.account]
          rfl
        dsimp only
        rw [whose]
        cases op.renewed p token (some id) cached tokens with
        | error failure => exact .done (resultsAlike_error id otherId (.typed failure))
        | ok account => exact op.alike_renewing p id otherId account tokens
      · dsimp only
        split
        · refine .invalidate _ _ fun answer => ?_
          cases answer with
          | error failure => exact .done (resultsAlike_error id otherId (.typed failure))
          | ok => exact .done (resultsAlike_of_tokenless rfl id otherId)
        · exact .done (resultsAlike_of_tokenless rfl id otherId)

/-- There is a refresh token to hand in for both or for neither. -/
theorem alike_refreshing (op : Operation) (p : SilentParameters) (id otherId : String)
    (same : cached.Alike other) :
    (op.refreshing p (some id) cached).Alike id otherId
      (op.refreshing p (some otherId) other) := by
  have held : (other.refreshToken.filter Secret.isFilled).isSome =
      (cached.refreshToken.filter Secret.isFilled).isSome := by
    rw [Option.isSome_filter, Option.isSome_filter]
    exact same.hasRefreshToken
  rw [refreshing, refreshing]
  cases own : cached.refreshToken.filter Secret.isFilled with
  | none =>
      rw [own, Option.isSome_none, Option.isSome_eq_false_iff, Option.isNone_iff_eq_none] at held
      rw [held]
      exact .done (resultsAlike_error id otherId _)
  | some token =>
      rw [own] at held
      obtain ⟨otherToken, ownToo⟩ := Option.isSome_iff_exists.mp held
      rw [ownToo]
      exact .post _ _ (op.alike_afterRefresh p id otherId same token otherToken)

theorem alike_silent (op : Operation) (p : SilentParameters) (id otherId : String) :
    (supervised (op.silent p (some id))).Alike id otherId
      (supervised (op.silent p (some otherId))) := by
  rw [supervised_silent, supervised_silent]
  refine .lookup _ _ fun found => ?_
  cases found with
  | notFound | uiRequired => exact .done (resultsAlike_error id otherId _)
  | @found c _ same =>
      rw [afterLookup, afterLookup]
      split
      · exact op.alike_refreshing p id otherId same
      · refine .now fun now => ?_
        rw [same.hasValidAccessToken]
        rcases c.hasValidAccessToken p.scopes now with panic | _ | _
        · exact .done (resultsAlike_error id otherId _)
        · exact op.alike_refreshing p id otherId same
        · refine .done (.success ⟨?_, ?_, ?_, ?_, rfl, rfl, rfl⟩)
          · exact same.account
          · exact same.expiresOn
          · exact same.scopes
          · exact same.tenantId

end Operation

end TokenAcquisition
