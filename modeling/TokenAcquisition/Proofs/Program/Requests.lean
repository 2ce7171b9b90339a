import TokenAcquisition.Proofs.Authorization.Exchange
import TokenAcquisition.Proofs.Program.Keeping

/-!
Which requests commands make.  A command launches nothing but requests to the authority of the
settings, and hands in refresh tokens nowhere but at their token endpoint.  That is so whatever it
is answered, as programs take nothing but answers from what has gone on before them.
-/

namespace TokenAcquisition

/-- What is posted and what is launched is of some kinds. -/
def Dealing.Asks (posts : TokenRequest → Prop) (launches : AuthorizationRequest → Prop) :
    Dealing → Prop
  | .posted request _ => posts request
  | .launched request _ => launches request
  | _ => True

namespace Program

/-- Whatever it is answered, a program posts and launches requests of some kinds only. -/
def Asks {α : Type} (posts : TokenRequest → Prop) (launches : AuthorizationRequest → Prop) :
    Program α → Prop
  | .done _ => True
  | .now next => ∀ answer, (next answer).Asks posts launches
  | .seeds next => ∀ answer, (next answer).Asks posts launches
  | .sleep _ next => next.Asks posts launches
  | .lookup _ _ next => ∀ answer, (next answer).Asks posts launches
  | .save _ _ _ next => ∀ answer, (next answer).Asks posts launches
  | .invalidate _ _ next => ∀ answer, (next answer).Asks posts launches
  | .post request next => posts request ∧ ∀ answer, (next answer).Asks posts launches
  | .launch request next => launches request ∧ ∀ answer, (next answer).Asks posts launches
  | .await _ next => ∀ answer, (next answer).Asks posts launches
  | .dispose next => next.Asks posts launches

variable {p q : Program (Except Breakdown Acquisition)} {dealing : Dealing}
  {dealings : List Dealing} {posts : TokenRequest → Prop} {launches : AuthorizationRequest → Prop}

/-- A program that settles asks nobody else. -/
theorem Settles.asks {α : Type} {program : Program α} (settles : program.Settles) :
    program.Asks posts launches := by
  induction program with
  | done => exact trivial
  | now next inductionHypothesis | save _ _ _ next inductionHypothesis =>
      exact fun answer => inductionHypothesis answer (settles answer)
  | sleep _ next inductionHypothesis => exact inductionHypothesis settles
  | seeds | lookup | invalidate | post | launch | await | dispose => cases settles

theorem Asks.step (asks : p.Asks posts launches) (step : p.Step dealing q) :
    dealing.Asks posts launches ∧ q.Asks posts launches := by
  cases step with
  | now | seeds | lookup | save | invalidate | await => exact ⟨trivial, asks _⟩
  | sleep | dispose => exact ⟨trivial, asks⟩
  | launch answer => exact ⟨asks.1, asks.2 answer⟩
  | post answer =>
      refine ⟨asks.1, ?_⟩
      cases answer with
      | respond response delay => exact asks.2 (.ok response)
      | fail failure delay => exact asks.2 (.error failure)
      | panic => exact trivial

theorem Asks.path (asks : p.Asks posts launches) (path : p.Path dealings q) :
    ∀ dealing ∈ dealings, dealing.Asks posts launches := by
  induction path with
  | here => exact List.forall_mem_nil _
  | step first _ inductionHypothesis =>
      obtain ⟨now, later⟩ := asks.step first
      exact List.forall_mem_cons.mpr ⟨now, inductionHypothesis later⟩

end Program

namespace Operation

open Program

variable {posts : TokenRequest → Prop} {launches : AuthorizationRequest → Prop}

theorem asks_afterRefresh (op : Operation) (p : SilentParameters) (bound : Option String)
    (cached : Credential) (token : Secret) (answer : Except Failure HttpResponse) :
    (op.afterRefresh p bound cached token answer).Asks posts launches := by
  cases answer with
  | error failure => exact trivial
  | ok response =>
      rw [afterRefresh]
      rcases response.tokenResult with failure | tokens | e
      · exact trivial
      · dsimp only
        cases op.renewed p token bound cached tokens with
        | error failure => exact trivial
        | ok account => exact (op.settles_renewing p bound account tokens).asks
      · dsimp only
        split
        · intro answer
          cases answer <;> exact trivial
        · exact trivial

theorem asks_refreshing (op : Operation) (p : SilentParameters) (bound : Option String)
    (redeems : ∀ token, posts (op.refreshRequest p token bound)) (cached : Credential) :
    (op.refreshing p bound cached).Asks posts launches := by
  rw [refreshing]
  split
  next token _ => exact ⟨redeems token, op.asks_afterRefresh p bound cached token⟩
  next => exact trivial

/-- A silent command posts what hands in a refresh token. -/
theorem asks_silent (op : Operation) (p : SilentParameters) (bound : Option String)
    (redeems : ∀ token, posts (op.refreshRequest p token bound)) :
    (supervised (op.silent p bound)).Asks posts launches := by
  rw [supervised_silent]
  rintro (cached | _ | _)
  · rw [afterLookup]
    split
    · exact op.asks_refreshing p bound redeems cached
    · intro now
      dsimp only
      rcases cached.hasValidAccessToken p.scopes now with panic | _ | _
      · exact trivial
      · exact op.asks_refreshing p bound redeems cached
      · exact trivial
  · exact trivial
  · exact trivial

/-- An interactive command launches what it has built, and posts what redeems a code. -/
theorem asks_interactive (op : Operation) (p : InteractiveParameters) (bound : Option String)
    (asks : ∀ seeds request, (op.authorizationDraft p).build seeds bound = .ok request →
      launches request)
    (redeems : ∀ request response tokenRequest,
      op.strategy.tokenRequest request response bound = .ok tokenRequest → posts tokenRequest) :
    (supervised (op.interactive p bound)).Asks posts launches := by
  rw [supervised_interactive]
  intro seeds
  rw [afterSeeds]
  cases built : (op.authorizationDraft p).build seeds bound with
  | error failure => exact trivial
  | ok request =>
      refine ⟨asks seeds request built, fun answer => ?_⟩
      cases answer with
      | error failure => exact trivial
      | ok =>
          rintro (_ | failure | response | _ | _)
          · exact trivial
          · exact trivial
          · rw [afterRedirect]
            cases made : op.strategy.tokenRequest request response bound with
            | error failure => exact trivial
            | ok tokenRequest =>
                exact ⟨redeems request response tokenRequest made, fun answer =>
                  (op.settles_afterToken p bound (.success response) tokenRequest answer).asks⟩
          · exact trivial
          · exact trivial

end Operation

theorem Strategy.grantType_of_tokenRequest {s : Strategy} {request : AuthorizationRequest}
    {response : AuthorizationResponse} {bound : Option String} {tokenRequest : TokenRequest}
    (made : s.tokenRequest request response bound = .ok tokenRequest) :
    tokenRequest.grantType = TokenRequest.codeGrant := by
  obtain ⟨endpoint, -, rfl⟩ := exceptMap_eq_ok_iff.mp made
  rfl

/-- Every command keeps to the authority and to the token endpoint of the settings, but where it
redeems a code. -/
theorem Command.asks (command : Command) (op : Operation) (bound : Option String) :
    (command.program op bound).Asks
      (fun request => request.isRefresh = true →
        request.endpoint = op.strategy.config.tokenEndpoint)
      (fun request => request.authority = op.strategy.config.authority) := by
  cases command with
  | interactive p =>
      refine op.asks_interactive p bound (fun seeds request built => ?_) ?_
      · rw [op.build_eq p seeds bound] at built
        obtain ⟨endpoint, -, rfl⟩ := exceptMap_eq_ok_iff.mp built
        rfl
      · intro request response tokenRequest made refresh
        rw [TokenRequest.isRefresh, Strategy.grantType_of_tokenRequest made] at refresh
        cases refresh
  | silent p => exact op.asks_silent p bound fun token _ => rfl

end TokenAcquisition
