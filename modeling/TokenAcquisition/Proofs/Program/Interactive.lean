import TokenAcquisition.Proofs.Program.Dealings

/-!
The work of interactive commands.  It asks for tokens once at most, and only when it has launched
the request for authorization that it built and was told that the user agreed to it.
-/

namespace TokenAcquisition.Operation

open Program

variable {op : Operation} {p : InteractiveParameters} {bound : Option String}

/-- Tokens are cached and handed to the caller. -/
def keeping (op : Operation) (p : InteractiveParameters) (bound : Option String)
    (authorization : AuthorizationResult) (account : Account) (tokens : TokenResponse) :
    Work Acquisition := do
  let result ← op.keep p.clientId account tokens p.scopes bound
  return {
    local? := some result
    authorization := some authorization
    token := some (.success tokens) }

/-- What follows the answer to a request for tokens. -/
def afterToken (op : Operation) (p : InteractiveParameters) (bound : Option String)
    (authorization : AuthorizationResult) (request : TokenRequest) :
    Except Failure HttpResponse → Program (Except Breakdown Acquisition)
  | .error failure => .done (.error (.typed failure))
  | .ok response =>
      match response.tokenResult with
      | .error failure => .done (.error (.typed failure))
      | .ok (.error e) =>
          .done (.ok { authorization := some authorization, token := some (.error e) })
      | .ok (.success tokens) =>
          match op.strategy.account request.endpoint tokens with
          | .error failure => .done (.error (.typed failure))
          | .ok account => supervised (op.keeping p bound authorization account tokens)

/-- What follows the redirect, or its absence. -/
def afterRedirect (op : Operation) (p : InteractiveParameters) (bound : Option String)
    (request : AuthorizationRequest) :
    Option (Except Failure AuthorizationResult) → Program (Except Breakdown Acquisition)
  | none => .dispose (.done (.error (.typed (timedOut (op.timeout.getD 0)))))
  | some (.error failure) => .done (.error (.typed failure))
  | some (.ok (.success response)) =>
      match op.strategy.tokenRequest request response bound with
      | .error failure => .done (.error (.typed failure))
      | .ok tokenRequest =>
          .post tokenRequest (op.afterToken p bound (.success response) tokenRequest)
  | some (.ok authorization) => .done (.ok { authorization := some authorization })

/-- What follows the answer to the launch. -/
def afterLaunch (op : Operation) (p : InteractiveParameters) (bound : Option String)
    (request : AuthorizationRequest) :
    Except Failure Unit → Program (Except Breakdown Acquisition)
  | .error failure => .done (.error (.typed failure))
  | .ok () => .await op.timeout (op.afterRedirect p bound request)

/-- What follows the draw of the seeds. -/
def afterSeeds (op : Operation) (p : InteractiveParameters) (bound : Option String)
    (seeds : Seeds) : Program (Except Breakdown Acquisition) :=
  match (op.authorizationDraft p).build seeds bound with
  | .error failure => .done (.error (.typed failure))
  | .ok request => .launch request (op.afterLaunch p bound request)

/-- The work of an interactive command, as what it asks for one thing after another. -/
theorem supervised_interactive (op : Operation) (p : InteractiveParameters)
    (bound : Option String) :
    supervised (op.interactive p bound) = .seeds (op.afterSeeds p bound) := by
  unfold interactive
  show Program.seeds (fun seeds => supervised (Work.ofResult _ >>= _)) = _
  congr 1
  funext seeds
  rw [supervised_ofResult_bind, afterSeeds]
  cases (op.authorizationDraft p).build seeds bound with
  | error failure => rfl
  | ok request =>
      show Program.launch request _ = _
      congr 1
      funext answer
      cases answer with
      | error failure => rfl
      | ok =>
          show Program.await op.timeout _ = _
          congr 1
          funext answer
          rcases answer with _ | failure | response | _ | _
          · rfl
          · rfl
          · show supervised (Work.ofResult _ >>= _) = _
            rw [supervised_ofResult_bind, afterRedirect]
            cases op.strategy.tokenRequest request response bound with
            | error failure => rfl
            | ok tokenRequest =>
                show Program.post tokenRequest _ = _
                congr 1
                funext answer
                cases answer with
                | error failure => rfl
                | ok answer =>
                    show supervised (Work.ofResult answer.tokenResult >>= _) = _
                    rw [supervised_ofResult_bind, afterToken]
                    rcases answer.tokenResult with failure | tokens | e
                    · rfl
                    · dsimp only
                      show supervised (Work.ofResult _ >>= _) = _
                      rw [supervised_ofResult_bind]
                      cases op.strategy.account tokenRequest.endpoint tokens <;> rfl
                    · rfl
          · rfl
          · rfl

/-- Before a redirect an interactive command asks neither for tokens nor for another store. -/
theorem abstains_interactive (op : Operation) (p : InteractiveParameters)
    (bound : Option String) : (supervised (op.interactive p bound)).Abstains := by
  rw [supervised_interactive]
  intro seeds
  rw [afterSeeds]
  cases (op.authorizationDraft p).build seeds bound with
  | error failure => exact trivial
  | ok request =>
      intro answer
      cases answer <;> exact trivial

theorem settles_afterToken (op : Operation) (p : InteractiveParameters) (bound : Option String)
    (authorization : AuthorizationResult) (request : TokenRequest)
    (answer : Except Failure HttpResponse) :
    (op.afterToken p bound authorization request answer).Settles := by
  cases answer with
  | error failure => exact trivial
  | ok response =>
      rw [afterToken]
      rcases response.tokenResult with failure | tokens | e
      · exact trivial
      · dsimp only
        cases op.strategy.account request.endpoint tokens with
        | error failure => exact trivial
        | ok account =>
            intro now answer
            cases answer <;> exact trivial
      · exact trivial

variable {dealings : List Dealing} {last : Program (Except Breakdown Acquisition)}

/-- The launch of the request that was built comes back to what follows it. -/
theorem eq_of_launched {seeds : Seeds} {request : AuthorizationRequest}
    {answer : Except Failure Unit} {next : Program (Except Breakdown Acquisition)}
    (step : (op.afterSeeds p bound seeds).Step (.launched request answer) next) :
    next = op.afterLaunch p bound request answer := by
  rw [afterSeeds] at step
  cases built : (op.authorizationDraft p).build seeds bound with
  | error failure =>
      rw [built] at step
      cases step
  | ok request =>
      rw [built] at step
      cases step
      rfl

/-- Once the flow has answered, tokens are asked for once at most, and for a code only. -/
theorem afterRedirect_some_cases {request : AuthorizationRequest}
    {result : Except Failure AuthorizationResult}
    (path : (op.afterRedirect p bound request (some result)).Path dealings last) :
    dealings = [] ∨
      ∃ response tokenRequest reply later, result = .ok (.success response) ∧
        op.strategy.tokenRequest request response bound = .ok tokenRequest ∧
        dealings = .posted tokenRequest reply :: later ∧
        ∀ dealing ∈ later, dealing.IsSettling := by
  rcases result with failure | response | _ | _
  · exact .inl path.eq_nil_of_done
  · rw [afterRedirect] at path
    cases made : op.strategy.tokenRequest request response bound with
    | error failure =>
        rw [made] at path
        exact .inl path.eq_nil_of_done
    | ok tokenRequest =>
        rw [made] at path
        cases path with
        | here => exact .inl rfl
        | step first later =>
            cases first with
            | post reply =>
                have settles := settles_afterPost
                  (op.settles_afterToken p bound (.success response) tokenRequest) reply
                exact .inr ⟨response, tokenRequest, reply, _, rfl, made, rfl, settles.path later⟩
  · exact .inl path.eq_nil_of_done
  · exact .inl path.eq_nil_of_done

/-- Once the flow has answered, a command does not give up. -/
theorem not_givesUp_of_afterRedirect {request : AuthorizationRequest}
    {result : Except Failure AuthorizationResult}
    (path : (op.afterRedirect p bound request (some result)).Path dealings last) :
    ∀ dealing ∈ dealings, ¬ dealing.GivesUp := by
  rcases afterRedirect_some_cases path with rfl | ⟨_, _, _, later, -, -, rfl, settling⟩
  · exact List.forall_mem_nil _
  · exact List.forall_mem_cons.mpr ⟨id, fun dealing inside => (settling dealing inside).not_givesUp⟩

/-- Whatever the flow has answered, tokens are asked for once at most, and for a code only. -/
theorem afterRedirect_cases {request : AuthorizationRequest}
    {answer : Option (Except Failure AuthorizationResult)}
    (path : (op.afterRedirect p bound request answer).Path dealings last) :
    dealings.filterMap Dealing.posted? = [] ∨
      ∃ response tokenRequest reply later, answer = some (.ok (.success response)) ∧
        op.strategy.tokenRequest request response bound = .ok tokenRequest ∧
        dealings = .posted tokenRequest reply :: later ∧
        ∀ dealing ∈ later, dealing.IsSettling := by
  cases answer with
  | none =>
      -- Nobody answered in time, and the flow is disposed of.
      cases path with
      | here => exact .inl rfl
      | step first path =>
          cases first with
          | dispose =>
              rw [path.eq_nil_of_done]
              exact .inl rfl
  | some result =>
      rcases afterRedirect_some_cases path with
        rfl | ⟨response, tokenRequest, reply, later, rfl, made, rfl, settling⟩
      · exact .inl rfl
      · exact .inr ⟨response, tokenRequest, reply, later, rfl, made, rfl, settling⟩

theorem afterLaunch_cases {request : AuthorizationRequest} {answer : Except Failure Unit}
    (path : (op.afterLaunch p bound request answer).Path dealings last) :
    dealings.filterMap Dealing.posted? = [] ∨
      ∃ response tokenRequest reply later, answer = .ok () ∧
        op.strategy.tokenRequest request response bound = .ok tokenRequest ∧
        dealings =
          .awaited op.timeout (some (.ok (.success response))) ::
            .posted tokenRequest reply :: later ∧
        ∀ dealing ∈ later, dealing.IsSettling := by
  cases answer with
  | error failure =>
      rw [path.eq_nil_of_done]
      exact .inl rfl
  | ok =>
      cases path with
      | here => exact .inl rfl
      | step first path =>
          cases first with
          | await answer =>
              rcases afterRedirect_cases path with
                nothing | ⟨response, tokenRequest, reply, later, rfl, made, rfl, settling⟩
              · exact .inl nothing
              · exact .inr ⟨response, tokenRequest, reply, later, rfl, made, rfl, settling⟩

/-- What an interactive command has dealt with when it asks for tokens: the launch of the request
that it built, and a code that it was told of. -/
structure Redeems (op : Operation) (p : InteractiveParameters) (bound : Option String)
    (seeds : Seeds) (request : AuthorizationRequest) (response : AuthorizationResponse)
    (earlier : List Dealing) (tokenRequest : TokenRequest) : Prop where
  earlier_eq : earlier =
    [.seeds seeds, .launched request (.ok ()),
      .awaited op.timeout (some (.ok (.success response)))]
  built : (op.authorizationDraft p).build seeds bound = .ok request
  made : op.strategy.tokenRequest request response bound = .ok tokenRequest

/-- An interactive command asks for no tokens, or once for those of a code. -/
theorem posted_cases (path : (supervised (op.interactive p bound)).Path dealings last) :
    dealings.filterMap Dealing.posted? = [] ∨
      ∃ seeds request response earlier tokenRequest reply later,
        op.Redeems p bound seeds request response earlier tokenRequest ∧
        dealings = earlier ++ .posted tokenRequest reply :: later ∧
        ∀ dealing ∈ later, dealing.IsSettling := by
  rw [supervised_interactive] at path
  cases path with
  | here => exact .inl rfl
  | step first path =>
      cases first with
      | seeds seeds =>
          rw [afterSeeds] at path
          cases built : (op.authorizationDraft p).build seeds bound with
          | error failure =>
              rw [built] at path
              rw [path.eq_nil_of_done]
              exact .inl rfl
          | ok request =>
              rw [built] at path
              cases path with
              | here => exact .inl rfl
              | step second path =>
                  cases second with
                  | launch answer =>
                      rcases afterLaunch_cases path with
                        nothing | ⟨response, tokenRequest, reply, later, rfl, made, rfl, settling⟩
                      · exact .inl nothing
                      · exact .inr ⟨seeds, request, response, _, tokenRequest, reply, later,
                          ⟨rfl, built, made⟩, rfl, settling⟩

end TokenAcquisition.Operation
