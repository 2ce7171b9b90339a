import TokenAcquisition.Proofs.Program.Dealings

/-!
The work of silent commands.  It asks the cache for another store once at most, and drops tokens
only when the refresh token that it looked up and handed in is called bad.
-/

namespace TokenAcquisition.Operation

open Program

variable {op : Operation} {p : SilentParameters} {bound : Option String}

/-- New tokens are cached and handed to the caller. -/
def renewing (op : Operation) (p : SilentParameters) (bound : Option String) (account : Account)
    (tokens : TokenResponse) : Work Acquisition := do
  let result ← op.keep p.clientId account tokens p.scopes bound
  return { local? := some result, token := some (.success tokens) }

/-- Tells the caller of the error for which the tokens were dropped. -/
def afterInvalidation (e : TokenError) :
    Except Failure Unit → Program (Except Breakdown Acquisition)
  | .error failure => .done (.error (.typed failure))
  | .ok () => .done (.ok { token := some (.error e) })

/-- Whose tokens the service gave out. -/
def renewed (op : Operation) (p : SilentParameters) (token : Secret) (bound : Option String)
    (cached : Credential) (tokens : TokenResponse) : Except Failure Account :=
  if tokens.idToken.isSome && tokens.clientInfo.isSome then
    op.strategy.account (op.refreshRequest p token bound).endpoint tokens
  else .ok cached.account

/-- What follows the answer to a refresh token. -/
def afterRefresh (op : Operation) (p : SilentParameters) (bound : Option String)
    (cached : Credential) (token : Secret) :
    Except Failure HttpResponse → Program (Except Breakdown Acquisition)
  | .error failure => .done (.error (.typed failure))
  | .ok response =>
      match response.tokenResult with
      | .error failure => .done (.error (.typed failure))
      | .ok (.error e) =>
          if e.isBadToken then .invalidate p.clientId p.account (afterInvalidation e)
          else .done (.ok { token := some (.error e) })
      | .ok (.success tokens) =>
          match op.renewed p token bound cached tokens with
          | .error failure => .done (.error (.typed failure))
          | .ok account => supervised (op.renewing p bound account tokens)

/-- Hands in the cached refresh token. -/
def refreshing (op : Operation) (p : SilentParameters) (bound : Option String)
    (cached : Credential) : Program (Except Breakdown Acquisition) :=
  match cached.refreshToken.filter Secret.isFilled with
  | some token => .post (op.refreshRequest p token bound) (op.afterRefresh p bound cached token)
  | none =>
      .done (.error (.typed
        (.uiRequired ClientCode.noTokensFound none "no refresh token cached for the account")))

/-- What follows the look at the clock. -/
def afterCheck (op : Operation) (p : SilentParameters) (bound : Option String)
    (cached : Credential) : Except Panic Bool → Program (Except Breakdown Acquisition)
  | .error panic => .done (.error (.panic panic.message))
  | .ok true => .done (.ok { local? := some (fromCache cached bound) })
  | .ok false => op.refreshing p bound cached

/-- What follows the look into the cache. -/
def afterLookup (op : Operation) (p : SilentParameters) (bound : Option String) :
    Lookup → Program (Except Breakdown Acquisition)
  | .notFound =>
      .done (.error (.typed
        (.uiRequired ClientCode.noAccountFound none "no cached credentials for the account")))
  | .uiRequired =>
      .done (.error (.typed
        (.uiRequired ClientCode.noTokensFound none "no tokens cached for the account")))
  | .found cached =>
      if p.forceRefresh then op.refreshing p bound cached
      else
        .now fun now => op.afterCheck p bound cached (cached.hasValidAccessToken p.scopes now)

theorem afterLookup_of_unforced {p : SilentParameters} (unforced : p.forceRefresh = false)
    (op : Operation) (bound : Option String) (cached : Credential) :
    op.afterLookup p bound (.found cached) =
      .now fun now => op.afterCheck p bound cached (cached.hasValidAccessToken p.scopes now) := by
  rw [afterLookup, unforced]
  rfl

theorem supervised_refresh (op : Operation) (p : SilentParameters) (bound : Option String)
    (cached : Credential) (token : Secret) :
    supervised (op.refresh p cached token bound) =
      .post (op.refreshRequest p token bound) (op.afterRefresh p bound cached token) := by
  unfold refresh
  show Program.post _ _ = _
  congr 1
  funext answer
  cases answer with
  | error failure => rfl
  | ok response =>
      show supervised (Work.ofResult response.tokenResult >>= _) = _
      rw [supervised_ofResult_bind, afterRefresh]
      rcases response.tokenResult with failure | tokens | e
      · rfl
      · dsimp only
        rw [renewed]
        split
        · show supervised (Work.ofResult _ >>= _) = _
          rw [supervised_ofResult_bind]
          cases op.strategy.account (op.refreshRequest p token bound).endpoint tokens <;> rfl
        · rfl
      · dsimp only
        split
        · show Program.invalidate _ _ _ = _
          congr 1
          funext answer
          cases answer <;> rfl
        · rfl

/-- The work of a silent command, as what it asks for one thing after another. -/
theorem supervised_silent (op : Operation) (p : SilentParameters) (bound : Option String) :
    supervised (op.silent p bound) = .lookup p.clientId p.account (op.afterLookup p bound) := by
  unfold silent
  show Program.lookup _ _ _ = _
  congr 1
  funext answer
  cases answer with
  | notFound | uiRequired => rfl
  | found cached =>
      have refreshes : supervised
          (match cached.refreshToken.filter Secret.isFilled with
            | some token => op.refresh p cached token bound
            | none => Work.fail (.uiRequired ClientCode.noTokensFound none
                "no refresh token cached for the account")) = op.refreshing p bound cached := by
        rw [refreshing]
        split
        next token filled => rw [supervised_refresh]
        next => rfl
      rw [afterLookup]
      split
      next =>
        rw [← refreshes]
        rfl
      next =>
        show Program.now _ = _
        congr 1
        funext now
        show supervised (Work.ofCheck (cached.hasValidAccessToken p.scopes now) >>= _) = _
        rcases cached.hasValidAccessToken p.scopes now with panic | _ | _
        · rfl
        · exact refreshes
        · rfl

theorem afterLookup_found {cached : Credential} {token : Secret} (forced : p.forceRefresh = true)
    (own : cached.refreshToken = some token) (filled : token.isFilled = true) :
    op.afterLookup p bound (.found cached) =
      .post (op.refreshRequest p token bound) (op.afterRefresh p bound cached token) := by
  rw [afterLookup, if_pos forced, refreshing, own, Option.filter_some, if_pos filled]

theorem afterRefresh_bad {cached : Credential} {token : Secret} {response : HttpResponse}
    {e : TokenError} (refused : response.tokenResult = .ok (.error e))
    (bad : e.isBadToken = true) :
    op.afterRefresh p bound cached token (.ok response) =
      .invalidate p.clientId p.account (afterInvalidation e) := by
  simp only [afterRefresh, refused, if_pos bad]

/-- What is left when tokens have come only saves them. -/
theorem settles_renewing (op : Operation) (p : SilentParameters) (bound : Option String)
    (account : Account) (tokens : TokenResponse) :
    (supervised (op.renewing p bound account tokens)).Settles := by
  intro now answer
  cases answer <;> exact trivial

theorem changesAtMost_afterRefresh (op : Operation) (p : SilentParameters) (bound : Option String)
    (cached : Credential) (token : Secret) (answer : Except Failure HttpResponse) :
    (op.afterRefresh p bound cached token answer).ChangesAtMost 1 := by
  cases answer with
  | error failure => exact trivial
  | ok response =>
      rw [afterRefresh]
      rcases response.tokenResult with failure | tokens | e
      · exact trivial
      · dsimp only
        cases op.renewed p token bound cached tokens with
        | error failure => exact trivial
        | ok account =>
            intro now answer
            cases answer <;> exact trivial
      · dsimp only
        split
        · intro answer
          cases answer <;> exact trivial
        · exact trivial

theorem changesAtMost_refreshing (op : Operation) (p : SilentParameters) (bound : Option String)
    (cached : Credential) : (op.refreshing p bound cached).ChangesAtMost 1 := by
  rw [refreshing]
  split
  next token _ => exact op.changesAtMost_afterRefresh p bound cached token
  next => exact trivial

/-- A silent command asks the cache for another store once at most. -/
theorem changesAtMost_silent (op : Operation) (p : SilentParameters) (bound : Option String) :
    (supervised (op.silent p bound)).ChangesAtMost 1 := by
  rw [supervised_silent]
  rintro (cached | _ | _)
  · rw [afterLookup]
    split
    · exact op.changesAtMost_refreshing p bound cached
    · intro now
      dsimp only
      rcases cached.hasValidAccessToken p.scopes now with panic | _ | _
      · exact trivial
      · exact op.changesAtMost_refreshing p bound cached
      · exact trivial
  · exact trivial
  · exact trivial

variable {dealings : List Dealing} {clientId : String} {account : Account}
  {next : Except Failure Unit → Program (Except Breakdown Acquisition)}

theorem afterRefresh_cases {cached : Credential} {token : Secret}
    {answer : Except Failure HttpResponse}
    (path : (op.afterRefresh p bound cached token answer).Path dealings
      (.invalidate clientId account next)) :
    clientId = p.clientId ∧ account = p.account ∧ dealings = [] ∧
      ∃ response e, answer = .ok response ∧ response.tokenResult = .ok (.error e) ∧
        e.isBadToken = true := by
  cases answer with
  | error failure => exact (path.not_settles trivial).elim
  | ok response =>
      rw [afterRefresh] at path
      rcases made : response.tokenResult with failure | tokens | e
      · rw [made] at path
        exact (path.not_settles trivial).elim
      · simp only [made] at path
        cases whose : op.renewed p token bound cached tokens with
        | error failure =>
            rw [whose] at path
            exact (path.not_settles trivial).elim
        | ok own =>
            rw [whose] at path
            exact (path.not_settles (op.settles_renewing p bound own tokens)).elim
      · simp only [made] at path
        split at path
        next bad =>
          cases path with
          | here => exact ⟨rfl, rfl, rfl, response, e, rfl, made, bad⟩
          | step first later =>
              cases first with
              | invalidate answer =>
                  have settles : (afterInvalidation e answer).Settles := by
                    cases answer <;> exact trivial
                  exact (later.not_settles settles).elim
        next => exact (path.not_settles trivial).elim

/-- A refresh token was handed in and called bad. -/
structure Refused (op : Operation) (p : SilentParameters) (bound : Option String)
    (cached : Credential) (token : Secret) (dealings : List Dealing) : Prop where
  own : cached.refreshToken = some token
  filled : token.isFilled = true
  answered : ∃ response delay e,
    dealings = [.posted (op.refreshRequest p token bound) (.respond response delay),
      .slept delay] ∧
    response.tokenResult = .ok (.error e) ∧ e.isBadToken = true

theorem refreshing_cases {cached : Credential}
    (path : (op.refreshing p bound cached).Path dealings (.invalidate clientId account next)) :
    clientId = p.clientId ∧ account = p.account ∧
      ∃ token, op.Refused p bound cached token dealings := by
  rw [refreshing] at path
  split at path
  next token filled =>
    obtain ⟨own, filled⟩ := Option.filter_eq_some_iff.mp filled
    cases path with
    | step first path =>
        cases first with
        | post reply =>
            cases reply with
            | respond response delay =>
                cases path with
                | step second path =>
                    cases second with
                    | sleep =>
                        obtain ⟨rfl, rfl, rfl, _, e, same, made, bad⟩ := afterRefresh_cases path
                        obtain rfl := Except.ok.inj same
                        exact ⟨rfl, rfl, token, own, filled, response, delay, e, rfl, made, bad⟩
            | fail failure delay | panic message delay =>
                exact (path.not_settles trivial).elim
  next => exact (path.not_settles trivial).elim

/-- What a silent command has dealt with when it is about to drop tokens. -/
theorem invalidate_cases
    (path : (supervised (op.silent p bound)).Path dealings (.invalidate clientId account next)) :
    clientId = p.clientId ∧ account = p.account ∧
      ∃ cached token looks refused,
        dealings = .lookedUp p.clientId p.account (.found cached) :: (looks ++ refused) ∧
        (∀ dealing ∈ looks, dealing.IsSettling) ∧ op.Refused p bound cached token refused := by
  rw [supervised_silent] at path
  cases path with
  | step first path =>
      cases first with
      | lookup answer =>
          cases answer with
          | notFound | uiRequired => exact (path.not_settles trivial).elim
          | found cached =>
              rw [afterLookup] at path
              split at path
              · obtain ⟨rfl, rfl, token, refused⟩ := refreshing_cases path
                exact ⟨rfl, rfl, cached, token, [], _, rfl, by simp, refused⟩
              · cases path with
                | step second path =>
                    cases second with
                    | now time =>
                        dsimp only at path
                        generalize cached.hasValidAccessToken p.scopes time = check at path
                        rcases check with panic | _ | _
                        · exact (path.not_settles trivial).elim
                        · obtain ⟨rfl, rfl, token, refused⟩ := refreshing_cases path
                          refine ⟨rfl, rfl, cached, token, [.now time], _, rfl, ?_, refused⟩
                          simp [Dealing.IsSettling]
                        · exact (path.not_settles trivial).elim

end TokenAcquisition.Operation
