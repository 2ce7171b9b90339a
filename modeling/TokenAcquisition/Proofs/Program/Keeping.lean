import TokenAcquisition.Proofs.Program.Interactive
import TokenAcquisition.Proofs.Program.Silent

/-!
How tokens come to be kept.  An interactive command and a silent one go different ways to them, but
once it is known whose the tokens are both do the same: they look at the clock, save a credential
and hand over what is in it.  A command that hands over tokens of the service has done just that.
-/

namespace TokenAcquisition

/-- A command of either kind. -/
inductive Command where
  | interactive (p : InteractiveParameters)
  | silent (p : SilentParameters)

namespace Command

def clientId : Command → String
  | .interactive p => p.clientId
  | .silent p => p.clientId

def scopes : Command → List String
  | .interactive p => p.scopes
  | .silent p => p.scopes

/-- What a command does. -/
def program (op : Operation) (bound : Option String) :
    Command → Program (Except Breakdown Acquisition)
  | .interactive p => Operation.supervised (op.interactive p bound)
  | .silent p => Operation.supervised (op.silent p bound)

end Command

namespace TokenResponse

/-- The scopes that the service names, or else those that were asked for. -/
def granted (tokens : TokenResponse) (requested : List String) : List String :=
  if tokens.scopes.isEmpty then requested else tokens.scopes

/-- What is cached of tokens that came at some time. -/
def credential (tokens : TokenResponse) (account : Account) (requested : List String)
    (now : UInt64) : Credential :=
  { account
    accessToken := some ⟨tokens.accessToken⟩
    refreshToken := tokens.refreshToken.map Secret.mk
    idToken := tokens.idToken
    expiresOn := tokens.expiresOn now
    scopes := tokens.granted requested
    tenantId := account.realm }

/-- What the caller is given of them. -/
def handed (tokens : TokenResponse) (account : Account) (requested : List String) (now : UInt64)
    (bound : Option String) : Authentication :=
  { accessToken := ⟨tokens.accessToken⟩
    idToken := tokens.idToken
    account
    expiresOn := tokens.expiresOn now
    scopes := tokens.granted requested
    tenantId := account.realm
    correlationId := bound
    fromCache := false }

end TokenResponse

namespace Program

variable {p : Program (Except Breakdown Acquisition)} {dealings : List Dealing}
  {last : Program (Except Breakdown Acquisition)}

theorem Path.of_done {result : Except Breakdown Acquisition}
    (path : (Program.done result).Path dealings last) : dealings = [] ∧ last = .done result := by
  cases path with
  | here => exact ⟨rfl, rfl⟩
  | step first => cases first

theorem Path.of_ok {result other : Acquisition}
    (path : (Program.done (.ok result)).Path dealings (.done (.ok other))) :
    dealings = [] ∧ other = result := by
  obtain ⟨nothing, same⟩ := path.of_done
  exact ⟨nothing, Except.ok.inj (Program.done.inj same)⟩

/-- A program that failed has not come to a result. -/
theorem Path.not_failed {breakdown : Breakdown} {result : Acquisition}
    (path : (Program.done (.error breakdown)).Path dealings (.done (.ok result))) : False := by
  cases path with
  | step first => cases first

/-- A command with a result was answered by the service. -/
theorem Path.exists_answer {request : TokenRequest} {result : Acquisition}
    {next : Except Failure HttpResponse → Program (Except Breakdown Acquisition)}
    (fails : ∀ failure, next (.error failure) = .done (.error (.typed failure)))
    (path : (Program.post request next).Path dealings (.done (.ok result))) :
    ∃ response delay more,
      dealings = .posted request (.respond response delay) :: .slept delay :: more ∧
      (next (.ok response)).Path more (.done (.ok result)) := by
  cases path with
  | step first path =>
      cases first with
      | post answer =>
          cases answer with
          | respond response delay =>
              cases path with
              | step second path =>
                  cases second
                  exact ⟨response, delay, _, rfl, path⟩
          | fail failure delay =>
              cases path with
              | step second path =>
                  cases second
                  rw [fails] at path
                  exact path.not_failed.elim
          | panic message delay =>
              cases path with
              | step second path =>
                  cases second
                  exact path.not_failed.elim

end Program

namespace Operation

open Program

variable {op : Operation} {bound : Option String} {account : Account} {tokens : TokenResponse}
  {dealings : List Dealing} {acquisition : Acquisition}

/-- What is noted of an application together with tokens. -/
def note (op : Operation) (clientId : String) (account : Account) (tokens : TokenResponse) :
    AppMetadata :=
  { clientId
    environment := account.environment
    foci := tokens.foci
    applicationUid := op.applicationUid }

/-- Tokens are saved without a failure. -/
def saved (op : Operation) (clientId : String) (account : Account) (tokens : TokenResponse)
    (requested : List String) (now : UInt64) : Dealing :=
  .saved clientId (tokens.credential account requested now)
    (some (op.note clientId account tokens)) (.ok ())

def afterSave (acquisition : Acquisition) :
    Except Failure Unit → Program (Except Breakdown Acquisition)
  | .error failure => .done (.error (.typed failure))
  | .ok () => .done (.ok acquisition)

/-- What is done with tokens once it is known whose they are. -/
def settling (op : Operation) (clientId : String) (account : Account) (tokens : TokenResponse)
    (requested : List String) (bound : Option String)
    (told : Authentication → Acquisition) : Program (Except Breakdown Acquisition) :=
  .now fun now =>
    .save clientId (tokens.credential account requested now)
      (some (op.note clientId account tokens))
      (afterSave (told (tokens.handed account requested now bound)))

theorem supervised_keeping (op : Operation) (p : InteractiveParameters) (bound : Option String)
    (authorization : AuthorizationResult) (account : Account) (tokens : TokenResponse) :
    supervised (op.keeping p bound authorization account tokens) =
      op.settling p.clientId account tokens p.scopes bound fun result =>
        { local? := some result
          authorization := some authorization
          token := some (.success tokens) } := by
  show Program.now _ = _
  rw [settling]
  congr 1
  funext now
  show Program.save _ _ _ _ = _
  congr 1
  funext answer
  cases answer <;> rfl

theorem supervised_renewing (op : Operation) (p : SilentParameters) (bound : Option String)
    (account : Account) (tokens : TokenResponse) :
    supervised (op.renewing p bound account tokens) =
      op.settling p.clientId account tokens p.scopes bound fun result =>
        { local? := some result, token := some (.success tokens) } := by
  show Program.now _ = _
  rw [settling]
  congr 1
  funext now
  show Program.save _ _ _ _ = _
  congr 1
  funext answer
  cases answer <;> rfl

/-! ### Results -/

/-- Who has settled tokens has saved them at the time at which they are said to have come. -/
theorem settling_ended {clientId : String} {requested : List String}
    {told : Authentication → Acquisition}
    (path : (op.settling clientId account tokens requested bound told).Path dealings
      (.done (.ok acquisition))) :
    ∃ now,
      dealings =
        [.now now, op.saved clientId account tokens requested now] ∧
      acquisition = told (tokens.handed account requested now bound) := by
  cases path with
  | step first path =>
      cases first with
      | now now =>
          cases path with
          | step second path =>
              cases second with
              | save answer =>
                  cases answer with
                  | error failure => exact path.not_failed.elim
                  | ok done =>
                      obtain ⟨rfl, rfl⟩ := path.of_ok
                      exact ⟨now, rfl, rfl⟩

/-- A refresh token was handed in, and tokens were given for it. -/
structure Granted (op : Operation) (p : SilentParameters) (bound : Option String)
    (cached : Credential) (token : Secret) (tokens : TokenResponse) (account : Account)
    (dealings : List Dealing) : Prop where
  own : cached.refreshToken = some token
  filled : token.isFilled = true
  answered : ∃ response delay,
    dealings = [.posted (op.refreshRequest p token bound) (.respond response delay),
      .slept delay] ∧
    response.tokenResult = .ok (.success tokens)
  whose : op.renewed p token bound cached tokens = .ok account

/-- A silent command has come to a result over a refresh token that was granted. -/
structure Renews (op : Operation) (p : SilentParameters) (bound : Option String)
    (cached : Credential) (tokens : TokenResponse) (account : Account) (now : UInt64)
    (dealings : List Dealing) (acquisition : Acquisition) : Prop where
  granted : ∃ token granted,
    op.Granted p bound cached token tokens account granted ∧
    dealings = granted ++
      [.now now, op.saved p.clientId account tokens p.scopes now]
  result : acquisition =
    { local? := some (tokens.handed account p.scopes now bound)
      token := some (.success tokens) }

variable {p : SilentParameters} {cached : Credential}

/-- Whoever hands in a refresh token comes to tokens that are saved, or to none at all. -/
theorem refreshing_ended
    (path : (op.refreshing p bound cached).Path dealings (.done (.ok acquisition))) :
    (acquisition.local? = none ∧ ∃ e, acquisition.token = some (.error e)) ∨
      ∃ tokens account now, op.Renews p bound cached tokens account now dealings acquisition := by
  rw [refreshing] at path
  split at path
  next token filled =>
    obtain ⟨own, filled⟩ := Option.filter_eq_some_iff.mp filled
    obtain ⟨response, delay, more, rfl, rest⟩ := path.exists_answer fun _ => rfl
    rw [afterRefresh] at rest
    rcases made : response.tokenResult with failure | tokens | e
    · rw [made] at rest
      exact rest.not_failed.elim
    · simp only [made] at rest
      cases whose : op.renewed p token bound cached tokens with
      | error failure =>
          rw [whose] at rest
          exact rest.not_failed.elim
      | ok account =>
          rw [whose] at rest
          dsimp only at rest
          rw [supervised_renewing] at rest
          obtain ⟨now, rfl, rfl⟩ := settling_ended rest
          exact .inr ⟨tokens, account, now,
            ⟨token, _, ⟨own, filled, ⟨response, delay, rfl, made⟩, whose⟩, rfl⟩, rfl⟩
    · simp only [made] at rest
      split at rest
      next =>
        cases rest with
        | step first rest =>
            cases first with
            | invalidate answer =>
                cases answer with
                | error failure => exact rest.not_failed.elim
                | ok done =>
                    obtain ⟨-, rfl⟩ := rest.of_ok
                    exact .inl ⟨rfl, e, rfl⟩
      next =>
        obtain ⟨-, rfl⟩ := rest.of_ok
        exact .inl ⟨rfl, e, rfl⟩
  next => exact path.not_failed.elim

/-- A silent command with tokens of the service got them for the refresh token that it looked
up. -/
theorem silent_ended
    (path : (supervised (op.silent p bound)).Path dealings (.done (.ok acquisition)))
    (success : acquisition.token = some (.success tokens)) :
    ∃ cached account now looks renewal,
      dealings = .lookedUp p.clientId p.account (.found cached) :: (looks ++ renewal) ∧
      (∀ dealing ∈ looks, dealing.IsSettling) ∧
      op.Renews p bound cached tokens account now renewal acquisition := by
  have renews {cached : Credential} {renewal : List Dealing}
      (path : (op.refreshing p bound cached).Path renewal (.done (.ok acquisition))) :
      ∃ account now, op.Renews p bound cached tokens account now renewal acquisition := by
    rcases refreshing_ended path with ⟨-, e, failed⟩ | ⟨other, account, now, renews⟩
    · rw [failed] at success
      cases success
    · have same := congrArg Acquisition.token renews.result
      rw [success] at same
      cases same
      exact ⟨account, now, renews⟩
  rw [supervised_silent] at path
  cases path with
  | step first path =>
      cases first with
      | lookup answer =>
          cases answer with
          | notFound | uiRequired => exact path.not_failed.elim
          | found cached =>
              rw [afterLookup] at path
              split at path
              · obtain ⟨account, now, renews⟩ := renews path
                exact ⟨cached, account, now, [], _, rfl, by simp, renews⟩
              · cases path with
                | step second path =>
                    cases second with
                    | now time =>
                        dsimp only at path
                        generalize cached.hasValidAccessToken p.scopes time = check at path
                        rcases check with panic | _ | _
                        · exact path.not_failed.elim
                        · obtain ⟨account, now, renews⟩ := renews path
                          refine ⟨cached, account, now, [.now time], _, rfl, ?_, renews⟩
                          simp [Dealing.IsSettling]
                        · obtain ⟨-, rfl⟩ := path.of_ok
                          cases success

/-- Whoever was answered by the service has saved the tokens that came. -/
theorem afterToken_ended {p : InteractiveParameters} {authorization : AuthorizationResult}
    {request : TokenRequest} {response : HttpResponse}
    (path : (op.afterToken p bound authorization request (.ok response)).Path dealings
      (.done (.ok acquisition)))
    (success : acquisition.token = some (.success tokens)) :
    ∃ account now, op.strategy.account request.endpoint tokens = .ok account ∧
      dealings =
        [.now now, op.saved p.clientId account tokens p.scopes now] ∧
      acquisition.local? = some (tokens.handed account p.scopes now bound) := by
  rw [afterToken] at path
  rcases made : response.tokenResult with failure | other | e
  · rw [made] at path
    exact path.not_failed.elim
  · simp only [made] at path
    cases whose : op.strategy.account request.endpoint other with
    | error failure =>
        rw [whose] at path
        exact path.not_failed.elim
    | ok account =>
        rw [whose] at path
        dsimp only at path
        rw [supervised_keeping] at path
        obtain ⟨now, rfl, rfl⟩ := settling_ended path
        cases success
        exact ⟨account, now, whose, rfl, rfl⟩
  · simp only [made] at path
    obtain ⟨-, rfl⟩ := path.of_ok
    cases success

theorem afterRedirect_ended {p : InteractiveParameters} {request : AuthorizationRequest}
    {answer : Option (Except Failure AuthorizationResult)}
    (path : (op.afterRedirect p bound request answer).Path dealings (.done (.ok acquisition)))
    (success : acquisition.token = some (.success tokens)) :
    ∃ earlier account now,
      dealings = earlier ++
        [.now now, op.saved p.clientId account tokens p.scopes now] ∧
      acquisition.local? = some (tokens.handed account p.scopes now bound) := by
  have tokenless {authorization : AuthorizationResult}
      (path : (Program.done (.ok { authorization := some authorization })).Path dealings
        (.done (.ok acquisition))) : False := by
    obtain ⟨-, rfl⟩ := path.of_ok
    cases success
  rcases answer with _ | failure | response | _ | _
  · cases path with
    | step first path =>
        cases first
        exact path.not_failed.elim
  · exact path.not_failed.elim
  · rw [afterRedirect] at path
    cases made : op.strategy.tokenRequest request response bound with
    | error failure =>
        rw [made] at path
        exact path.not_failed.elim
    | ok tokenRequest =>
        rw [made] at path
        obtain ⟨response, delay, more, rfl, rest⟩ := path.exists_answer fun _ => rfl
        obtain ⟨account, now, -, rfl, given⟩ := afterToken_ended rest success
        exact ⟨[_, _], account, now, rfl, given⟩
  · exact (tokenless path).elim
  · exact (tokenless path).elim

/-- An interactive command with tokens has saved them. -/
theorem interactive_ended {p : InteractiveParameters}
    (path : (supervised (op.interactive p bound)).Path dealings (.done (.ok acquisition)))
    (success : acquisition.token = some (.success tokens)) :
    ∃ earlier account now,
      dealings = earlier ++
        [.now now, op.saved p.clientId account tokens p.scopes now] ∧
      acquisition.local? = some (tokens.handed account p.scopes now bound) := by
  rw [supervised_interactive] at path
  cases path with
  | step first path =>
      cases first with
      | seeds seeds =>
          rw [afterSeeds] at path
          split at path
          next => exact path.not_failed.elim
          next request _ =>
            cases path with
            | step second path =>
                cases second with
                | launch answer =>
                    cases answer with
                    | error failure => exact path.not_failed.elim
                    | ok done =>
                        cases path with
                        | step third path =>
                            cases third with
                            | await answer =>
                                obtain ⟨earlier, account, now, rfl, given⟩ :=
                                  afterRedirect_ended path success
                                exact ⟨_ :: _ :: _ :: earlier, account, now, rfl, given⟩

end Operation

/-- A command with tokens of the service has saved what it hands over. -/
theorem Command.program_ended {command : Command} {op : Operation} {bound : Option String}
    {tokens : TokenResponse} {dealings : List Dealing} {acquisition : Acquisition}
    (path : (command.program op bound).Path dealings (.done (.ok acquisition)))
    (success : acquisition.token = some (.success tokens)) :
    ∃ earlier account now,
      dealings = earlier ++
        [.now now, op.saved command.clientId account tokens command.scopes now] ∧
      acquisition.local? = some (tokens.handed account command.scopes now bound) := by
  cases command with
  | interactive p => exact Operation.interactive_ended path success
  | silent p =>
      obtain ⟨cached, account, now, looks, renewal, rfl, -, renews⟩ :=
        Operation.silent_ended path success
      obtain ⟨token, granted, -, rfl⟩ := renews.granted
      refine ⟨.lookedUp p.clientId p.account (.found cached) :: (looks ++ granted), account, now,
        ?_, by rw [renews.result]; rfl⟩
      rw [List.cons_append, List.append_assoc]
      rfl

/-! ### What becomes of the store -/

namespace Program

variable {I : Store → Prop} {p q : Program (Except Breakdown Acquisition)} {dealing : Dealing}

/-- As long as it is answered from stores that satisfy a condition, a program makes only such
stores of them. -/
def Preserves {α : Type} (I : Store → Prop) : Program α → Prop
  | .done _ => True
  | .now next => ∀ answer, (next answer).Preserves I
  | .seeds next => ∀ answer, (next answer).Preserves I
  | .sleep _ next => next.Preserves I
  | .lookup clientId account next =>
      ∀ store, I store → (next (store.lookup clientId account)).Preserves I
  | .save clientId c metadata next =>
      (∀ store, I store → I (store.save clientId c metadata)) ∧
        ∀ answer, (next answer).Preserves I
  | .invalidate clientId account next =>
      (∀ store dropped, I store → store.invalidate? clientId account = some dropped →
        I dropped) ∧
        ∀ answer, (next answer).Preserves I
  | .post _ next => ∀ answer, (next answer).Preserves I
  | .launch _ next => ∀ answer, (next answer).Preserves I
  | .await _ next => ∀ answer, (next answer).Preserves I
  | .dispose next => next.Preserves I

theorem Preserves.step (preserves : p.Preserves I) (step : p.Step dealing q)
    (looked : ∀ {clientId account answer}, dealing = .lookedUp clientId account answer →
      ∃ store : Store, I store ∧ answer = store.lookup clientId account) : q.Preserves I := by
  cases step with
  | now | seeds | launch | await => exact preserves _
  | sleep | dispose => exact preserves
  | lookup answer =>
      obtain ⟨store, satisfied, rfl⟩ := looked rfl
      exact preserves store satisfied
  | save answer | invalidate answer => exact preserves.2 answer
  | post answer =>
      cases answer with
      | respond response delay => exact preserves (.ok response)
      | fail failure delay => exact preserves (.error failure)
      | panic => exact trivial

end Program

namespace Operation

open Program

variable {I : Store → Prop} {op : Operation} {bound : Option String}

theorem preserves_settling {clientId : String} {account : Account} {tokens : TokenResponse}
    {requested : List String} {told : Authentication → Acquisition}
    (saves : ∀ now store, I store → I (store.save clientId
      (tokens.credential account requested now) (some (op.note clientId account tokens)))) :
    (op.settling clientId account tokens requested bound told).Preserves I := by
  intro now
  refine ⟨saves now, fun answer => ?_⟩
  cases answer <;> exact trivial

/-- What a silent command makes of a store depends on what it saves for whom. -/
theorem preserves_silent {p : SilentParameters}
    (drops : ∀ store dropped, I store → store.invalidate? p.clientId p.account = some dropped →
      I dropped)
    (saves : ∀ {seen : Store} {cached token tokens account}, I seen →
      seen.lookup p.clientId p.account = .found cached →
      op.renewed p token bound cached tokens = .ok account →
      ∀ now store, I store → I (store.save p.clientId (tokens.credential account p.scopes now)
        (some (op.note p.clientId account tokens)))) :
    (supervised (op.silent p bound)).Preserves I := by
  rw [supervised_silent]
  intro seen satisfied
  cases answer : seen.lookup p.clientId p.account with
  | notFound | uiRequired => exact trivial
  | found cached =>
      have refreshes : (op.refreshing p bound cached).Preserves I := by
        rw [refreshing]
        split
        next token _ =>
          rintro (failure | response)
          · exact trivial
          · rw [afterRefresh]
            rcases response.tokenResult with failure | tokens | e
            · exact trivial
            · dsimp only
              cases whose : op.renewed p token bound cached tokens with
              | error failure => exact trivial
              | ok account =>
                  dsimp only
                  rw [supervised_renewing]
                  exact preserves_settling (saves satisfied answer whose)
            · dsimp only
              split
              · refine ⟨drops, fun answer => ?_⟩
                cases answer <;> exact trivial
              · exact trivial
        next => exact trivial
      rw [afterLookup]
      split
      · exact refreshes
      · intro now
        dsimp only
        rcases cached.hasValidAccessToken p.scopes now with panic | _ | _
        · exact trivial
        · exact refreshes
        · exact trivial

/-- So does what an interactive command makes of it. -/
theorem preserves_interactive {p : InteractiveParameters}
    (saves : ∀ {request response tokenRequest tokens account},
      op.strategy.tokenRequest request response bound = .ok tokenRequest →
      op.strategy.account tokenRequest.endpoint tokens = .ok account →
      ∀ now store, I store → I (store.save p.clientId (tokens.credential account p.scopes now)
        (some (op.note p.clientId account tokens)))) :
    (supervised (op.interactive p bound)).Preserves I := by
  rw [supervised_interactive]
  intro seeds
  rw [afterSeeds]
  split
  next => exact trivial
  next request _ =>
    rintro (failure | done)
    · exact trivial
    · rintro (_ | failure | response | _ | _)
      · exact trivial
      · exact trivial
      · rw [afterRedirect]
        cases made : op.strategy.tokenRequest request response bound with
        | error failure => exact trivial
        | ok tokenRequest =>
            rintro (failure | answer)
            · exact trivial
            · rw [afterToken]
              rcases answer.tokenResult with failure | tokens | e
              · exact trivial
              · dsimp only
                cases whose : op.strategy.account tokenRequest.endpoint tokens with
                | error failure => exact trivial
                | ok account =>
                    dsimp only
                    rw [supervised_keeping]
                    exact preserves_settling (saves made whose)
              · exact trivial
      · exact trivial
      · exact trivial

end Operation

end TokenAcquisition
