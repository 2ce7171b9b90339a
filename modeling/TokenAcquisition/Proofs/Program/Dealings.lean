import TokenAcquisition.Operation
import TokenAcquisition.Token.Response

/-!
What programs of commands deal with.  `Program.Step` is one request of a program with its answer,
`Program.Path` a row of them.  Nothing is said of where the answers come from: a program is known
by the answers that it may get.
-/

namespace TokenAcquisition

/-- A request of a program with the answer to it. -/
inductive Dealing where
  | now (time : UInt64)
  | seeds (seeds : Seeds)
  | slept (milliseconds : Nat)
  | lookedUp (clientId : String) (account : Account) (answer : Lookup)
  | saved (clientId : String) (credential : Credential) (metadata : Option AppMetadata)
      (answer : Except Failure Unit)
  | invalidated (clientId : String) (account : Account) (answer : Except Failure Unit)
  | posted (request : TokenRequest) (answer : TransportAnswer)
  | launched (request : AuthorizationRequest) (answer : Except Failure Unit)
  | awaited (seconds : Option Nat) (answer : Option (Except Failure AuthorizationResult))
  | disposed

/-- The request for tokens, if it was one. -/
def Dealing.posted? : Dealing → Option TokenRequest
  | .posted request _ => some request
  | _ => none

/-- It was for the time, for a rest or for a place in the cache. -/
def Dealing.IsSettling : Dealing → Prop
  | .now _ => True
  | .slept _ => True
  | .saved _ _ _ _ => True
  | _ => False

/-- The flow was waited for, and answered. -/
def Dealing.IsRedirect : Dealing → Prop
  | .awaited _ (some _) => True
  | _ => False

/-- The command has waited long enough, or disposes of its flow. -/
def Dealing.GivesUp : Dealing → Prop
  | .awaited _ none => True
  | .disposed => True
  | _ => False

/-- How often the cache was asked for another store. -/
def Dealing.changes : Dealing → Nat
  | .saved _ _ _ _ => 1
  | .invalidated _ _ _ => 1
  | _ => 0

theorem Dealing.filterMap_posted?_eq_nil {dealings : List Dealing}
    (settling : ∀ dealing ∈ dealings, dealing.IsSettling) :
    dealings.filterMap Dealing.posted? = [] := by
  rw [List.filterMap_eq_nil_iff]
  intro dealing member
  have settling := settling dealing member
  cases dealing <;> first | rfl | cases settling

theorem Dealing.IsSettling.not_givesUp {dealing : Dealing} (settling : dealing.IsSettling) :
    ¬ dealing.GivesUp := by
  cases dealing <;> first | exact id | cases settling

namespace Program

variable {p q r : Program (Except Breakdown Acquisition)} {dealing : Dealing}
  {dealings : List Dealing}

/-- What follows a request for tokens.  The work ends when the network panics. -/
def afterPost (next : Except Failure HttpResponse → Program (Except Breakdown Acquisition)) :
    TransportAnswer → Program (Except Breakdown Acquisition)
  | .respond response delay => .sleep delay (next (.ok response))
  | .fail failure delay => .sleep delay (next (.error failure))
  | .panic message delay => .sleep delay (.done (.error (.panic message)))

/-- A program goes on with an answer. -/
inductive Step : Program (Except Breakdown Acquisition) → Dealing →
    Program (Except Breakdown Acquisition) → Prop where
  | now {next} (time : UInt64) : Step (.now next) (.now time) (next time)
  | seeds {next} (seeds : Seeds) : Step (.seeds next) (.seeds seeds) (next seeds)
  | sleep {milliseconds next} : Step (.sleep milliseconds next) (.slept milliseconds) next
  | lookup {clientId account next} (answer : Lookup) :
      Step (.lookup clientId account next) (.lookedUp clientId account answer) (next answer)
  | save {clientId credential metadata next} (answer : Except Failure Unit) :
      Step (.save clientId credential metadata next)
        (.saved clientId credential metadata answer) (next answer)
  | invalidate {clientId account next} (answer : Except Failure Unit) :
      Step (.invalidate clientId account next) (.invalidated clientId account answer) (next answer)
  | post {request next} (answer : TransportAnswer) :
      Step (.post request next) (.posted request answer) (afterPost next answer)
  | launch {request next} (answer : Except Failure Unit) :
      Step (.launch request next) (.launched request answer) (next answer)
  | await {seconds next} (answer : Option (Except Failure AuthorizationResult)) :
      Step (.await seconds next) (.awaited seconds answer) (next answer)
  | dispose {next} : Step (.dispose next) .disposed next

/-- A program goes on with some answers, one after another. -/
inductive Path : Program (Except Breakdown Acquisition) → List Dealing →
    Program (Except Breakdown Acquisition) → Prop where
  | here {program} : Path program [] program
  | step {program dealing next dealings last} :
      Step program dealing next → Path next dealings last →
      Path program (dealing :: dealings) last

theorem Path.concat (path : p.Path dealings q) (step : q.Step dealing r) :
    p.Path (dealings ++ [dealing]) r := by
  induction path with
  | here => exact .step step .here
  | step first _ inductionHypothesis => exact .step first (inductionHypothesis step)

theorem Path.eq_nil_of_done {result : Except Breakdown Acquisition}
    (path : (Program.done result).Path dealings q) : dealings = [] := by
  cases path with
  | here => rfl
  | step first => cases first

/-- No program comes back to where it was. -/
theorem Path.eq_nil_of_loop (path : p.Path dealings p) : dealings = [] := by
  -- Otherwise what follows the first answer would come back to where it was as well.
  induction p generalizing dealings with
  | done => exact path.eq_nil_of_done
  | post request next inductionHypothesis =>
      cases path with
      | here => rfl
      | step first later =>
          have posted := first
          cases first with
          | post reply =>
              cases reply with
              | panic =>
                  cases later with
                  | step second later =>
                      cases second
                      cases later with
                      | step third => cases third
              | respond | fail =>
                  cases later with
                  | step second later =>
                      have slept := second
                      cases second
                      have loop := (later.concat posted).concat slept
                      cases List.append_eq_nil_iff.mp (inductionHypothesis _ loop) |>.2
  | sleep _ _ inductionHypothesis | dispose _ inductionHypothesis =>
      cases path with
      | here => rfl
      | step first later =>
          have loop := first
          cases first
          cases List.append_eq_nil_iff.mp (inductionHypothesis (later.concat loop)) |>.2
  | now _ inductionHypothesis | seeds _ inductionHypothesis | lookup _ _ _ inductionHypothesis
  | save _ _ _ _ inductionHypothesis | invalidate _ _ _ inductionHypothesis
  | launch _ _ inductionHypothesis | await _ _ inductionHypothesis =>
      cases path with
      | here => rfl
      | step first later =>
          have loop := first
          cases first
          cases List.append_eq_nil_iff.mp (inductionHypothesis _ (later.concat loop)) |>.2

/-- An answer brings every program further. -/
theorem Step.ne (step : p.Step dealing q) : p ≠ q := by
  rintro rfl
  cases Path.eq_nil_of_loop (.step step .here)

/-- Whatever it is answered, a program but waits, looks at the clock and saves what it has. -/
def Settles {α : Type} : Program α → Prop
  | .done _ => True
  | .now next => ∀ answer, (next answer).Settles
  | .sleep _ next => next.Settles
  | .save _ _ _ next => ∀ answer, (next answer).Settles
  | _ => False

theorem Settles.step (settles : p.Settles) (step : p.Step dealing q) :
    q.Settles ∧ dealing.IsSettling := by
  cases step with
  | now | save => exact ⟨settles _, trivial⟩
  | sleep => exact ⟨settles, trivial⟩
  | _ => cases settles

theorem Settles.path (settles : p.Settles) (path : p.Path dealings q) :
    ∀ dealing ∈ dealings, dealing.IsSettling := by
  induction path with
  | here => simp
  | step first _ inductionHypothesis =>
      obtain ⟨later, settling⟩ := settles.step first
      exact List.forall_mem_cons.mpr ⟨settling, inductionHypothesis later⟩

theorem Settles.last (settles : p.Settles) (path : p.Path dealings q) : q.Settles := by
  induction path with
  | here => exact settles
  | step first _ inductionHypothesis => exact inductionHypothesis (settles.step first).1

/-- A program that has come to drop tokens did not just settle. -/
theorem Path.not_settles {clientId : String} {account : Account}
    {next : Except Failure Unit → Program (Except Breakdown Acquisition)}
    (path : p.Path dealings (.invalidate clientId account next)) : ¬ p.Settles :=
  fun settles => settles.last path

theorem settles_afterPost
    {next : Except Failure HttpResponse → Program (Except Breakdown Acquisition)}
    (settles : ∀ answer, (next answer).Settles) (answer : TransportAnswer) :
    (afterPost next answer).Settles := by
  cases answer with
  | respond response delay => exact settles (.ok response)
  | fail failure delay => exact settles (.error failure)
  | panic => exact trivial

/-- Whatever it is answered, a program asks the cache for another store so often at most. -/
def ChangesAtMost {α : Type} : Nat → Program α → Prop
  | _, .done _ => True
  | n, .now next => ∀ answer, (next answer).ChangesAtMost n
  | n, .seeds next => ∀ answer, (next answer).ChangesAtMost n
  | n, .sleep _ next => next.ChangesAtMost n
  | n, .lookup _ _ next => ∀ answer, (next answer).ChangesAtMost n
  | 0, .save _ _ _ _ => False
  | n + 1, .save _ _ _ next => ∀ answer, (next answer).ChangesAtMost n
  | 0, .invalidate _ _ _ => False
  | n + 1, .invalidate _ _ next => ∀ answer, (next answer).ChangesAtMost n
  | n, .post _ next => ∀ answer, (next answer).ChangesAtMost n
  | n, .launch _ next => ∀ answer, (next answer).ChangesAtMost n
  | n, .await _ next => ∀ answer, (next answer).ChangesAtMost n
  | n, .dispose next => next.ChangesAtMost n

theorem ChangesAtMost.step {n : Nat} (atMost : p.ChangesAtMost n) (step : p.Step dealing q) :
    ∃ m, m + dealing.changes = n ∧ q.ChangesAtMost m := by
  cases step with
  | now | seeds | lookup | launch | await => exact ⟨n, rfl, atMost _⟩
  | sleep | dispose => exact ⟨n, rfl, atMost⟩
  | save answer | invalidate answer =>
      cases n with
      | zero => cases atMost
      | succ m => exact ⟨m, rfl, atMost answer⟩
  | post answer =>
      refine ⟨n, rfl, ?_⟩
      cases answer with
      | respond response delay => exact atMost (.ok response)
      | fail failure delay => exact atMost (.error failure)
      | panic => exact trivial

theorem ChangesAtMost.path {n : Nat} (atMost : p.ChangesAtMost n) (path : p.Path dealings q) :
    ∃ m, m ≤ n ∧ q.ChangesAtMost m := by
  induction path generalizing n with
  | here => exact ⟨n, Nat.le_refl n, atMost⟩
  | step first _ inductionHypothesis =>
      obtain ⟨k, rfl, rest⟩ := atMost.step first
      obtain ⟨m, below, last⟩ := inductionHypothesis rest
      exact ⟨m, Nat.le_trans below (Nat.le_add_right _ _), last⟩

/-- As long as no flow answers it, a program asks neither for tokens nor for another store. -/
def Abstains {α : Type} : Program α → Prop
  | .done _ => True
  | .now next => ∀ answer, (next answer).Abstains
  | .seeds next => ∀ answer, (next answer).Abstains
  | .sleep _ next => next.Abstains
  | .lookup _ _ next => ∀ answer, (next answer).Abstains
  | .launch _ next => ∀ answer, (next answer).Abstains
  | .await _ next => (next none).Abstains
  | .dispose next => next.Abstains
  | .save _ _ _ _ | .invalidate _ _ _ | .post _ _ => False

theorem Abstains.step (abstains : p.Abstains) (step : p.Step dealing q)
    (unanswered : ¬ dealing.IsRedirect) : q.Abstains ∧ dealing.posted? = none := by
  cases step with
  | now | seeds | lookup | launch => exact ⟨abstains _, rfl⟩
  | sleep | dispose => exact ⟨abstains, rfl⟩
  | await answer =>
      cases answer with
      | none => exact ⟨abstains, rfl⟩
      | some result => exact absurd trivial unanswered
  | save | invalidate | post => cases abstains

theorem Abstains.path (abstains : p.Abstains) (path : p.Path dealings q)
    (unanswered : ∀ dealing ∈ dealings, ¬ dealing.IsRedirect) :
    q.Abstains ∧ dealings.filterMap Dealing.posted? = [] := by
  induction path with
  | here => exact ⟨abstains, rfl⟩
  | step first _ inductionHypothesis =>
      obtain ⟨now, later⟩ := List.forall_mem_cons.mp unanswered
      obtain ⟨abstains, unposted⟩ := abstains.step first now
      rw [List.filterMap_cons_none unposted]
      exact inductionHypothesis abstains later

end Program

/-- Work goes on with a result, and its program ends with a failure. -/
theorem Operation.supervised_ofResult_bind {α : Type} (result : Except Failure α)
    (next : α → Work Acquisition) :
    supervised (Work.ofResult result >>= next) =
      match result with
      | .error failure => .done (.error (.typed failure))
      | .ok value => supervised (next value) := by
  cases result <;> rfl

/-- An answer that is no error gives the tokens that its body holds. -/
theorem HttpResponse.tokenResult_of_read {response : HttpResponse} {tokens : TokenResponse}
    (fine : response.status < 400)
    (read : (Json.parseText? response.body).bind TokenResponse.ofJson? = some tokens) :
    response.tokenResult = .ok (.success tokens) := by
  rw [tokenResult, read]
  exact if_neg (Nat.not_le_of_lt fine)

/-- A page of a service. -/
def page (path : String) : Url :=
  { scheme := "https", authority := some { host := "login.example" }, path }

/-- Work for a service whose endpoints are two of its pages. -/
def service : Operation :=
  { strategy :=
      { config := { authority := page "/common", tokenEndpoint := page "/common/token" }
        registry := {} }
    applicationUid := 0 }

end TokenAcquisition
