import TokenAcquisition.Proofs.Authorization.Exchange
import TokenAcquisition.Proofs.Dispatch.Advance
import TokenAcquisition.Proofs.Dispatch.Whole
import TokenAcquisition.Proofs.Flow.Resolution
import TokenAcquisition.Proofs.Program.Interactive

/-!
Codes are redeemed for the launch that they were asked for with.  Whatever goes on around a
dispatcher, an interactive command asks for tokens at most once, and only after one completion of
its own launch brought a code with the state of that launch; what it hands in then is that code,
the verifier of the challenge that was launched, and nothing that was not launched.
-/

namespace TokenAcquisition

namespace Flow

theorem Call.exists_awaiting {call : Call} {started : Started}
    (returned : call.started? = some started)
    (told : Dispatch.told? started = some (.ok ())) :
    ∃ authorization classify bound launch channel,
      call = .request authorization classify bound (.dispatched launch channel .awaiting) := by
  unfold Call.started? at returned
  split at returned
  next => cases returned; cases told
  next => cases returned; cases told
  next => exact ⟨_, _, _, _, _, rfl⟩
  next => cases returned; cases told
  next => cases returned; cases told
  next => cases returned

namespace Shared

variable {s t : Shared} {request : AuthorizationRequest} {bound : Option String} {launch : Launch}
  {channel : Nat}

/-- Whoever is told of a success is told what a completion of the launch brought. -/
theorem Reachable.exists_resolver (reached : s.Reachable)
    (member : .request request byState bound (.dispatched launch channel .awaiting) ∈ s.calls)
    {response : AuthorizationResponse} (told : s.flow.answer = some (.ok (.success response))) :
    ∃ completion pending,
      .complete browserFlow launch.token completion (.resolved pending) ∈ s.calls ∧
      completion.result request.state = .ok (.success response) := by
  rcases reached.told_cases member told with resolved | ⟨-, same⟩
  · exact resolved
  · cases same

/-- A flow that has launched a request which nobody disturbed. -/
def awaiting (request : AuthorizationRequest) (bound : Option String) : Shared :=
  let launch := launchOf request { name := "browser" } signInLaunch.token bound
  { flow :=
      { stage := .awaitingRedirect
        pending := some { request, classify := byState, channel := 0 }
        handle := some launch.handle
        token := some launch.token
        channels := [.waiting] }
    calls := [.request request byState bound (.dispatched launch 0 .awaiting)]
    contacts := [.launch launch, .bound launch.handle] }

theorem run_awaiting (request : AuthorizationRequest) (bound : Option String) :
    Run { calls := [.request request byState bound .begun] } (awaiting request bound) := by
  have begun : Run { calls := [.request request byState bound .begun] } _ := .refl
  have checked := begun.tail ⟨0, .go rfl (.check rfl)⟩
  have selected := checked.tail ⟨0, .go rfl (.select { name := "browser" })⟩
  have dispatched := selected.tail ⟨0, .go rfl (.dispatch signInLaunch.token rfl)⟩
  have returned := dispatched.tail ⟨0, .go rfl (.bind signInLaunch.handle)⟩
  exact returned.tail ⟨0, .go rfl (.keep rfl)⟩

/-- The completion of its launch answers it. -/
theorem exists_completed (request : AuthorizationRequest) (bound : Option String)
    (completion : Completion) :
    ∃ after launch pending, Run (awaiting request bound) after ∧
      (awaiting request bound).launches = [launch] ∧
      after.calls =
        [.request request byState bound (.dispatched launch 0 .awaiting),
          .complete browserFlow launch.token completion (.resolved pending)] ∧
      after.flow.answer = some (completion.result request.state) := by
  have begun : Run (awaiting request bound) _ := .refl
  have reported := begun.tail
    ⟨1, .enter (.complete browserFlow signInLaunch.token completion .begun) trivial⟩
  have taken := reported.tail
    ⟨1, .go rfl (.take (take?_eq_some_iff.mpr ⟨rfl, rfl, rfl, rfl, rfl⟩))⟩
  have released := taken.tail ⟨1, .go rfl .releaseTaken⟩
  have resolved := released.tail ⟨1, .go rfl .resolve⟩
  exact ⟨_, _, _, resolved, rfl, rfl, rfl⟩

theorem exists_answered (request : AuthorizationRequest) (bound : Option String)
    (completion : Completion) :
    ∃ after launch pending, Run { calls := [.request request byState bound .begun] } after ∧
      after.calls =
        [.request request byState bound (.dispatched launch 0 .awaiting),
          .complete browserFlow launch.token completion (.resolved pending)] ∧
      after.flow.answer = some (completion.result request.state) := by
  obtain ⟨after, launch, pending, completed, -, calls, told⟩ :=
    exists_completed request bound completion
  exact ⟨after, launch, pending, (run_awaiting request bound).trans completed, calls, told⟩

end Shared

end Flow

namespace Dispatch

open TokenAcquisition.Flow

variable {s t : System} {trace : List Occurrence} {n : Nat} {dealings : List Dealing}

/-- The work comes back from the call that launched its request. -/
theorem System.Answers.exists_launch {request : AuthorizationRequest}
    (answers : s.Answers n (.launched request (.ok ())) t) (engaged : s.Engaged) :
    ∃ job launch channel, s.dispatcher.jobs[n]? = some job ∧
      .request request byState (some job.correlationId) (.dispatched launch channel .awaiting) ∈
        (s.shared n).calls := by
  obtain ⟨k, call, started, busy, called, returned, told⟩ := answers.gives
  obtain ⟨job, program, call', found, progress, called', asked⟩ := engaged.asked busy
  obtain rfl : call = call' := Option.some.inj (called.symm.trans called')
  obtain ⟨_, job', _, program', next, -, found', progress', -, -, step⟩ := answers.exists_program
  obtain rfl : job = job' := Option.some.inj (found.symm.trans found')
  obtain rfl : program = program' := Progress.running.inj (progress.symm.trans progress')
  obtain ⟨authorization, classify, bound, launch, channel, rfl⟩ :=
    Call.exists_awaiting returned told
  cases step with
  | launch =>
      obtain ⟨rfl, rfl, rfl⟩ := asked
      exact ⟨job, launch, channel, found, List.mem_of_getElem? called⟩

/-- A call has resolved a flow by a redirect that brings what the one launch asked for. -/
def Brings (flow : Flow.Shared) (x : Exchange) (call : Flow.Call) : Prop :=
  ∃ launch completion pending redirect,
    call = .complete browserFlow launch.token completion (.resolved pending) ∧
    flow.launches = [launch] ∧ x.LaunchedBy launch ∧ x.BroughtBy completion redirect

theorem Brings.taken_ne_nil {flow : Flow.Shared} {x : Exchange} {call : Flow.Call}
    (brings : Brings flow x call) : call.taken ≠ [] := by
  obtain ⟨_, _, _, _, rfl, -⟩ := brings
  exact Flow.Call.HasResolved.taken_ne_nil trivial

theorem Brings.of_run {middle t : System} {k : Nat} {x : Exchange} {call : Flow.Call}
    (brings : Brings (middle.shared n) x call) (found : (middle.shared n).calls[k]? = some call)
    (run : Flow.Shared.Run (middle.shared n) (t.shared n)) (reached : (t.shared n).Reachable) :
    Brings (t.shared n) x call ∧ (t.shared n).calls[k]? = some call := by
  obtain ⟨launch, completion, pending, redirect, rfl, launched, asked, brought⟩ := brings
  have kept := run.call_over found trivial
  refine ⟨⟨launch, completion, pending, redirect, rfl, ?_, asked, brought⟩, kept⟩
  have only := reached.coherent.length_launches_le
  have first : launch ∈ (t.shared n).launches := by
    have before : launch ∈ (middle.shared n).launches := by simp [launched]
    exact (Flow.Shared.Run.contacts_prefix run).filterMap _ |>.subset before
  exact Lists.eq_singleton_of_mem only first

variable {op : Operation} {p : InteractiveParameters} {id : Uuid} {seeds : Seeds}
  {request : AuthorizationRequest} {response : AuthorizationResponse} {job : Job}

/-- A command that was told of a code was told what a completion of its launch brought. -/
theorem Deals.exists_brings {start middle : System} {seconds : Option Nat} (fresh : s.IsFresh)
    (run : s.Run trace start) (found : start.dispatcher.jobs[n]? = some job)
    (builds : Operation.Builds p seeds (some job.correlationId) request)
    (deals : Deals n start
      [.seeds seeds, .launched request (.ok ()), .awaited seconds (some (.ok (.success response)))]
      middle) :
    ∃ (k : Nat) (call : Call), (middle.shared n).calls[k]? = some call ∧
      Brings (middle.shared n) (.of request response.code) call := by
  obtain ⟨told, awaits⟩ := Deals.exists_gets
    (show Deals n start ([_, _] ++ .awaited seconds _ :: []) middle from deals)
  obtain ⟨launched, launches⟩ := Deals.exists_gets
    (show Deals n start ([_] ++ .launched request _ :: []) told from awaits.deals)
  obtain ⟨_, before⟩ := launches.deals.exists_run
  obtain ⟨_, between⟩ := launches.exists_run
  obtain ⟨_, after⟩ := awaits.exists_run
  obtain ⟨_, comesBack⟩ := launches.exists_answers
  obtain ⟨own, launch, channel, atLaunch, member⟩ :=
    comesBack.exists_launch ((run.trans before).engaged fresh)
  have named := launches.deals.correlationId_eq found atLaunch
  have early := ((run.trans before).trans between).shared_reachable fresh n
  have member := (between.shared_run n).mem_of_isOver member trivial
  obtain ⟨completion, pending, resolved, succeeded⟩ := early.exists_resolver member awaits.gives
  obtain ⟨k, atK⟩ := List.mem_iff_getElem?.mp resolved
  obtain ⟨only, agent, made⟩ := early.coherent.launched member
  obtain ⟨redirect, brought⟩ := Exchange.broughtBy_of_result succeeded
  have asked : (Exchange.of request response.code).LaunchedBy launch := by
    rw [made]
    exact Exchange.launchedBy_launchOf builds agent launch.token _ response.code
  have brings : Brings (told.shared n) (.of request response.code) _ :=
    ⟨launch, completion, pending, redirect, rfl, only, asked, brought⟩
  have late := (((run.trans before).trans between).trans after).shared_reachable fresh n
  obtain ⟨brings, kept⟩ := brings.of_run atK (after.shared_run n) late
  exact ⟨k, _, kept, brings⟩

/-- What the requests for tokens of a command are bound to, when the command began in one state of
a run and has dealt with so much in another. -/
structure BindsCode (id : Uuid) (n : Nat) (start t : System) (dealings : List Dealing) : Prop where
  once : (dealings.filterMap Dealing.posted?).length ≤ 1
  /-- When tokens are asked for, one completion has brought the code, and no other call ever takes
  the request from the flow. -/
  brought : ∀ {earlier later : List Dealing} {request : TokenRequest} {reply : TransportAnswer},
    dealings = earlier ++ .posted request reply :: later →
    ∃ middle x k call, Gets n start earlier (.posted request reply) middle t ∧
      (middle.shared n).calls[k]? = some call ∧ Brings (middle.shared n) x call ∧
      (∀ {j : Nat} {other : Call}, (t.shared n).calls[j]? = some other → other.taken ≠ [] →
        j = k) ∧
      x.RedeemedBy request id ∧
      ((∀ seeds, .seeds seeds ∈ earlier → seeds.state ≠ []) → x.state ≠ "")
  /-- Whoever takes the request without bringing a code keeps tokens from being asked for. -/
  unless_brought : ∀ {call : Call}, call ∈ (t.shared n).calls → call.taken ≠ [] →
    (∀ x, ¬ Brings (t.shared n) x call) → dealings.filterMap Dealing.posted? = []
  /-- So does every answer but a code, and an answer that does not come in time. -/
  unless_told : ∀ {seconds : Option Nat} {answer : Option (Except Failure AuthorizationResult)},
    .awaited seconds answer ∈ dealings →
    (∀ response, answer ≠ some (.ok (.success response))) →
    dealings.filterMap Dealing.posted? = []

theorem BindsCode.of_nothing {start : System} (id : Uuid)
    (nothing : dealings.filterMap Dealing.posted? = []) : BindsCode id n start t dealings where
  once := by simp [nothing]
  brought := by
    rintro earlier later request reply rfl
    simp [Dealing.posted?] at nothing
  unless_brought _ _ _ := nothing
  unless_told _ _ := nothing

/-- The command has asked for tokens, when and with what it has to. -/
theorem BindsCode.of_redeems {start : System} {earlier later : List Dealing}
    {tokenRequest : TokenRequest} {reply : TransportAnswer} (fresh : s.IsFresh)
    (run : s.Run trace start) (found : start.dispatcher.jobs[n]? = some job)
    (named : job.correlationId = id.render)
    (deals : Deals n start (earlier ++ .posted tokenRequest reply :: later) t)
    (redeems : op.Redeems p (some id.render) seeds request response earlier tokenRequest)
    (settling : ∀ dealing ∈ later, dealing.IsSettling) :
    BindsCode id n start t (earlier ++ .posted tokenRequest reply :: later) := by
  obtain ⟨rfl, built, made⟩ := redeems
  obtain ⟨middle, gets⟩ := deals.exists_gets
  have nothing := Dealing.filterMap_posted?_eq_nil settling
  have builds := Operation.builds built
  rw [← named] at builds
  obtain ⟨k, call, atK, brings⟩ := gets.deals.exists_brings fresh run found builds
  obtain ⟨_, before⟩ := gets.deals.exists_run
  obtain ⟨_, after⟩ := gets.exists_run
  have reached := ((run.trans before).trans after).shared_reachable fresh n
  obtain ⟨later, kept⟩ := brings.of_run atK (after.shared_run n) reached
  have only {j : Nat} {other : Call} (atJ : (t.shared n).calls[j]? = some other)
      (took : other.taken ≠ []) : j = k :=
    reached.coherent.taker_unique atJ kept took brings.taken_ne_nil
  constructor
  · have one : Dealing.posted? (.posted tokenRequest reply) = some tokenRequest := rfl
    rw [List.filterMap_append, List.filterMap_cons_some one, nothing]
    exact Nat.le_refl 1
  · intro earlier' later' request' reply' same
    obtain ⟨rfl, posted, rfl⟩ :=
      Lists.split_unique same rfl nothing (Option.some_ne_none request')
    obtain ⟨rfl, rfl⟩ := Dealing.posted.inj posted
    refine ⟨middle, _, k, call, gets, atK, brings, only, Exchange.redeemedBy_tokenRequest made, ?_⟩
    intro drawn
    have state : request.state = seeds.stateText := builds.state
    have filled := Seeds.stateText_ne_empty (drawn seeds (List.mem_cons_self ..))
    rwa [← state] at filled
  · intro other member took without
    obtain ⟨j, atJ⟩ := List.mem_iff_getElem?.mp member
    obtain rfl := only atJ took
    obtain rfl : call = other := Option.some.inj (kept.symm.trans atJ)
    exact absurd later (without _)
  · intro seconds answer member otherwise
    have awaited : answer = some (.ok (.success response)) := by
      rcases List.mem_append.mp member with before | after
      · simp at before
        exact before.2
      · rcases List.mem_cons.mp after with same | after
        · cases same
        · exact (settling _ after).elim
    exact absurd awaited (otherwise response)

theorem Deals.bindsCode (fresh : s.IsFresh) (run : s.Run trace t) (op : Operation)
    (p : InteractiveParameters) (id : Uuid) (reply : Nat) {u : System}
    (deals : Deals t.dispatcher.jobs.length
      (t.submitted .interactive id.render reply
        (Operation.supervised (op.interactive p (some id.render)))) dealings u) :
    BindsCode id t.dispatcher.jobs.length
      (t.submitted .interactive id.render reply
        (Operation.supervised (op.interactive p (some id.render)))) u dealings := by
  generalize program : Operation.supervised (op.interactive p (some id.render)) = work at deals ⊢
  have begun : s.Run (trace ++ []) (t.submitted .interactive id.render reply work) :=
    run.step (.submit ..)
  obtain ⟨job, found, named, fits⟩ := t.exists_submitted .interactive id.render reply work
  obtain ⟨last, path⟩ := deals.exists_path found fits
  rw [← program] at path
  rcases op.posted_cases path with
    nothing | ⟨seeds, request, response, earlier, tokenRequest, answer, later, redeems, rfl,
      settling⟩
  · exact .of_nothing id nothing
  · exact .of_redeems fresh begun found named deals redeems settling

/-- A fresh system in which requests are made of the given seeds. -/
def System.drawing (seeds : Seeds) : System :=
  { System.sample with
    dispatcher :=
      { System.sample.dispatcher with
        supply := { seeds := fun _ => seeds, token := fun _ => .ofRandom [] } } }

/-- A first interactive command comes to its launch, whatever the service is to answer. -/
theorem exists_asked {rule : System → System → Prop}
    (still : ∀ {s t : System}, t.dispatcher.clock = s.dispatcher.clock → rule s t)
    {first : Seeds → Program (Except Breakdown Acquisition)}
    {next : Except Failure Unit → Program (Except Breakdown Acquisition)}
    (launching : first seeds = .launch request next) (id : String) (reply : Nat)
    (transport : List TransportAnswer) :
    ∃ t job,
      DealsUnder rule 0
        ((System.drawing seeds).submitted .interactive id reply (.seeds first)) [.seeds seeds] t ∧
      t.dispatcher.jobs = [job] ∧ job.progress = .running (.launch request next) ∧
      (t.uses 0).workCall = some 0 ∧
      t.shared 0 = { calls := [.request request Flow.byState (some id) .begun] } ∧
      t.dispatcher.cache = { store := {}, file := {} } ∧ t.dispatcher.transport = transport ∧
      t.dispatcher.lock = none ∧ t.dispatcher.write = .none := by
  have submitted : DealsUnder rule 0 ((System.drawing seeds).submitted .interactive id reply
    (.seeds first)) [] _ := .start
  have answering := submitted.further (.pass 0 0 transport [] .launched
    { seeds := fun _ => seeds, token := fun _ => .ofRandom [] } 0) (still rfl) rfl rfl .stay
  have received := answering.further (.receive (n := 0) rfl rfl rfl) (still rfl) rfl rfl .turn
  have registered := received.further (.register (n := 0) rfl rfl) (still rfl) rfl rfl .turn
  have started := registered.further (.spawn (n := 0) rfl rfl) (still rfl) rfl rfl .start
  have drawn := started.deal (.work (n := 0) rfl rfl trivial rfl) (still rfl) rfl rfl rfl rfl
    (.seeds _) rfl
  have asked := drawn.further (.beginLaunch (n := 0) rfl (congrArg _ launching) rfl) (still rfl)
    rfl rfl .stay
  exact ⟨_, _, asked, rfl, congrArg _ launching, rfl, rfl, rfl, rfl, rfl, rfl⟩

/-- Nothing keeps it from being told of the completion of its launch. -/
theorem exists_told {first : Seeds → Program (Except Breakdown Acquisition)}
    {next : Except Failure Unit → Program (Except Breakdown Acquisition)}
    {answered : Option (Except Failure AuthorizationResult) →
      Program (Except Breakdown Acquisition)}
    {seconds : Option Nat} (launching : first seeds = .launch request next)
    (awaiting : next (.ok ()) = .await seconds answered) (id : String) (reply : Nat)
    (completion : Completion) (transport : List TransportAnswer) :
    ∃ t,
      Deals 0 ((System.drawing seeds).submitted .interactive id reply (.seeds first))
        [.seeds seeds, .launched request (.ok ()),
          .awaited seconds (some (completion.result request.state))] t ∧
      Stands 0 (answered (some (completion.result request.state))) t ∧
      t.dispatcher.jobs.length = 1 ∧ t.store = {} ∧ t.dispatcher.transport = transport := by
  obtain ⟨s, job, asked, jobs, progress, busy, shared, cache, answers, free, idle⟩ :=
    exists_asked (fun _ => trivial) launching id reply transport
  obtain ⟨after, launch, pending, run, calls, told⟩ :=
    Flow.Shared.exists_answered request (some id) completion
  have found : s.dispatcher.jobs[0]? = some job := by rw [jobs]; rfl
  rw [← shared] at run
  obtain ⟨t, shares, atT, there, same, others⟩ :=
    asked.exists_share (fun _ => trivial) found run
  have called : (t.uses 0).calls = _ := (congrArg (·.calls) there).trans calls
  obtain ⟨u, launched, atU, resumed, -⟩ := shares.exists_launched (fun _ => trivial) atT progress
    (same.trans busy) (congrArg (·[0]?) called) rfl
  obtain ⟨v, awaited, atV, ended⟩ :=
    launched.exists_awaited (fun _ => trivial) atU (congrArg _ awaiting) told
  rw [resumed, others] at ended
  refine ⟨v, awaited.deals, ⟨⟨_, atV, rfl, rfl⟩, ?_, ?_, ?_⟩, ?_, ?_, ?_⟩
  · rw [ended]
    exact free
  · rw [ended]
    exact idle
  · rw [ended]
    show s.dispatcher.cache.file.IsWritable
    rw [cache]
    decide
  · rw [ended]
    show (((s.dispatcher.jobs.set 0 _).set 0 _).set 0 _).length = 1
    rw [jobs]
    rfl
  · rw [System.store, ended]
    exact congrArg Cache.store cache
  · rw [ended]
    exact answers

theorem launching_of_build {bound : Option String}
    (built : (op.authorizationDraft p).build seeds bound = .ok request) :
    op.afterSeeds p bound seeds = .launch request (op.afterLaunch p bound request) := by
  rw [Operation.afterSeeds, built]

theorem posting_of_success {bound : Option String} {completion : Completion}
    {tokenRequest : TokenRequest}
    (succeeded : completion.result request.state = .ok (.success response))
    (made : op.strategy.tokenRequest request response bound = .ok tokenRequest) :
    op.afterRedirect p bound request (some (completion.result request.state)) =
      .post tokenRequest (op.afterToken p bound (.success response) tokenRequest) := by
  rw [succeeded, Operation.afterRedirect, made]

/-- When the user agrees, the code is redeemed. -/
theorem exists_redeemed {completion : Completion} {tokenRequest : TokenRequest} (reply : Nat)
    (built : (op.authorizationDraft p).build seeds (some id.render) = .ok request)
    (succeeded : completion.result request.state = .ok (.success response))
    (made : op.strategy.tokenRequest request response (some id.render) = .ok tokenRequest) :
    ∃ earlier answer t,
      Deals 0 ((System.drawing seeds).submitted .interactive id.render reply
        (Operation.supervised (op.interactive p (some id.render))))
        (earlier ++ [.posted tokenRequest answer]) t := by
  rw [Operation.supervised_interactive]
  obtain ⟨told, deals, stands, -⟩ :=
    exists_told (launching_of_build built) rfl id.render reply completion []
  rw [posting_of_success succeeded made] at stands
  obtain ⟨job, found, progress, -⟩ := stands.exists_job
  obtain ⟨answer, t, posted⟩ := deals.free.exists_posted (fun _ => trivial) found progress
  exact ⟨_, answer, t, posted.deals⟩

theorem System.drawing_isFresh (seeds : Seeds) : (System.drawing seeds).IsFresh := by
  constructor <;> simp [System.drawing, System.sample]

/-- What a user is asked for who agrees. -/
def sampleParameters : InteractiveParameters := { clientId := "app", redirectUri := "app://done" }

def drawnSeeds : Seeds := { state := [0], verifier := [0] }

def sampleCompletion : Completion :=
  { code := .complete, payload := { finalUrl := some "app://done?code=c&state=AA" } }

theorem sampleCompletion_agrees : ∃ request,
    (service.authorizationDraft sampleParameters).build drawnSeeds
      (some (Uuid.ofRandom []).render) = .ok request ∧
      sampleCompletion.result request.state = .ok (.success { code := "c", state := "AA" }) := by
  have derived : authorityEndpoint (page "/common") authorizePath =
      .ok (page "/common/oauth2/v2.0/authorize") := by decide +kernel
  obtain ⟨request, built, state⟩ : ∃ request,
      (service.authorizationDraft sampleParameters).build drawnSeeds
        (some (Uuid.ofRandom []).render) = .ok request ∧
        request.state = drawnSeeds.stateText := by
    rw [Operation.build_eq, show service.strategy.config.authority = page "/common" from rfl,
      derived]
    exact ⟨_, rfl, rfl⟩
  refine ⟨request, built, ?_⟩
  rw [state]
  decide +kernel

/-- A command that asks for a code and redeems it. -/
theorem sample_bindsCode :
    ∃ id start dealings t, dealings.filterMap Dealing.posted? ≠ [] ∧
      BindsCode id 0 start t dealings := by
  obtain ⟨request, built, succeeded⟩ := sampleCompletion_agrees
  obtain ⟨earlier, answer, t, deals⟩ := exists_redeemed 0 built succeeded rfl
  have binds := Deals.bindsCode (System.drawing_isFresh drawnSeeds) .refl service
    sampleParameters (.ofRandom []) 0 deals
  exact ⟨_, _, _, t, by simp [List.filterMap_append, Dealing.posted?], binds⟩

end Dispatch

end TokenAcquisition
