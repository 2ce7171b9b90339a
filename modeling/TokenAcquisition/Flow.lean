import TokenAcquisition.Agent
import TokenAcquisition.Authorization.Request
import TokenAcquisition.Authorization.Result

/-!
Authorization flows.  One flow launches a user agent once and is resolved once: by the first
completion that carries the token of the launch, or by being disposed of.

Each function that changes a flow is one step that nothing can come between.  What runs between
the steps of a request, the choice of an agent and its launch, may itself complete the flow or
dispose of it; that is why each step looks at the stage anew.
-/

namespace TokenAcquisition

inductive Flow.Stage where
  | idle
  | dispatched
  | awaitingRedirect
  | completed
  | disposed
  deriving DecidableEq, Repr

def Flow.Stage.label : Flow.Stage → String
  | .idle => "idle"
  | .dispatched => "dispatched"
  | .awaitingRedirect => "awaiting_redirect"
  | .completed => "completed"
  | .disposed => "disposed"

/-- What becomes of a completion of a request. -/
abbrev Flow.Classifier :=
  Completion → AuthorizationRequest → Except Failure AuthorizationResult

/-- What leads from a flow to whoever awaits its redirect. -/
inductive Flow.Channel where
  | waiting
  | sent (answer : Except Failure AuthorizationResult)
  /-- Nothing has been sent and nothing will be. -/
  | dropped

structure Flow.Pending where
  request : AuthorizationRequest
  classify : Flow.Classifier
  channel : Nat

/-- A flow: its stage, the request that still awaits a completion, what the agent holds, the token
of the launch, and the channels to those who await a redirect. -/
structure Flow where
  stage : Flow.Stage := .idle
  pending : Option Flow.Pending := none
  handle : Option AgentHandle := none
  token : Option Uuid := none
  channels : List Flow.Channel := []

namespace Flow

def browserFlow : Int := 1001

def abandoned : Failure :=
  .client ClientCode.authorizationAbandoned
    "authorization flow was disposed before a redirect arrived"

/-- What whoever awaits a channel is told, if anything yet. -/
def Channel.poll : Channel → Option (Except Failure AuthorizationResult)
  | .waiting => none
  | .sent answer => some answer
  | .dropped => some (.error abandoned)

def poll (flow : Flow) (channel : Nat) : Option (Except Failure AuthorizationResult) :=
  flow.channels[channel]?.bind Channel.poll

/-- The answer to the first request that was launched; there is no second one. -/
def answer (flow : Flow) : Option (Except Failure AuthorizationResult) :=
  flow.poll 0

/-! ### Requests -/

def ensureIdle (flow : Flow) : Except Failure Unit :=
  match flow.stage with
  | .idle => .ok ()
  | .disposed =>
      .error (.client ClientCode.flowDisposed
        "authorization requested on a disposed orchestrator")
  | other =>
      .error (.client ClientCode.authorizationFailed
        ("authorization already started (state " ++ other.label ++ ")"))

def launchOf (request : AuthorizationRequest) (agent : Agent) (token : Uuid)
    (bound : Option String) : Launch :=
  { requestCode := browserFlow
    url := request.toUrl
    redirectUri := request.redirectUri
    headers := request.headers
    token, agent
    correlationId := bound }

def dispatched (flow : Flow) (request : AuthorizationRequest) (classify : Classifier)
    (token : Uuid) : Flow :=
  { flow with
    stage := .dispatched
    token := some token
    pending := some { request, classify, channel := flow.channels.length }
    channels := flow.channels ++ [.waiting] }

/-- Starts the flow: what to launch, and the flow that awaits its completion. -/
def dispatch (flow : Flow) (request : AuthorizationRequest) (classify : Classifier)
    (agent : Agent) (token : Uuid) (bound : Option String) : Except Failure (Launch × Flow) :=
  flow.ensureIdle.map fun _ =>
    (launchOf request agent token bound, flow.dispatched request classify token)

theorem ensureIdle_eq_ok_iff (flow : Flow) : flow.ensureIdle = .ok () ↔ flow.stage = .idle := by
  cases stage : flow.stage <;> simp [ensureIdle, stage]

theorem dispatch_eq_ok_iff {flow after : Flow} {request : AuthorizationRequest}
    {classify : Classifier} {agent : Agent} {token : Uuid} {bound : Option String}
    {launch : Launch} :
    flow.dispatch request classify agent token bound = .ok (launch, after) ↔
      flow.stage = .idle ∧ launch = launchOf request agent token bound ∧
        after = flow.dispatched request classify token := by
  rw [← ensureIdle_eq_ok_iff, dispatch]
  cases flow.ensureIdle with
  | error failure => simp [Except.map]
  | ok _ => simp [Except.map, eq_comm]

theorem dispatch_eq_error_iff {flow : Flow} {request : AuthorizationRequest}
    {classify : Classifier} {agent : Agent} {token : Uuid} {bound : Option String}
    {failure : Failure} :
    flow.dispatch request classify agent token bound = .error failure ↔
      flow.ensureIdle = .error failure := by
  rw [dispatch]
  cases flow.ensureIdle <;> simp [Except.map]

/-- Takes in the handle of a launch.  A flow that moved on meanwhile gives it back to be
released. -/
def launched (flow : Flow) (handle : AgentHandle) : Flow × Option AgentHandle :=
  if flow.stage = .dispatched then
    ({ flow with stage := .awaitingRedirect, handle := some handle }, none)
  else (flow, some handle)

theorem launched_eq_kept {flow after : Flow} {handle : AgentHandle}
    (kept : flow.launched handle = (after, none)) :
    flow.stage = .dispatched ∧
      after = { flow with stage := .awaitingRedirect, handle := some handle } := by
  unfold launched at kept
  split at kept
  next dispatched => exact ⟨dispatched, (Prod.mk.inj kept).1.symm⟩
  next => cases kept

theorem launched_eq_surplus {flow after : Flow} {handle surplus : AgentHandle}
    (given : flow.launched handle = (after, some surplus)) :
    flow.stage ≠ .dispatched ∧ after = flow ∧ surplus = handle := by
  unfold launched at given
  split at given
  next => cases given
  next moved =>
    cases given
    exact ⟨moved, rfl, rfl⟩

def put (flow : Flow) (channel : Nat) (content : Channel) : Flow :=
  { flow with channels := flow.channels.set channel content }

/-- Lets go of a request that awaits its completion. -/
def abandon (flow : Flow) (pending : Option Pending) : Flow :=
  match pending with
  | some pending => flow.put pending.channel .dropped
  | none => flow

@[simp]
theorem abandon_handle (flow : Flow) (pending : Option Pending) :
    (flow.abandon pending).handle = flow.handle := by
  cases pending <;> rfl

@[simp]
theorem abandon_pending (flow : Flow) (pending : Option Pending) :
    (flow.abandon pending).pending = flow.pending := by
  cases pending <;> rfl

@[simp]
theorem abandon_stage (flow : Flow) (pending : Option Pending) :
    (flow.abandon pending).stage = flow.stage := by
  cases pending <;> rfl

@[simp]
theorem abandon_token (flow : Flow) (pending : Option Pending) :
    (flow.abandon pending).token = flow.token := by
  cases pending <;> rfl

def launchFailed (flow : Flow) : Flow :=
  { flow.abandon flow.pending with stage := .disposed, pending := none }

/-! ### Completions -/

def completed (flow : Flow) : Flow :=
  { flow with stage := .completed, pending := none, handle := none }

/-- Takes the request that awaits its completion, with the handle to release.  There is nothing to
take for another request code, for a token of another launch and after the first completion. -/
def take? (flow : Flow) (requestCode : Int) (token : Uuid) :
    Option (Pending × Option AgentHandle × Flow) :=
  if requestCode ≠ browserFlow then none
  else if flow.token ≠ some token then none
  else flow.pending.map fun pending => (pending, flow.handle, flow.completed)

theorem take?_eq_some_iff {flow after : Flow} {requestCode : Int} {token : Uuid}
    {pending : Pending} {handle : Option AgentHandle} :
    flow.take? requestCode token = some (pending, handle, after) ↔
      requestCode = browserFlow ∧ flow.token = some token ∧ flow.pending = some pending ∧
        handle = flow.handle ∧ after = flow.completed := by
  by_cases known : requestCode = browserFlow
  · by_cases own : flow.token = some token
    · simp only [take?, known, own, ne_eq, not_true_eq_false, ↓reduceIte,
        Option.map_eq_some_iff, Prod.mk.injEq, true_and]
      constructor
      · rintro ⟨held, present, rfl, rfl, rfl⟩
        exact ⟨present, rfl, rfl⟩
      · rintro ⟨present, rfl, rfl⟩
        exact ⟨pending, present, rfl, rfl, rfl⟩
    · simp [take?, known, own]
  · simp [take?, known]

def resolve (flow : Flow) (pending : Pending) (completion : Completion) : Flow :=
  flow.put pending.channel (.sent (pending.classify completion pending.request))

/-- Resolves the flow by a completion: the flow and the handle to release. -/
def complete? (flow : Flow) (requestCode : Int) (token : Uuid) (completion : Completion) :
    Option (Flow × Option AgentHandle) :=
  (flow.take? requestCode token).map fun taken =>
    (taken.2.2.resolve taken.1 completion, taken.2.1)

/-! ### Disposal -/

def closed (flow : Flow) : Flow :=
  { flow with stage := .disposed, pending := none, handle := none }

/-- Ends the flow: the request that still awaited its completion, the handle to release, and the
flow. -/
def close (flow : Flow) : Option Pending × Option AgentHandle × Flow :=
  if flow.stage = .disposed then (none, none, flow)
  else (flow.pending, flow.handle, flow.closed)

theorem close_eq_cases {flow after : Flow} {pending : Option Pending}
    {handle : Option AgentHandle} (closing : flow.close = (pending, handle, after)) :
    (flow.stage = .disposed ∧ pending = none ∧ handle = none ∧ after = flow) ∨
      (flow.stage ≠ .disposed ∧ pending = flow.pending ∧ handle = flow.handle ∧
        after = flow.closed) := by
  unfold close at closing
  split at closing
  next disposed =>
    cases closing
    exact .inl ⟨disposed, rfl, rfl, rfl⟩
  next live =>
    cases closing
    exact .inr ⟨live, rfl, rfl, rfl⟩

/-- Ends the flow, with the handle to release.  Whoever still awaits a redirect is told that the
flow is abandoned. -/
def dispose (flow : Flow) : Flow × Option AgentHandle :=
  (flow.close.2.2.abandon flow.close.1, flow.close.2.1)

/-! ### Whole requests -/

/-- The classifier of the platform: a redirect must carry the state of its request. -/
def byState : Classifier :=
  fun completion request => completion.result request.state

/-- What the user agent is told. -/
inductive Event where
  | launch (launch : Launch)
  | release (handle : AgentHandle)

def Event.isLaunch : Event → Bool
  | .launch _ => true
  | .release _ => false

def released (handle : Option AgentHandle) : List Event :=
  handle.toList.map .release

inductive Started where
  | awaiting
  | refused (failure : Failure)
  | panicked (message : String)

/-- Runs a request from start to end.  `whileSelecting` and `whileLaunching` are what others do to
the flow while the agent is chosen and launched. -/
def request (flow : Flow) (agents : List Agent) (authorization : AuthorizationRequest)
    (token : Uuid) (bound : Option String)
    (whileSelecting : Flow → Flow × List Event)
    (whileLaunching : Launch → Flow → (Flow × List Event) × LaunchAnswer) :
    Started × Flow × List Event :=
  match flow.ensureIdle with
  | .error failure => (.refused failure, flow, [])
  | .ok () =>
      let (flow, selecting) := whileSelecting flow
      match Agent.select agents with
      | .error failure => (.refused failure, flow, selecting)
      | .ok agent =>
          match flow.dispatch authorization byState agent token bound with
          | .error failure => (.refused failure, flow, selecting)
          | .ok (launch, flow) =>
              let ((flow, launching), answer) := whileLaunching launch flow
              let events := selecting ++ .launch launch :: launching
              match answer with
              | .launched =>
                  let (flow, handle) := flow.launched launch.handle
                  (.awaiting, flow, events ++ released handle)
              | .failed failure => (.refused failure, flow.launchFailed, events)
              | .panicked message => (.panicked message, flow, events)

def undisturbed (flow : Flow) : Flow × List Event :=
  (flow, [])

/-- The launch of an agent that leaves the flow alone. -/
def answering (answer : LaunchAnswer) (_ : Launch) (flow : Flow) :
    (Flow × List Event) × LaunchAnswer :=
  ((flow, []), answer)

end Flow

end TokenAcquisition
