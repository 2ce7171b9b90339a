import Mathlib.Logic.Relation
import TokenAcquisition.Flow

/-!
Calls on a flow that several share.  A call takes the lock of the flow a few times and does what
may take long, such as choosing an agent, launching it and releasing what it holds, without the
lock.  Between any two steps of a call there may be any steps of others, also of calls that the
agent makes while it is chosen or launched; dropping a flow is one more disposal.

A call is a record of how far it is.  `Call.Step` is one step of it against the flow, and what the
user agent is told meanwhile.  `Shared.Step` lets any call go on, or a new one begin.
-/

namespace TokenAcquisition.Flow

/-- How far a request is once the flow is dispatched. -/
inductive Call.Launching where
  | launching
  /-- The launch has bound a handle that the flow does not know of yet. -/
  | bound (handle : AgentHandle)
  /-- The flow has moved on, and the handle is to be released. -/
  | surplus (handle : AgentHandle)
  /-- The launch has failed, which the flow does not know yet. -/
  | failing (failure : Failure)
  /-- The request has returned a channel to wait at. -/
  | awaiting
  /-- The request has returned a failure and let go of what was pending. -/
  | failed (failure : Failure) (dropped : Option Pending)
  | panicked (message : String)

inductive Call.Requesting where
  | begun
  | selecting
  | selected (agent : Agent)
  | refused (failure : Failure)
  | panicked (message : String)
  | dispatched (launch : Launch) (channel : Nat) (progress : Call.Launching)

inductive Call.Completing where
  | begun
  | took (pending : Pending) (handle : Option AgentHandle)
  | released (pending : Pending)
  /-- It has returned that it resolved the flow. -/
  | resolved (pending : Pending)
  /-- It has returned that there was nothing to resolve. -/
  | ignored

inductive Call.Disposing where
  | begun
  | closed (pending : Option Pending) (handle : Option AgentHandle)
  | released (pending : Option Pending)
  | ended (pending : Option Pending)

/-- A call on a flow, with its arguments. -/
inductive Call where
  | request (authorization : AuthorizationRequest) (classify : Classifier)
      (bound : Option String) (progress : Call.Requesting)
  | complete (requestCode : Int) (token : Uuid) (completion : Completion)
      (progress : Call.Completing)
  | dispose (progress : Call.Disposing)

/-- What passes between a flow and the user agent. -/
inductive Contact where
  | launch (launch : Launch)
  | bound (handle : AgentHandle)
  | release (handle : AgentHandle)

namespace Contact

@[simp]
def launch? : Contact → Option Launch
  | .launch payload => some payload
  | _ => none

@[simp]
def bound? : Contact → Option AgentHandle
  | .bound handle => some handle
  | _ => none

@[simp]
def released? : Contact → Option AgentHandle
  | .release handle => some handle
  | _ => none

def event? : Contact → Option Event
  | .launch payload => some (.launch payload)
  | .bound _ => none
  | .release handle => some (.release handle)

@[simp]
theorem launch?_comp_release : launch? ∘ release = fun _ => none := rfl

@[simp]
theorem bound?_comp_release : bound? ∘ release = fun _ => none := rfl

@[simp]
theorem released?_comp_release : released? ∘ release = some := rfl

end Contact

namespace Call

/-- The call has done nothing yet. -/
def IsBegun : Call → Prop
  | .request _ _ _ .begun => True
  | .complete _ _ _ .begun => True
  | .dispose .begun => True
  | _ => False

/-- The call has returned or panicked. -/
def IsOver : Call → Prop
  | .request _ _ _ (.refused _) => True
  | .request _ _ _ (.panicked _) => True
  | .request _ _ _ (.dispatched _ _ .awaiting) => True
  | .request _ _ _ (.dispatched _ _ (.failed _ _)) => True
  | .request _ _ _ (.dispatched _ _ (.panicked _)) => True
  | .complete _ _ _ (.resolved _) => True
  | .complete _ _ _ .ignored => True
  | .dispose (.ended _) => True
  | _ => False

/-- How a request that is over went. -/
def started? : Call → Option Started
  | .request _ _ _ (.refused failure) => some (.refused failure)
  | .request _ _ _ (.panicked message) => some (.panicked message)
  | .request _ _ _ (.dispatched _ _ .awaiting) => some .awaiting
  | .request _ _ _ (.dispatched _ _ (.failed failure _)) => some (.refused failure)
  | .request _ _ _ (.dispatched _ _ (.panicked message)) => some (.panicked message)
  | _ => none

/-- One step of a call: the flow and the call before it, what passes between the flow and the user
agent, the flow and the call after it.  Which agent is chosen, which token a launch gets and how it
ends is up to others. -/
inductive Step : Flow → Call → List Contact → Flow → Call → Prop where
  | check {flow authorization classify bound} :
      flow.ensureIdle = .ok () →
      Step flow (.request authorization classify bound .begun) []
        flow (.request authorization classify bound .selecting)
  | refuse {flow authorization classify bound failure} :
      flow.ensureIdle = .error failure →
      Step flow (.request authorization classify bound .begun) []
        flow (.request authorization classify bound (.refused failure))
  | select {flow authorization classify bound} (agent : Agent) :
      Step flow (.request authorization classify bound .selecting) []
        flow (.request authorization classify bound (.selected agent))
  | selectNone {flow authorization classify bound} (failure : Failure) :
      Step flow (.request authorization classify bound .selecting) []
        flow (.request authorization classify bound (.refused failure))
  | selectPanic {flow authorization classify bound} (message : String) :
      Step flow (.request authorization classify bound .selecting) []
        flow (.request authorization classify bound (.panicked message))
  | dispatch {flow flow' authorization classify bound agent launch} (token : Uuid) :
      flow.dispatch authorization classify agent token bound = .ok (launch, flow') →
      Step flow (.request authorization classify bound (.selected agent)) [.launch launch]
        flow' (.request authorization classify bound
          (.dispatched launch flow.channels.length .launching))
  | refuseLate {flow authorization classify bound agent failure} :
      flow.ensureIdle = .error failure →
      Step flow (.request authorization classify bound (.selected agent)) []
        flow (.request authorization classify bound (.refused failure))
  | bind {flow authorization classify bound launch channel} (handle : AgentHandle) :
      Step flow (.request authorization classify bound (.dispatched launch channel .launching))
        [.bound handle]
        flow (.request authorization classify bound
          (.dispatched launch channel (.bound handle)))
  | fail {flow authorization classify bound launch channel} (failure : Failure) :
      Step flow (.request authorization classify bound (.dispatched launch channel .launching)) []
        flow (.request authorization classify bound
          (.dispatched launch channel (.failing failure)))
  | panic {flow authorization classify bound launch channel} (message : String) :
      Step flow (.request authorization classify bound (.dispatched launch channel .launching)) []
        flow (.request authorization classify bound
          (.dispatched launch channel (.panicked message)))
  | keep {flow flow' authorization classify bound launch channel handle} :
      flow.launched handle = (flow', none) →
      Step flow (.request authorization classify bound
          (.dispatched launch channel (.bound handle))) []
        flow' (.request authorization classify bound (.dispatched launch channel .awaiting))
  | keepNot {flow flow' authorization classify bound launch channel handle surplus} :
      flow.launched handle = (flow', some surplus) →
      Step flow (.request authorization classify bound
          (.dispatched launch channel (.bound handle))) []
        flow' (.request authorization classify bound
          (.dispatched launch channel (.surplus surplus)))
  | giveBack {flow authorization classify bound launch channel handle} :
      Step flow (.request authorization classify bound
          (.dispatched launch channel (.surplus handle))) [.release handle]
        flow (.request authorization classify bound (.dispatched launch channel .awaiting))
  | giveUp {flow authorization classify bound launch channel failure} :
      Step flow (.request authorization classify bound
          (.dispatched launch channel (.failing failure))) []
        flow.launchFailed (.request authorization classify bound
          (.dispatched launch channel (.failed failure flow.pending)))
  | take {flow flow' requestCode token completion pending handle} :
      flow.take? requestCode token = some (pending, handle, flow') →
      Step flow (.complete requestCode token completion .begun) []
        flow' (.complete requestCode token completion (.took pending handle))
  | ignore {flow requestCode token completion} :
      flow.take? requestCode token = none →
      Step flow (.complete requestCode token completion .begun) []
        flow (.complete requestCode token completion .ignored)
  | releaseTaken {flow requestCode token completion pending handle} :
      Step flow (.complete requestCode token completion (.took pending handle))
        (handle.toList.map .release)
        flow (.complete requestCode token completion (.released pending))
  | resolve {flow requestCode token completion pending} :
      Step flow (.complete requestCode token completion (.released pending)) []
        (flow.resolve pending completion)
        (.complete requestCode token completion (.resolved pending))
  | close {flow flow' pending handle} :
      flow.close = (pending, handle, flow') →
      Step flow (.dispose .begun) [] flow' (.dispose (.closed pending handle))
  | releaseClosed {flow pending handle} :
      Step flow (.dispose (.closed pending handle)) (handle.toList.map .release)
        flow (.dispose (.released pending))
  | abandon {flow pending} :
      Step flow (.dispose (.released pending)) []
        (flow.abandon pending) (.dispose (.ended pending))

theorem Step.not_isOver {flow flow' : Flow} {call call' : Call} {contacts : List Contact}
    (step : Step flow call contacts flow' call') : ¬ call.IsOver := by
  cases step <;> simp [IsOver]

/-- What a request gave the flow to keep until its completion. -/
def opened : Call → List Pending
  | .request authorization classify _ (.dispatched _ channel _) =>
      [{ request := authorization, classify, channel }]
  | _ => []

/-- What a call took from the flow, whatever it has done with it since. -/
def taken : Call → List Pending
  | .request _ _ _ (.dispatched _ _ (.failed _ dropped)) => dropped.toList
  | .complete _ _ _ (.took pending _) => [pending]
  | .complete _ _ _ (.released pending) => [pending]
  | .complete _ _ _ (.resolved pending) => [pending]
  | .dispose (.closed pending _) => pending.toList
  | .dispose (.released pending) => pending.toList
  | .dispose (.ended pending) => pending.toList
  | _ => []

/-- What the channel of a request holds once the call took the request from the flow. -/
def contents : Call → List Channel
  | .request _ _ _ (.dispatched _ _ (.failed _ dropped)) =>
      dropped.toList.map fun _ => .dropped
  | .complete _ _ _ (.took _ _) => [.waiting]
  | .complete _ _ _ (.released _) => [.waiting]
  | .complete _ _ completion (.resolved pending) =>
      [.sent (pending.classify completion pending.request)]
  | .dispose (.closed pending _) => pending.toList.map fun _ => .waiting
  | .dispose (.released pending) => pending.toList.map fun _ => .waiting
  | .dispose (.ended pending) => pending.toList.map fun _ => .dropped
  | _ => []

/-- The handles that a call has to release or to hand over. -/
def held : Call → List AgentHandle
  | .request _ _ _ (.dispatched _ _ (.bound handle)) => [handle]
  | .request _ _ _ (.dispatched _ _ (.surplus handle)) => [handle]
  | .complete _ _ _ (.took _ handle) => handle.toList
  | .dispose (.closed _ handle) => handle.toList
  | _ => []

/-- The launch of a request whose launch has returned a handle. -/
def returned : Call → List Launch
  | .request _ _ _ (.dispatched launch _ (.bound _)) => [launch]
  | .request _ _ _ (.dispatched launch _ (.surplus _)) => [launch]
  | .request _ _ _ (.dispatched launch _ .awaiting) => [launch]
  | _ => []

def launches : Call → List Launch
  | .request _ _ _ (.dispatched launch _ _) => [launch]
  | _ => []

end Call

/-- A flow with the calls on it, in the order in which they began, and all that passed between it
and the user agent. -/
structure Shared where
  flow : Flow := {}
  calls : List Call := []
  contacts : List Contact := []

namespace Shared

def launches (s : Shared) : List Launch :=
  s.contacts.filterMap Contact.launch?

def bound (s : Shared) : List AgentHandle :=
  s.contacts.filterMap Contact.bound?

def released (s : Shared) : List AgentHandle :=
  s.contacts.filterMap Contact.released?

/-- No call is in progress. -/
def Quiet (s : Shared) : Prop :=
  ∀ call ∈ s.calls, call.IsOver

/-- The call of a number begins or goes on. -/
inductive Step : Shared → Nat → Shared → Prop where
  | enter {s} (call : Call) :
      call.IsBegun →
      Step s s.calls.length { s with calls := s.calls ++ [call] }
  | go {s n call contacts flow call'} :
      s.calls[n]? = some call →
      Call.Step s.flow call contacts flow call' →
      Step s n
        { flow, calls := s.calls.set n call', contacts := s.contacts ++ contacts }

def Run : Shared → Shared → Prop :=
  Relation.ReflTransGen fun s t => ∃ n, Step s n t

def Reachable (s : Shared) : Prop :=
  Run {} s

theorem Reachable.induct {motive : Shared → Prop} {s : Shared} (reached : Reachable s)
    (start : motive {})
    (step : ∀ {s n t}, Reachable s → motive s → Step s n t → motive t) : motive s := by
  induction reached with
  | refl => exact start
  | tail before last inductionHypothesis =>
      obtain ⟨n, last⟩ := last
      exact step before inductionHypothesis last

theorem Reachable.step {s t : Shared} {n : Nat} (reached : Reachable s) (step : Step s n t) :
    Reachable t :=
  Relation.ReflTransGen.tail reached ⟨n, step⟩

theorem Reachable.run {s t : Shared} (reached : Reachable s) (run : Run s t) : Reachable t :=
  Relation.ReflTransGen.trans reached run

variable {s t : Shared} {m n : Nat} {call : Call}

/-- A call stays where it is or goes on by a step of its own. -/
theorem Step.call_cases (step : Step s m t) (found : s.calls[n]? = some call) :
    ∃ call', t.calls[n]? = some call' ∧
      (call' = call ∨ ∃ contacts, Call.Step s.flow call contacts t.flow call') := by
  have inside := (List.getElem?_eq_some_iff.mp found).1
  cases step with
  | enter => exact ⟨call, by simpa [List.getElem?_append_left inside] using found, .inl rfl⟩
  | @go _ before contacts _ after atStep step =>
      by_cases same : m = n
      · subst same
        obtain rfl : before = call := Option.some.inj (atStep.symm.trans found)
        exact ⟨after, by simp [inside], .inr ⟨contacts, step⟩⟩
      · exact ⟨call, by simpa [List.getElem?_set_ne same] using found, .inl rfl⟩

theorem Run.call_over (run : Run s t) (found : s.calls[n]? = some call) (isOver : call.IsOver) :
    t.calls[n]? = some call := by
  induction run with
  | refl => exact found
  | tail _ last inductionHypothesis =>
      obtain ⟨m, last⟩ := last
      obtain ⟨call', atLast, same | ⟨contacts, step⟩⟩ := last.call_cases inductionHypothesis
      · rwa [same] at atLast
      · exact absurd isOver step.not_isOver

end Shared

/-- A request for the smallest scope. -/
def signIn : AuthorizationRequest :=
  { clientId := "app"
    redirectUri := "app://done"
    authority := { scheme := "https", authority := none, path := "/common" }
    endpoint := { scheme := "https", authority := none, path := "/common/authorize" }
    scope := "openid"
    state := "state"
    pkce := { verifier := ⟨"verifier"⟩, challenge := "challenge" } }

def signInLaunch : Launch :=
  launchOf signIn { name := "browser" } (.ofRandom []) none

end TokenAcquisition.Flow
