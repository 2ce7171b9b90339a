import Mathlib.Logic.Function.Basic
import TokenAcquisition.Dispatch.Dispatcher
import TokenAcquisition.Proofs.Flow.Calls

/-!
A dispatcher and everything that goes on around it at once: callers who submit commands, the lane
of the interactive ones, the work of each command, whoever calls on its flow, the owners of the
reply loops.  Between any two steps of one there may be any steps of the others.

`System.Step` is one step of any of them, with what is to be seen of it.  The programs of commands
are any programs, so a command may end in whatever way; and any calls may be made on its flow, at
any time and by anyone, as a completion does that found its session registered.
-/

namespace TokenAcquisition

inductive Callback.Reaction where
  | onSuccess (authentication : Authentication)
  | onCancel
  | onError (failure : Failure)
  deriving DecidableEq

/-- A callback that notes what it is asked to do. -/
def Callback.noting : Callback (List Callback.Reaction) where
  onSuccess authentication := [.onSuccess authentication]
  onCancel := [.onCancel]
  onError failure := [.onError failure]

namespace Dispatch

/-- What is done for a command, one thing after another. -/
inductive Milestone where
  | received
  | registered
  | started
  | ended (result : Except Breakdown Acquisition)
  | unregistered
  | disposed
  | recorded (label : String)
  | posted (reply : Nat) (outcome : Outcome)

/-- What is to be seen of a step. -/
inductive Occurrence where
  | reached (n : Nat) (milestone : Milestone)
  /-- A delivery that the owner of a reply loop ran has used the callback of a command. -/
  | reacted (reply n : Nat) (reaction : Callback.Reaction)

/-- The program asks for nothing but what is at hand, and not for the flow. -/
def IsLocal : Program (Except Breakdown Acquisition) → Prop
  | .done _ => False
  | .launch _ _ => False
  | .dispose _ => False
  | _ => True

/-- The calls on the flow of a command. -/
structure Use where
  calls : List Flow.Call := []
  contacts : List Flow.Contact := []
  /-- The number of the call that the work is in. -/
  workCall : Option Nat := none
  /-- The number of the call by which the lane disposes of the flow. -/
  laneCall : Option Nat := none

/-- A dispatcher with the calls on the flows of its commands. -/
structure System where
  dispatcher : Dispatcher
  uses : Nat → Use := fun _ => {}

/-- Whoever finishes the commands of a lane is there. -/
def Dispatcher.IsServed (d : Dispatcher) (lane : Lane) : Prop :=
  lane = .interactive → d.laneIsOpen = true

def Dispatcher.flow (d : Dispatcher) (n : Nat) : Flow :=
  (d.jobs[n]?.map Job.flow).getD {}

namespace System

/-- The flow of a command with the calls on it. -/
def shared (s : System) (n : Nat) : Flow.Shared :=
  { flow := s.dispatcher.flow n, calls := (s.uses n).calls, contacts := (s.uses n).contacts }

/-- What the user agent was told in the meantime. -/
def news (before after : Flow.Shared) : List Event :=
  ((after.contacts.drop before.contacts.length).filterMap Flow.Contact.event?).map fun e =>
    .deed (.agent e)

/-- Some call on the flow of a command has gone on. -/
def share (s : System) (n : Nat) (job : Job) (after : Flow.Shared) : System :=
  { dispatcher :=
      (s.dispatcher.setJob n { job with flow := after.flow }).log (news (s.shared n) after)
    uses := Function.update s.uses n
      { s.uses n with calls := after.calls, contacts := after.contacts } }

def beginWorkCall (s : System) (n : Nat) (call : Flow.Call) : System :=
  { s with
    uses := Function.update s.uses n
      { s.uses n with
        calls := (s.uses n).calls ++ [call]
        workCall := some (s.uses n).calls.length } }

def endWorkCall (s : System) (n : Nat) (dispatcher : Dispatcher) : System :=
  { dispatcher, uses := Function.update s.uses n { s.uses n with workCall := none } }

def beginLaneCall (s : System) (n : Nat) : System :=
  { s with
    uses := Function.update s.uses n
      { s.uses n with
        calls := (s.uses n).calls ++ [.dispose .begun]
        laneCall := some (s.uses n).calls.length } }

def endLaneCall (s : System) (n : Nat) (dispatcher : Dispatcher) : System :=
  { dispatcher, uses := Function.update s.uses n { s.uses n with laneCall := none } }

/-- What is to be seen of the end of the start of a flow. -/
def afterLaunch (n : Nat) : Flow.Started → List Occurrence
  | .panicked message => [.reached n (.ended (.error (.panic message)))]
  | _ => []

/-- One step of anyone. -/
inductive Step : System → List Occurrence → System → Prop where
  | submit {s : System} (lane : Lane) (correlationId : String) (reply : Nat)
      (program : Program (Except Breakdown Acquisition)) :
      Step s []
        { s with dispatcher := s.dispatcher.enqueue lane correlationId reply program }
  | tell {s : System} {n job d} :
      s.dispatcher.jobs[n]? = some job → s.dispatcher.tell? n = some d →
      Step s [.reached n (.posted job.reply (Dispatcher.refusal job.correlationId))]
        { s with dispatcher := d }
  /-- The lane of the interactive commands is gone, wherever it was. -/
  | closeLane {s : System} :
      Step s [] { s with dispatcher := { s.dispatcher with laneIsOpen := false } }
  | receive {s : System} {n d} :
      s.dispatcher.laneIsOpen = true → s.dispatcher.receive? = some d → d.current = some n →
      Step s [.reached n .received] { s with dispatcher := d }
  | register {s : System} {n d} :
      s.dispatcher.laneIsOpen = true → s.dispatcher.register? n = some d →
      Step s [.reached n .registered] { s with dispatcher := d }
  | spawn {s : System} {n d} :
      s.dispatcher.laneIsOpen = true → s.dispatcher.spawn? n = some d →
      Step s [.reached n .started] { s with dispatcher := d }
  | startSilent {s : System} {n d} :
      s.dispatcher.startSilent? n = some d →
      Step s [.reached n .started] { s with dispatcher := d }
  | work {s : System} {n job program d} :
      s.dispatcher.jobs[n]? = some job → job.progress = .running program → IsLocal program →
      s.dispatcher.advance? n = some d →
      Step s [] { s with dispatcher := d }
  | finish {s : System} {n job result d} :
      s.dispatcher.jobs[n]? = some job → job.progress = .running (.done result) →
      s.dispatcher.advance? n = some d →
      Step s [.reached n (.ended result)] { s with dispatcher := d }
  | beginLaunch {s : System} {n job request next} :
      s.dispatcher.jobs[n]? = some job → job.progress = .running (.launch request next) →
      (s.uses n).workCall = none →
      Step s []
        (s.beginWorkCall n (.request request Flow.byState (some job.correlationId) .begun))
  | endLaunch {s : System} {n k job request next call started} :
      s.dispatcher.jobs[n]? = some job → job.progress = .running (.launch request next) →
      (s.uses n).workCall = some k → (s.uses n).calls[k]? = some call →
      call.started? = some started →
      Step s (afterLaunch n started)
        (s.endWorkCall n (s.dispatcher.afterLaunch n job next started))
  | beginDispose {s : System} {n job next} :
      s.dispatcher.jobs[n]? = some job → job.progress = .running (.dispose next) →
      (s.uses n).workCall = none →
      Step s [] (s.beginWorkCall n (.dispose .begun))
  | endDispose {s : System} {n k job next pending} :
      s.dispatcher.jobs[n]? = some job → job.progress = .running (.dispose next) →
      (s.uses n).workCall = some k → (s.uses n).calls[k]? = some (.dispose (.ended pending)) →
      Step s [] (s.endWorkCall n (s.dispatcher.resume n job next))
  | acquire {s : System} {n d} :
      s.dispatcher.acquire? n = some d →
      Step s [] { s with dispatcher := d }
  | endWrite {s : System} {d} :
      s.dispatcher.endWrite? = some d →
      Step s [] { s with dispatcher := d }
  /-- Time passes, and the world comes to answer in another way. -/
  | pass {s : System} (clock : Nat) (now : UInt64) (transport : List TransportAnswer)
      (agents : List Agent) (launchAnswer : LaunchAnswer) (supply : Supply) (launches : Nat) :
      Step s []
        { s with
          dispatcher :=
            { s.dispatcher with clock, now, transport, agents, launchAnswer, supply, launches } }
  /-- Anyone's call on a flow begins or goes on. -/
  | call {s : System} {n k job after} :
      s.dispatcher.jobs[n]? = some job → Flow.Shared.Step (s.shared n) k after →
      Step s [] (s.share n job after)
  /-- A completion finds no session. -/
  | orphan {s : System} :
      s.dispatcher.session = none →
      Step s []
        { s with
          dispatcher := { s.dispatcher with metrics := s.dispatcher.metrics.recordOrphan } }
  | unregister {s : System} {n d} :
      s.dispatcher.laneIsOpen = true → s.dispatcher.unregister? n = some d →
      Step s [.reached n .unregistered] { s with dispatcher := d }
  | beginDisposal {s : System} {n job result} :
      s.dispatcher.laneIsOpen = true → s.dispatcher.jobs[n]? = some job →
      job.progress = .closing .unregistered result → (s.uses n).laneCall = none →
      Step s [] (s.beginLaneCall n)
  | endDisposal {s : System} {n k job result pending} :
      s.dispatcher.laneIsOpen = true → s.dispatcher.jobs[n]? = some job →
      job.progress = .closing .unregistered result → (s.uses n).laneCall = some k →
      (s.uses n).calls[k]? = some (.dispose (.ended pending)) →
      Step s [.reached n .disposed]
        (s.endLaneCall n (s.dispatcher.setJob n (job.moved (.closing .disposed result))))
  | record {s : System} {n job result d} :
      s.dispatcher.jobs[n]? = some job → job.progress = .closing job.lane.settled result →
      s.dispatcher.IsServed job.lane → s.dispatcher.record? n = some d →
      Step s [.reached n (.recorded (job.outcome result).label)] { s with dispatcher := d }
  | post {s : System} {n job result d} :
      s.dispatcher.jobs[n]? = some job → job.progress = .closing .recorded result →
      s.dispatcher.IsServed job.lane → s.dispatcher.post? n = some d →
      Step s [.reached n (.posted job.reply (job.outcome result))] { s with dispatcher := d }
  /-- The owner of a reply loop runs the next delivery. -/
  | deliver {s : System} (reply : Nat) {loop delivery rest d} :
      s.dispatcher.replies[reply]? = some loop → loop.runOnce = (.ran delivery, rest) →
      s.dispatcher.deliver? reply = some d →
      Step s
        ((delivery.outcome.deliver .noting).map (.reacted reply delivery.job))
        { s with dispatcher := d }
  /-- The owner of a reply loop goes away. -/
  | closeLoop {s : System} (reply : Nat) :
      Step s []
        { s with
          dispatcher :=
            { s.dispatcher with
              replies := s.dispatcher.replies.modify reply ReplyLoop.close } }

inductive Run (s : System) : List Occurrence → System → Prop where
  | refl : Run s [] s
  | step {trace t occurrences u} :
      Run s trace t → Step t occurrences u → Run s (trace ++ occurrences) u

theorem Run.trans {s t u : System} {trace more : List Occurrence} (run : s.Run trace t)
    (further : t.Run more u) : s.Run (trace ++ more) u := by
  induction further with
  | refl => simpa using run
  | step _ last inductionHypothesis =>
      rw [← List.append_assoc]
      exact inductionHypothesis.step last

/-- Nothing has been submitted yet. -/
structure IsFresh (s : System) : Prop where
  jobs : s.dispatcher.jobs = []
  current : s.dispatcher.current = none
  session : s.dispatcher.session = none
  /-- Whoever submits a command can post to its loop. -/
  replies : ∀ loop ∈ s.dispatcher.replies,
    loop.waiting = [] ∧ loop.isOpen = true ∧ loop.senders ≠ 0
  uses : ∀ n, s.uses n = {}

def backOut : Program (Except Breakdown Acquisition) :=
  .launch Flow.signIn fun _ => .done (.ok { authorization := some .cancel })

def sample : System :=
  { dispatcher :=
      { now := 0
        cache := { store := {}, file := {} }
        supply :=
          { seeds := fun _ => { state := [], verifier := [] }
            token := fun _ => .ofRandom [] } } }

/-- What is to be seen of a command whose user backs out, and of the start of the next. -/
def sampleTrace : List Occurrence :=
  [.reached 0 .received, .reached 0 .registered, .reached 0 .started,
    .reached 0 (.ended (.ok { authorization := some .cancel })), .reached 0 .unregistered,
    .reached 0 .disposed, .reached 0 (.recorded "cancel"), .reached 0 (.posted 0 .cancel),
    .reacted 0 0 .onCancel, .reached 1 .received, .reached 1 .registered]

theorem sample_isFresh : sample.IsFresh := by
  constructor <;> simp [sample]

theorem sample_run :
    ∃ t, sample.Run sampleTrace t ∧ (∃ u, Step t [.reached 1 .started] u) ∧
      (∃ job, t.dispatcher.jobs[0]? = some job ∧ job.lane = .interactive ∧
        job.progress = .closing .posted (.ok { authorization := some .cancel })) ∧
      (∃ launch pending, (t.shared 0).calls =
        [.request Flow.signIn Flow.byState (some "first") (.dispatched launch 0 .awaiting),
          .dispose (.ended pending)]) ∧
      (t.shared 0).bound = [Flow.signInLaunch.handle] := by
  have submitted : sample.Run [] _ := Run.refl.step (.submit .interactive "first" 0 backOut)
  have other := submitted.step (.submit .interactive "second" 0 backOut)
  have received := other.step (.receive (n := 0) rfl rfl rfl)
  have registered := received.step (.register (n := 0) rfl rfl)
  have started := registered.step (.spawn (n := 0) rfl rfl)
  have asked := started.step (.beginLaunch (n := 0) rfl rfl rfl)
  have checked := asked.step (.call (n := 0) rfl (.go (n := 0) rfl (.check rfl)))
  have selected := checked.step
    (.call (n := 0) rfl (.go (n := 0) rfl (.select { name := "browser" })))
  have launched := selected.step
    (.call (n := 0) rfl (.go (n := 0) rfl (.dispatch Flow.signInLaunch.token rfl)))
  have bound := launched.step
    (.call (n := 0) rfl (.go (n := 0) rfl (.bind Flow.signInLaunch.handle)))
  have kept := bound.step (.call (n := 0) rfl (.go (n := 0) rfl (.keep rfl)))
  have awaiting := kept.step (.endLaunch (n := 0) rfl rfl rfl rfl rfl)
  have ended := awaiting.step (.finish (n := 0) rfl rfl rfl)
  have unregistered := ended.step (.unregister (n := 0) rfl rfl)
  have disposing := unregistered.step (.beginDisposal (n := 0) rfl rfl rfl rfl)
  have closed := disposing.step (.call (n := 0) rfl (.go (n := 1) rfl (.close rfl)))
  have released := closed.step (.call (n := 0) rfl (.go (n := 1) rfl .releaseClosed))
  have abandoned := released.step (.call (n := 0) rfl (.go (n := 1) rfl .abandon))
  have disposed := abandoned.step (.endDisposal (n := 0) rfl rfl rfl rfl rfl)
  have recorded := disposed.step (.record (n := 0) rfl rfl (fun _ => rfl) rfl)
  have posted := recorded.step (.post (n := 0) rfl rfl (fun _ => rfl) rfl)
  have delivered := posted.step (.deliver 0 rfl rfl rfl)
  have turned := delivered.step (.receive (n := 1) rfl rfl rfl)
  have ready := turned.step (.register (n := 1) rfl rfl)
  exact ⟨_, ready, ⟨_, .spawn rfl rfl⟩, ⟨_, rfl, rfl, rfl⟩, ⟨_, _, rfl⟩, rfl⟩

end System

end Dispatch

end TokenAcquisition
