import TokenAcquisition.Proofs.Dispatch.Flows
import TokenAcquisition.Proofs.Flow.Whole

/-!
Whole turns.  What a dispatcher does at once, it can come to by small steps between which nobody
else does anything.
-/

namespace TokenAcquisition

theorem Flow.Shared.Run.contacts_prefix {s t : Flow.Shared} (run : Flow.Shared.Run s t) :
    s.contacts <+: t.contacts := by
  induction run with
  | refl => exact List.prefix_rfl
  | tail _ last inductionHypothesis =>
      obtain ⟨n, last⟩ := last
      cases last with
      | enter => exact inductionHypothesis
      | go => exact inductionHypothesis.trans (List.prefix_append _ _)

namespace Dispatch

namespace System

variable {s t : System} {n : Nat} {job : Job} {mid after : Flow.Shared}

theorem share_self (found : s.dispatcher.jobs[n]? = some job) :
    s.share n job (s.shared n) = s := by
  have same : { job with flow := (s.shared n).flow } = job := by
    rw [show (s.shared n).flow = job.flow from Dispatcher.flow_eq found]
  have nothing : news (s.shared n) (s.shared n) = [] := by simp [news]
  rw [share, same, nothing]
  simp [Dispatcher.setJob, Lists.set_eq_self found, Dispatcher.log, System.shared]

theorem news_append {before : Flow.Shared} (first : before.contacts <+: mid.contacts)
    (second : mid.contacts <+: after.contacts) :
    news before after = news before mid ++ news mid after := by
  obtain ⟨early, first⟩ := first
  obtain ⟨late, second⟩ := second
  simp only [news, ← second, ← first]
  simp

theorem share_share (found : s.dispatcher.jobs[n]? = some job)
    (first : (s.shared n).contacts <+: mid.contacts) (second : mid.contacts <+: after.contacts) :
    (s.share n job mid).share n { job with flow := mid.flow } after = s.share n job after := by
  have there : (s.share n job mid).shared n = mid := by rw [shared_share found, if_pos rfl]
  rw [share, there]
  simp only [share, news_append first second]
  simp [Dispatcher.setJob, Dispatcher.log, List.set_set]

/-- Whatever calls on a flow can come to by themselves, they can come to around a dispatcher. -/
theorem run_share (found : s.dispatcher.jobs[n]? = some job)
    (run : Flow.Shared.Run (s.shared n) after) : s.Run [] (s.share n job after) := by
  induction run with
  | refl =>
      rw [share_self found]
      exact .refl
  | @tail mid after before last inductionHypothesis =>
      obtain ⟨k, last⟩ := last
      -- All steps so far amount to one change of the flow, to which the last one adds.
      have there : (s.share n job mid).shared n = mid := by rw [shared_share found, if_pos rfl]
      have atN : (s.share n job mid).dispatcher.jobs[n]? = some { job with flow := mid.flow } := by
        simp [share, Dispatcher.log, Dispatcher.setJob, (List.getElem?_eq_some_iff.mp found).1]
      have step := Step.call atN (there.symm ▸ last)
      rw [share_share found (Flow.Shared.Run.contacts_prefix before)
        (Flow.Shared.Run.contacts_prefix (.single ⟨k, last⟩))] at step
      exact inductionHypothesis.step step

/-- When a call has led somewhere, the dispatcher has noted what the user agent was told. -/
theorem exists_run_of_leads {k : Nat} {flow : Flow} {call : Flow.Call} {events : List Flow.Event}
    (found : s.dispatcher.jobs[n]? = some job)
    (leads : Flow.Shared.Leads (s.shared n) k flow call events) :
    ∃ uses,
      s.Run []
        { dispatcher :=
            (s.dispatcher.setJob n { job with flow }).log (events.map fun e => .deed (.agent e))
          uses } ∧
      (uses n).calls[k]? = some call ∧ (uses n).workCall = (s.uses n).workCall ∧
      (uses n).laneCall = (s.uses n).laneCall ∧ ∀ m, m ≠ n → uses m = s.uses m := by
  obtain ⟨after, run, rfl, atK, told⟩ := leads
  have whole := run_share found run
  obtain ⟨more, contacts⟩ := Flow.Shared.Run.contacts_prefix run
  have noted : news (s.shared n) after = events.map fun e => .deed (.agent e) := by
    rw [Flow.Shared.told, Flow.Shared.told, ← contacts, List.filterMap_append,
      List.append_cancel_left_eq] at told
    rw [news, ← contacts, List.drop_left, told]
  rw [share, noted] at whole
  refine ⟨_, whole, ?_, ?_, ?_, fun m other => ?_⟩ <;> simp_all

theorem getElem?_beginWorkCall (s : System) (n : Nat) (call : Flow.Call) :
    ((s.beginWorkCall n call).shared n).calls[(s.uses n).calls.length]? = some call := by
  simp [System.shared, beginWorkCall]

theorem getElem?_beginLaneCall (s : System) (n : Nat) :
    ((s.beginLaneCall n).shared n).calls[(s.uses n).calls.length]? = some (.dispose .begun) := by
  simp [System.shared, beginLaneCall]

/-- No call of the work of a command or of the lane is in progress. -/
def IsSettled (uses : Nat → Use) : Prop :=
  ∀ n, (uses n).workCall = none ∧ (uses n).laneCall = none

theorem IsSettled.of_others {uses uses' : Nat → Use} (settled : IsSettled uses)
    (others : ∀ m, m ≠ n → uses' m = uses m) (work : (uses' n).workCall = none)
    (lane : (uses' n).laneCall = none) : IsSettled uses' := by
  intro m
  by_cases here : m = n
  · exact here ▸ ⟨work, lane⟩
  · rw [others m here]
    exact settled m

end System

namespace Dispatcher

variable {d d' d'' : Dispatcher} {n : Nat} {job : Job}

/-- A dispatcher can come to another, and every call of its own has ended. -/
def Comes (d d' : Dispatcher) : Prop :=
  d'.laneIsOpen = d.laneIsOpen ∧
    ∀ uses, System.IsSettled uses → ∃ trace uses',
      System.Run { dispatcher := d, uses } trace { dispatcher := d', uses := uses' } ∧
        System.IsSettled uses'

namespace Comes

theorem refl (d : Dispatcher) : d.Comes d :=
  ⟨rfl, fun uses settled => ⟨[], uses, .refl, settled⟩⟩

theorem trans (first : d.Comes d') (second : d'.Comes d'') : d.Comes d'' := by
  refine ⟨second.1.trans first.1, fun uses settled => ?_⟩
  obtain ⟨trace, uses', run, settled⟩ := first.2 uses settled
  obtain ⟨more, uses'', further, settled⟩ := second.2 uses' settled
  exact ⟨trace ++ more, uses'', run.trans further, settled⟩

theorem of_step (isOpen : d'.laneIsOpen = d.laneIsOpen) {occurrences : List Occurrence}
    (step : ∀ uses, System.Step { dispatcher := d, uses } occurrences
      { dispatcher := d', uses }) : d.Comes d' :=
  ⟨isOpen, fun uses settled => ⟨[] ++ occurrences, uses, .step .refl (step uses), settled⟩⟩

end Comes

theorem comes_enqueue (d : Dispatcher) (lane : Lane) (correlationId : String) (reply : Nat)
    (program : Program (Except Breakdown Acquisition)) :
    d.Comes (d.enqueue lane correlationId reply program) :=
  .of_step rfl fun _ => .submit lane correlationId reply program

theorem comes_tell? (told : d.tell? n = some d') : d.Comes d' := by
  obtain ⟨job, found, -, rfl⟩ := tell?_eq_some_iff.mp told
  exact .of_step rfl fun _ => .tell found told

theorem comes_submit (d : Dispatcher) (lane : Lane) (correlationId : String) (reply : Nat)
    (program : Program (Except Breakdown Acquisition)) :
    d.Comes (d.submit lane correlationId reply program) := by
  have taken := d.comes_enqueue lane correlationId reply program
  simp only [submit]
  cases told : (d.enqueue lane correlationId reply program).tell? d.jobs.length with
  | none => exact taken
  | some d' => exact taken.trans (comes_tell? told)

theorem comes_startInteractive? (isOpen : d.laneIsOpen = true)
    (started : d.startInteractive? = some d') : d.Comes d' := by
  simp only [startInteractive?, Option.bind_eq_bind, Option.bind_eq_some_iff] at started
  obtain ⟨d₁, received, n, current, d₂, registered, spawned⟩ := started
  have first : d.Comes d₁ := by
    refine .of_step ?_ fun _ => .receive isOpen received current
    obtain ⟨-, m, job, program, -, -, -, rfl⟩ := receive?_eq_some_iff.mp received
    rfl
  have second : d₁.Comes d₂ := by
    refine .of_step ?_ fun _ => .register (first.1.trans isOpen) registered
    obtain ⟨job, program, -, -, rfl⟩ := register?_eq_some_iff.mp registered
    rfl
  have third : d₂.Comes d' := by
    refine .of_step ?_ fun _ => .spawn (second.1.trans (first.1.trans isOpen)) spawned
    obtain ⟨job, program, -, -, rfl⟩ := spawn?_eq_some_iff.mp spawned
    rfl
  exact (first.trans second).trans third

theorem comes_startSilent? (started : d.startSilent? n = some d') : d.Comes d' := by
  refine .of_step ?_ fun _ => .startSilent started
  obtain ⟨job, program, -, -, -, rfl⟩ := startSilent?_eq_some_iff.mp started
  rfl

theorem comes_acquire? (acquired : d.acquire? n = some d') : d.Comes d' := by
  refine .of_step ?_ fun _ => .acquire acquired
  obtain rfl := eq_of_acquire? acquired
  rfl

theorem comes_endWrite? (ended : d.endWrite? = some d') : d.Comes d' := by
  refine .of_step ?_ fun _ => .endWrite ended
  obtain ⟨cache, write, rfl⟩ := exists_eq_of_endWrite? ended
  rfl

theorem comes_deliver? {reply : Nat} (delivered : d.deliver? reply = some d') : d.Comes d' := by
  have taken := delivered
  unfold deliver? at taken
  split at taken
  next loop found =>
    split at taken
    next delivery rest next =>
      refine .of_step ?_ fun _ => .deliver reply found next delivered
      obtain rfl := Option.some.inj taken
      rfl
    next => cases taken
  next => cases taken

/-! ### Calls on flows -/

theorem setJob_setJob (d : Dispatcher) (n : Nat) (job job' : Job) :
    (d.setJob n job).setJob n job' = d.setJob n job' := by
  simp [setJob, List.set_set]

theorem afterLaunch_setJob (d : Dispatcher) (n : Nat) (job job' : Job)
    (next : Except Failure Unit → Program (Except Breakdown Acquisition)) (started : Flow.Started) :
    (d.setJob n job').afterLaunch n job next started = d.afterLaunch n job next started := by
  cases started <;> exact d.setJob_setJob n _ _

theorem laneIsOpen_afterLaunch (d : Dispatcher) (n : Nat) (job : Job)
    (next : Except Failure Unit → Program (Except Breakdown Acquisition)) (started : Flow.Started) :
    (d.afterLaunch n job next started).laneIsOpen = d.laneIsOpen := by
  cases started <;> rfl

theorem launch_eq {request : AuthorizationRequest}
    (next : Except Failure Unit → Program (Except Breakdown Acquisition)) {started : Flow.Started}
    {flow : Flow} {events : List Flow.Event}
    (requested : job.flow.request d.agents request (d.supply.token (d.launches + 1))
      (some job.correlationId) Flow.undisturbed (Flow.answering d.launchAnswer) =
      (started, flow, events)) :
    d.launch n job request next =
      ((({ d with
        launches := if events.any Flow.Event.isLaunch then d.launches + 1 else d.launches }).log
          (events.map fun e => .deed (.agent e))).setJob n { job with flow }).afterLaunch n
            { job with flow } next started := by
  simp only [launch, requested]
  exact (afterLaunch_setJob _ n _ _ next started).symm

theorem comes_launch (found : d.jobs[n]? = some job) {request : AuthorizationRequest}
    {next : Except Failure Unit → Program (Except Breakdown Acquisition)}
    (progress : job.progress = .running (.launch request next)) :
    d.Comes (d.launch n job request next) := by
  refine ⟨laneIsOpen_afterLaunch _ _ _ _ _, fun uses settled => ?_⟩
  cases requested : job.flow.request d.agents request (d.supply.token (d.launches + 1))
    (some job.correlationId) Flow.undisturbed (Flow.answering d.launchAnswer) with
  | mk started rest =>
      obtain ⟨flow, events⟩ := rest
      have begun := System.Run.refl.step
        (System.Step.beginLaunch (s := { dispatcher := d, uses }) found progress (settled n).1)
      obtain ⟨call, leads, returned⟩ := Flow.Shared.leads_request (flow_eq found)
        (System.getElem?_beginWorkCall { dispatcher := d, uses } n _)
        (Flow.Shared.does_undisturbed _) (Flow.Shared.does_answering _ _) requested
      obtain ⟨uses', called, atK, work, lane, others⟩ := System.exists_run_of_leads found leads
      have passed := (begun.trans called).step (.pass d.clock d.now d.transport d.agents
        d.launchAnswer d.supply
        (if events.any Flow.Event.isLaunch then d.launches + 1 else d.launches))
      have mine : (uses' n).workCall = some (uses n).calls.length := by
        simp [work, System.beginWorkCall]
      have ended := passed.step
        (.endLaunch (getElem?_setJob _ found) progress mine atK returned)
      rw [launch_eq next requested]
      refine ⟨_, _, ended, settled.of_others (n := n) (fun m other => ?_) ?_ ?_⟩
      · simp [other, others m other, System.beginWorkCall]
      · simp
      · simp [lane, System.beginWorkCall, (settled n).2]

theorem comes_dispose (found : d.jobs[n]? = some job)
    {next : Program (Except Breakdown Acquisition)}
    (progress : job.progress = .running (.dispose next)) :
    d.Comes ((d.log ((Flow.released job.flow.dispose.2).map fun e => .deed (.agent e))).resume n
      { job with flow := job.flow.dispose.1 } next) := by
  refine ⟨rfl, fun uses settled => ?_⟩
  have begun := System.Run.refl.step
    (System.Step.beginDispose (s := { dispatcher := d, uses }) found progress (settled n).1)
  obtain ⟨pending, leads⟩ := Flow.Shared.leads_dispose (flow_eq found)
    (System.getElem?_beginWorkCall { dispatcher := d, uses } n _)
  obtain ⟨uses', called, atK, work, lane, others⟩ := System.exists_run_of_leads found leads
  have mine : (uses' n).workCall = some (uses n).calls.length := by
    simp [work, System.beginWorkCall]
  have ended := (begun.trans called).step
    (.endDispose (getElem?_setJob _ found) progress mine atK)
  rw [resume, ← setJob_setJob _ n { job with flow := job.flow.dispose.1 }]
  refine ⟨_, _, ended, settled.of_others (n := n) (fun m other => ?_) ?_ ?_⟩
  · simp [other, others m other, System.beginWorkCall]
  · simp
  · simp [lane, System.beginWorkCall, (settled n).2]

theorem comes_disposeFlow? (isOpen : d.laneIsOpen = true) (disposed : d.disposeFlow? n = some d') :
    d.Comes d' := by
  simp only [disposeFlow?, Option.bind_eq_bind, Option.bind_eq_some_iff, Job.closing?_eq_some_iff,
    Option.some.injEq] at disposed
  obtain ⟨job, found, result, progress, rfl⟩ := disposed
  refine ⟨rfl, fun uses settled => ?_⟩
  have begun := System.Run.refl.step
    (System.Step.beginDisposal (s := { dispatcher := d, uses }) isOpen found progress (settled n).2)
  obtain ⟨pending, leads⟩ := Flow.Shared.leads_dispose (flow_eq found)
    (System.getElem?_beginLaneCall { dispatcher := d, uses } n)
  obtain ⟨uses', called, atK, work, lane, others⟩ := System.exists_run_of_leads found leads
  have mine : (uses' n).laneCall = some (uses n).calls.length := by
    simp [lane, System.beginLaneCall]
  have ended := (begun.trans called).step
    (.endDisposal isOpen (getElem?_setJob _ found) progress mine atK)
  have closed : d.setJob n { job with
        flow := job.flow.dispose.1
        progress := .closing .disposed result } =
      (d.setJob n { job with flow := job.flow.dispose.1 }).setJob n _ :=
    (setJob_setJob _ n _ _).symm
  rw [Job.moved, closed]
  refine ⟨_, _, ended, settled.of_others (n := n) (fun m other => ?_) ?_ ?_⟩
  · simp [other, others m other, System.beginLaneCall]
  · simp [work, System.beginLaneCall, (settled n).1]
  · simp

theorem comes_advance? (advanced : d.advance? n = some d') : d.Comes d' := by
  cases found : d.jobs[n]? with
  | none => simp [advance?, found] at advanced
  | some job =>
      cases progress : job.progress with
      | running program =>
          cases program with
          | done result =>
              have ended := advanced
              simp only [advance?, found, progress, Option.some.injEq] at ended
              subst ended
              exact .of_step rfl fun _ => .finish found progress advanced
          | launch request next =>
              simp only [advance?, found, progress, Option.some.injEq] at advanced
              subst advanced
              exact comes_launch found progress
          | dispose next =>
              simp only [advance?, found, progress, Option.some.injEq] at advanced
              subst advanced
              exact comes_dispose found progress
          | _ =>
              have works := advance?_works found progress trivial advanced
              exact .of_step works.laneIsOpen fun _ => .work found progress trivial advanced
      | _ => simp [advance?, found, progress] at advanced

theorem comes_unregister? (isOpen : d.laneIsOpen = true)
    (unregistered : d.unregister? n = some d') : d.Comes d' := by
  refine .of_step ?_ fun _ => .unregister isOpen unregistered
  obtain ⟨job, result, -, -, -, rfl⟩ := unregister?_eq_some_iff.mp unregistered
  rfl

theorem comes_record? (isOpen : d.laneIsOpen = true) (recorded : d.record? n = some d') :
    d.Comes d' := by
  obtain ⟨job, result, found, progress, rfl⟩ := record?_eq_some_iff.mp recorded
  exact .of_step rfl fun _ => .record found progress (fun _ => isOpen) recorded

theorem comes_post? (isOpen : d.laneIsOpen = true) (posted : d.post? n = some d') :
    d.Comes d' := by
  obtain ⟨job, result, found, progress, rfl⟩ := post?_eq_some_iff.mp posted
  exact .of_step rfl fun _ => .post found progress (fun _ => isOpen) posted

theorem comes_finish? (isOpen : d.laneIsOpen = true) (finished : d.finish? n = some d') :
    d.Comes d' := by
  simp only [finish?, Option.bind_eq_bind] at finished
  obtain ⟨job, found, finished⟩ := Option.bind_eq_some_iff.mp finished
  have closed {d₁ : Dispatcher} (settled : d.Comes d₁)
      (closing : ((d₁.record? n).bind fun d => d.post? n) = some d') : d.Comes d' := by
    obtain ⟨d₂, recorded, posted⟩ := Option.bind_eq_some_iff.mp closing
    have counted := settled.trans (comes_record? (settled.1.trans isOpen) recorded)
    exact counted.trans (comes_post? (counted.1.trans isOpen) posted)
  cases lane : job.lane with
  | silent =>
      rw [lane] at finished
      exact closed (.refl d) finished
  | interactive =>
      rw [lane] at finished
      obtain ⟨d₁, disposed, closing⟩ := Option.bind_eq_some_iff.mp finished
      obtain ⟨d₀, unregistered, disposed⟩ := Option.bind_eq_some_iff.mp disposed
      have first := comes_unregister? isOpen unregistered
      exact closed (first.trans (comes_disposeFlow? (first.1.trans isOpen) disposed)) closing

theorem comes_complete (d : Dispatcher) (requestCode : Int) (token : Uuid)
    (completion : Completion) : d.Comes (d.complete requestCode token completion).2 := by
  unfold complete
  split
  next nobody => exact .of_step rfl fun _ => .orphan nobody
  next session _ =>
    split
    next => exact .refl d
    next job found =>
      split
      next => exact .refl d
      next flow handle completed =>
        refine ⟨rfl, fun uses settled => ?_⟩
        let shared := System.shared { dispatcher := d, uses } session.id
        let call : Flow.Call := .complete requestCode token completion .begun
        obtain ⟨pending, leads⟩ := Flow.Shared.leads_complete?
          (s := { shared with calls := shared.calls ++ [call] }) (flow_eq found)
          List.getElem?_concat_length completed
        obtain ⟨uses', called, -, work, lane, others⟩ :=
          System.exists_run_of_leads found (.enter call trivial leads)
        refine ⟨_, _, called, settled.of_others others ?_ ?_⟩
        · exact work.trans (settled _).1
        · exact lane.trans (settled _).2

end Dispatcher

end Dispatch

end TokenAcquisition
