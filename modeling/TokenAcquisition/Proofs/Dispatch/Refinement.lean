import TokenAcquisition.Proofs.Dispatch.Trace

/-!
The lanes of a dispatcher.  Whatever step is made around a dispatcher, its lanes make one of their
own or none.
-/

namespace TokenAcquisition.Dispatch

namespace Job

def isAccepted (job : Job) : Bool :=
  match job.progress with
  | .refused _ => false
  | _ => true

/-- What has been done for a command since its work ended. -/
def closed (job : Job) (result : Except Breakdown Acquisition) : Closing → List Milestone
  | .ended => []
  | .unregistered => [.unregistered]
  | .disposed => [.unregistered, .disposed]
  | .recorded => job.lane.after ++ [.recorded (job.outcome result).label]
  | .posted =>
      job.lane.after ++
        [.recorded (job.outcome result).label, .posted job.reply (job.outcome result)]

def history (job : Job) : List Milestone :=
  match job.progress with
  | .refused isTold =>
      if isTold then [.posted job.reply (Dispatcher.refusal job.correlationId)] else []
  | .opening .queued _ => []
  | .opening .received _ => [.received]
  | .opening .registered _ => [.received, .registered]
  | .running _ => job.lane.before ++ [.started]
  | .closing stage result =>
      job.lane.before ++ .started :: .ended result :: job.closed result stage

theorem posted_mem_history {job : Job} {result : Except Breakdown Acquisition}
    (progress : job.progress = .closing .posted result) :
    .posted job.reply (job.outcome result) ∈ job.history := by
  simp [history, closed, progress]

theorem exists_opening {job : Job} (accepted : job.isAccepted = true)
    (nothing : job.history = []) : ∃ program, job.progress = .opening .queued program := by
  unfold isAccepted at accepted
  unfold history at nothing
  split at nothing <;> simp_all

/-- The command as its lane knows it. -/
def outline (job : Job) : Outline where
  correlationId := job.correlationId
  lane := job.lane
  reply := job.reply
  isAccepted := job.isAccepted
  history := job.history

end Job

namespace Dispatcher

variable {d d' : Dispatcher} {n : Nat} {job job' : Job}

/-- What a dispatcher is to its lanes. -/
def lanes (d : Dispatcher) : Lanes where
  entries := d.jobs.map Job.outline
  current := d.current
  session := d.session
  counted := d.metrics.commands
  replies := d.replies

theorem getElem?_setJob (job' : Job) (found : d.jobs[n]? = some job) :
    (d.setJob n job').jobs[n]? = some job' := by
  simp [setJob, (List.getElem?_eq_some_iff.mp found).1]

theorem getElem?_entries (found : d.jobs[n]? = some job) :
    d.lanes.entries[n]? = some job.outline := by
  simp [lanes, found]

theorem exists_job {o : Outline} (found : d.lanes.entries[n]? = some o) :
    ∃ job, d.jobs[n]? = some job ∧ job.outline = o := by
  simpa [lanes] using found

theorem lanes_setJob (d : Dispatcher) (n : Nat) (job : Job) :
    (d.setJob n job).lanes = { d.lanes with entries := d.lanes.entries.set n job.outline } := by
  simp [lanes, setJob, List.map_set]

theorem lanes_setJob_eq (found : d.jobs[n]? = some job) (same : job'.outline = job.outline) :
    (d.setJob n job').lanes = d.lanes := by
  rw [lanes_setJob, same, Lists.set_eq_self (getElem?_entries found)]

theorem lanes_turn (d : Dispatcher) (n : Nat) :
    (d.turn n).lanes = { d.lanes with current := some n } := rfl

theorem lanes_leave (d : Dispatcher) (n : Nat) :
    (d.leave n).lanes =
      { d.lanes with current := d.lanes.current.filter fun running => running ≠ n } := rfl

theorem lanes_route (d : Dispatcher) (n : Nat) (job : Job) :
    (d.route n job).lanes =
      { d.lanes with session := some { id := n, correlationId := job.correlationId } } := rfl

theorem lanes_unroute (d : Dispatcher) (n : Nat) :
    (d.unroute n).lanes =
      { d.lanes with session := d.lanes.session.filter fun session => session.id ≠ n } := rfl

theorem lanes_count (d : Dispatcher) (lane : Lane) (outcome : Outcome) :
    (d.count lane outcome).lanes =
      { d.lanes with counted := d.lanes.counted ++ [(lane.label, outcome.label)] } := rfl

theorem lanes_post (d : Dispatcher) (n : Nat) (job : Job) (outcome : Outcome) :
    (d.post n job outcome).lanes =
      { d.lanes with
        replies := d.lanes.replies.modify job.reply fun loop =>
          loop.post { job := n, outcome } } := rfl

/-- A command has come further by one thing. -/
theorem lanes_moved {progress : Progress} (milestone : Milestone)
    (accepted : (job.moved progress).isAccepted = job.isAccepted)
    (more : (job.moved progress).history = job.history ++ [milestone]) :
    (d.setJob n (job.moved progress)).lanes =
      { d.lanes with entries := d.lanes.entries.set n (job.outline.extend milestone) } := by
  have same : (job.moved progress).outline = job.outline.extend milestone := by
    simp only [Job.outline, Outline.extend, accepted, more]
    rfl
  rw [lanes_setJob, same]

/-! ### What is done for a command -/

theorem tell?_step (told : d.tell? n = some d') (found : d.jobs[n]? = some job)
    (orderly : d.lanes.Orderly) :
    Lanes.Step d.lanes [.reached n (.posted job.reply (refusal job.correlationId))] d'.lanes := by
  obtain ⟨job', found', progress, rfl⟩ := tell?_eq_some_iff.mp told
  obtain rfl : job = job' := Option.some.inj (found.symm.trans found')
  have next : job.outline.Next (.posted job.reply (refusal job.correlationId)) :=
    .tell (by simp [Job.outline, Job.isAccepted, progress])
      (by simp [Job.outline, Job.history, progress])
  -- Nobody took the command, so the lane is not at work on it.
  have idle : d.lanes.current.filter (fun running => running ≠ n) = d.lanes.current := by
    cases current : d.lanes.current with
    | none => rfl
    | some running =>
        obtain ⟨o, atRunning, underway⟩ := orderly.isUnderway_of_current current
        have other : running ≠ n := by
          rintro rfl
          obtain rfl : job.outline = o :=
            Option.some.inj ((getElem?_entries found).symm.trans atRunning)
          simp [Outline.IsUnderway, Outline.IsLane, Job.outline, Job.isAccepted, progress]
            at underway
        simp [other]
  have same : ((d.setJob n (job.moved (.refused true))).post n job
      (refusal job.correlationId)).lanes = d.lanes.reach n job.outline
        (.posted job.reply (refusal job.correlationId)) := by
    rw [lanes_post, lanes_moved (.posted job.reply (refusal job.correlationId))]
    · simp only [Lanes.reach, idle]
    · simp [Job.isAccepted, Job.moved, progress]
    · simp [Job.history, Job.moved, progress]
  rw [same]
  exact .reach (getElem?_entries found) next (by simp)

theorem isFree_of_next (idle : d.current = none) (first : d.nextInteractive? = some n) :
    d.lanes.IsFree n := by
  refine ⟨idle, fun m earlier o atM lane nothing => ?_⟩
  obtain ⟨job, found, rfl⟩ := exists_job atM
  obtain ⟨inside, rfl⟩ := List.getElem?_eq_some_iff.mp found
  obtain ⟨accepted, interactive⟩ := lane
  have passed := (List.findIdx?_eq_some_iff_getElem.mp first).2.2 m earlier
  obtain ⟨program, queued⟩ := Job.exists_opening accepted nothing
  have interactive : d.jobs[m].lane = .interactive := interactive
  simp [interactive, Job.opening?, queued] at passed

theorem receive?_step (received : d.receive? = some d') (current : d'.current = some n) :
    Lanes.Step d.lanes [.reached n .received] d'.lanes := by
  obtain ⟨idle, m, job, program, first, found, progress, rfl⟩ := receive?_eq_some_iff.mp received
  obtain rfl : m = n := Option.some.inj current
  have interactive : job.lane = .interactive := by
    obtain ⟨inside, chosen, -⟩ := List.findIdx?_eq_some_iff_getElem.mp first
    obtain ⟨_, rfl⟩ := List.getElem?_eq_some_iff.mp found
    simp only [Bool.and_eq_true, decide_eq_true_eq] at chosen
    exact chosen.1
  have next : job.outline.Next .received :=
    .receive (by simp [Job.outline, Job.isAccepted, progress]) interactive
      (by simp [Job.outline, Job.history, progress])
  rw [lanes_turn, lanes_moved .received]
  · exact .reach (getElem?_entries found) next fun _ => isFree_of_next idle first
  · simp [Job.isAccepted, Job.moved, progress]
  · simp [Job.history, Job.moved, progress]

theorem register?_step (registered : d.register? n = some d') (orderly : d.lanes.Orderly) :
    Lanes.Step d.lanes [.reached n .registered] d'.lanes := by
  obtain ⟨job, program, found, progress, rfl⟩ := register?_eq_some_iff.mp registered
  have past : job.outline.history = [.received] := by simp [Job.outline, Job.history, progress]
  have lane : job.outline.IsLane :=
    orderly.isLane (getElem?_entries found) (show .received ∈ _ by simp [past]) (.inl rfl)
  rw [lanes_route, lanes_moved .registered]
  · exact .reach (getElem?_entries found) (.register lane.1 lane.2 past) (by simp)
  · simp [Job.isAccepted, Job.moved, progress]
  · simp [Job.history, Job.moved, progress]

theorem spawn?_step (spawned : d.spawn? n = some d') (orderly : d.lanes.Orderly) :
    Lanes.Step d.lanes [.reached n .started] d'.lanes := by
  obtain ⟨job, program, found, progress, rfl⟩ := spawn?_eq_some_iff.mp spawned
  have past : job.outline.history = [.received, .registered] := by
    simp [Job.outline, Job.history, progress]
  have lane : job.outline.IsLane :=
    orderly.isLane (getElem?_entries found) (show .received ∈ _ by simp [past]) (.inl rfl)
  have all : job.history = job.lane.before := by
    rw [show job.lane = .interactive from lane.2]
    exact past
  rw [lanes_moved .started]
  · exact .reach (getElem?_entries found) (.start lane.1 all) (by simp)
  · simp [Job.isAccepted, Job.moved, progress]
  · rw [all]
    simp [Job.history, Job.moved]

theorem startSilent?_step (started : d.startSilent? n = some d') :
    Lanes.Step d.lanes [.reached n .started] d'.lanes := by
  obtain ⟨job, program, found, silent, progress, rfl⟩ := startSilent?_eq_some_iff.mp started
  have accepted : job.outline.isAccepted = true := by
    simp [Job.outline, Job.isAccepted, progress]
  have all : job.history = job.lane.before := by simp [Job.history, progress, silent, Lane.before]
  rw [lanes_moved .started]
  · exact .reach (getElem?_entries found) (.start accepted all) (by simp)
  · simp [Job.isAccepted, Job.moved, progress]
  · rw [all]
    simp [Job.history, Job.moved]

theorem ended_step (found : d.jobs[n]? = some job)
    {program : Program (Except Breakdown Acquisition)} (progress : job.progress = .running program)
    (result : Except Breakdown Acquisition) :
    Lanes.Step d.lanes [.reached n (.ended result)]
      (d.setJob n (job.moved (.closing .ended result))).lanes := by
  have accepted : job.outline.isAccepted = true := by
    simp [Job.outline, Job.isAccepted, progress]
  rw [lanes_moved (.ended result)]
  · refine .reach (getElem?_entries found) (.finish result accepted ?_) (by simp)
    simp [Job.outline, Job.history, progress]
  · simp [Job.isAccepted, Job.moved, progress]
  · simp [Job.history, Job.moved, Job.closed, progress]

theorem unregister?_step (unregistered : d.unregister? n = some d') :
    Lanes.Step d.lanes [.reached n .unregistered] d'.lanes := by
  obtain ⟨job, result, found, progress, interactive, rfl⟩ :=
    unregister?_eq_some_iff.mp unregistered
  have accepted : job.outline.isAccepted = true := by
    simp [Job.outline, Job.isAccepted, progress]
  rw [lanes_unroute, lanes_moved .unregistered]
  · refine .reach (getElem?_entries found) (.unregister result accepted interactive ?_) (by simp)
    simp [Job.outline, Job.history, Job.closed, progress]
  · simp [Job.isAccepted, Job.moved, progress]
  · simp [Job.history, Job.moved, Job.closed, progress]

theorem disposed_step (found : d.jobs[n]? = some job) {result : Except Breakdown Acquisition}
    (progress : job.progress = .closing .unregistered result) (orderly : d.lanes.Orderly) :
    Lanes.Step d.lanes [.reached n .disposed]
      (d.setJob n (job.moved (.closing .disposed result))).lanes := by
  have past : job.outline.history =
      job.outline.lane.before ++ [.started, .ended result, .unregistered] := by
    simp [Job.outline, Job.history, Job.closed, progress]
  have lane : job.outline.IsLane :=
    orderly.isLane (getElem?_entries found) (show .unregistered ∈ _ by simp [past]) (.inr rfl)
  rw [lanes_moved .disposed]
  · exact .reach (getElem?_entries found) (.dispose result lane.1 lane.2 past) (by simp)
  · simp [Job.isAccepted, Job.moved, progress]
  · simp [Job.history, Job.moved, Job.closed, progress]

theorem record?_step (recorded : d.record? n = some d') (found : d.jobs[n]? = some job)
    {result : Except Breakdown Acquisition}
    (progress : job.progress = .closing job.lane.settled result) :
    Lanes.Step d.lanes [.reached n (.recorded (job.outcome result).label)] d'.lanes := by
  obtain ⟨job', result', found', progress', rfl⟩ := record?_eq_some_iff.mp recorded
  obtain rfl : job = job' := Option.some.inj (found.symm.trans found')
  obtain rfl : result = result' := (Progress.closing.inj (progress.symm.trans progress')).2
  have accepted : job.outline.isAccepted = true := by
    simp [Job.outline, Job.isAccepted, progress]
  have all : job.history = job.lane.before ++ .started :: .ended result :: job.lane.after := by
    cases lane : job.lane <;>
      simp [Job.history, Job.closed, progress, lane, Lane.settled, Lane.after]
  rw [lanes_count, lanes_moved (.recorded (job.outcome result).label)]
  · exact .reach (getElem?_entries found) (.record result accepted all) (by simp)
  · simp [Job.isAccepted, Job.moved, progress]
  · rw [all]
    simp [Job.history, Job.moved, Job.closed, Job.outcome]

theorem post?_step (posted : d.post? n = some d') (found : d.jobs[n]? = some job)
    {result : Except Breakdown Acquisition} (progress : job.progress = .closing .recorded result) :
    Lanes.Step d.lanes [.reached n (.posted job.reply (job.outcome result))] d'.lanes := by
  obtain ⟨job', result', found', progress', rfl⟩ := post?_eq_some_iff.mp posted
  obtain rfl : job = job' := Option.some.inj (found.symm.trans found')
  obtain rfl : result = result' := (Progress.closing.inj (progress.symm.trans progress')).2
  have accepted : job.outline.isAccepted = true := by
    simp [Job.outline, Job.isAccepted, progress]
  rw [lanes_post, lanes_leave, lanes_moved (.posted job.reply (job.outcome result))]
  · refine .reach (getElem?_entries found) (.post result accepted ?_) (by simp)
    simp [Job.outline, Job.history, Job.closed, Outline.outcome, Job.outcome, progress]
  · simp [Job.isAccepted, Job.moved, progress]
  · simp [Job.history, Job.moved, Job.closed, Job.outcome, progress]

theorem deliver?_step {reply : Nat} {loop rest : ReplyLoop Delivery} {delivery : Delivery}
    (delivered : d.deliver? reply = some d') (found : d.replies[reply]? = some loop)
    (next : loop.runOnce = (.ran delivery, rest)) :
    Lanes.Step d.lanes
      ((delivery.outcome.deliver .noting).map (.reacted reply delivery.job)) d'.lanes := by
  simp only [deliver?, found, next, Option.some.injEq] at delivered
  subst delivered
  exact .deliver found next

/-! ### Work -/

/-- Of all that concerns the lanes and the flows, nothing has changed but the program of a
command. -/
structure Works (d : Dispatcher) (n : Nat) (job : Job) (d' : Dispatcher) : Prop where
  jobs : ∃ job', d'.jobs = d.jobs.set n job' ∧ job'.outline = job.outline ∧ job'.flow = job.flow
  current : d'.current = d.current
  session : d'.session = d.session
  metrics : d'.metrics = d.metrics
  replies : d'.replies = d.replies
  laneIsOpen : d'.laneIsOpen = d.laneIsOpen

theorem Works.lanes_eq (works : d.Works n job d') (found : d.jobs[n]? = some job) :
    d'.lanes = d.lanes := by
  obtain ⟨job', jobs, same, -⟩ := works.jobs
  rw [← lanes_setJob_eq found same]
  simp [lanes, setJob, jobs, works.current, works.session, works.metrics, works.replies]

theorem outline_resumed {program program' : Program (Except Breakdown Acquisition)}
    (progress : job.progress = .running program) (deadline : Option Nat) :
    { job with progress := .running program', deadline }.outline = job.outline := by
  simp [Job.outline, Job.history, Job.isAccepted, progress]

theorem works_resume {d₁ : Dispatcher} {program program' : Program (Except Breakdown Acquisition)}
    (progress : job.progress = .running program) (jobs : d₁.jobs = d.jobs := by rfl)
    (current : d₁.current = d.current := by rfl) (session : d₁.session = d.session := by rfl)
    (metrics : d₁.metrics = d.metrics := by rfl) (replies : d₁.replies = d.replies := by rfl)
    (laneIsOpen : d₁.laneIsOpen = d.laneIsOpen := by rfl) :
    d.Works n job (d₁.resume n job program') :=
  ⟨⟨_, congrArg (List.set · n _) jobs, outline_resumed progress none, rfl⟩, current, session,
    metrics, replies, laneIsOpen⟩

theorem works_wait {program program' : Program (Except Breakdown Acquisition)}
    (progress : job.progress = .running program) (deadline : Option Nat) :
    d.Works n job (d.setJob n { job with progress := .running program', deadline }) :=
  ⟨⟨_, rfl, outline_resumed progress deadline, rfl⟩, rfl, rfl, rfl, rfl, rfl⟩

theorem change?_works {program : Program (Except Breakdown Acquisition)}
    (progress : job.progress = .running program) {store : Option Store}
    {next : Except Failure Unit → Program (Except Breakdown Acquisition)}
    (found : d.jobs[n]? = some job) (changed : d.change? n job store next = some d') :
    d.Works n job d' := by
  unfold change? at changed
  split at changed
  next => cases changed
  next =>
    split at changed
    next => cases changed
    next =>
      obtain rfl := Option.some.inj changed
      exact works_resume progress
    next =>
      split at changed
      next =>
        obtain rfl := Option.some.inj changed
        exact ⟨⟨job, (Lists.set_eq_self found).symm, rfl, rfl⟩, rfl, rfl, rfl, rfl, rfl⟩
      next =>
        obtain rfl := Option.some.inj changed
        exact works_resume progress

/-- What a program does with what is at hand. -/
theorem advance?_works (found : d.jobs[n]? = some job)
    {program : Program (Except Breakdown Acquisition)} (progress : job.progress = .running program)
    (isLocal : IsLocal program) (advanced : d.advance? n = some d') : d.Works n job d' := by
  cases program with
  | done | launch | dispose => cases isLocal
  | now next =>
      simp only [advance?, found, progress, Option.some.injEq] at advanced
      subst advanced
      exact works_resume progress
  | seeds next =>
      simp only [advance?, found, progress, Option.some.injEq] at advanced
      subst advanced
      exact works_resume progress
  | sleep milliseconds next =>
      simp only [advance?, found, progress] at advanced
      split at advanced
      next =>
        obtain rfl := Option.some.inj advanced
        exact works_wait progress _
      next =>
        split at advanced
        next =>
          obtain rfl := Option.some.inj advanced
          exact works_resume progress
        next => cases advanced
  | lookup clientId account next =>
      simp only [advance?, found, progress] at advanced
      split at advanced
      next =>
        obtain rfl := Option.some.inj advanced
        exact works_resume progress
      next => cases advanced
  | save clientId credential metadata next =>
      simp only [advance?, found, progress] at advanced
      exact change?_works progress found advanced
  | invalidate clientId account next =>
      simp only [advance?, found, progress] at advanced
      exact change?_works progress found advanced
  | post request next =>
      simp only [advance?, found, progress, Option.some.injEq] at advanced
      subst advanced
      exact works_resume progress
  | await seconds next =>
      simp only [advance?, found, progress] at advanced
      split at advanced
      next =>
        obtain rfl := Option.some.inj advanced
        exact works_resume progress
      next =>
        split at advanced
        next => cases advanced
        next =>
          split at advanced
          next =>
            obtain rfl := Option.some.inj advanced
            exact works_wait progress _
          next =>
            split at advanced
            next =>
              obtain rfl := Option.some.inj advanced
              exact works_resume progress
            next => cases advanced

theorem afterLaunch_step (found : d.jobs[n]? = some job)
    {program : Program (Except Breakdown Acquisition)} (progress : job.progress = .running program)
    (next : Except Failure Unit → Program (Except Breakdown Acquisition)) (started : Flow.Started) :
    Lanes.Step d.lanes (System.afterLaunch n started) (d.afterLaunch n job next started).lanes ∨
      System.afterLaunch n started = [] ∧ (d.afterLaunch n job next started).lanes = d.lanes := by
  cases started with
  | awaiting => exact .inr ⟨rfl, (works_resume progress).lanes_eq found⟩
  | refused failure => exact .inr ⟨rfl, (works_resume progress).lanes_eq found⟩
  | panicked message => exact .inl (ended_step found progress _)

theorem enqueue_lanes (d : Dispatcher) (lane : Lane) (correlationId : String) (reply : Nat)
    (program : Program (Except Breakdown Acquisition)) :
    Lanes.Step d.lanes [] (d.enqueue lane correlationId reply program).lanes := by
  simp only [lanes, enqueue, List.map_append, List.map_cons, List.map_nil]
  refine .submit ?_
  split <;> rfl

end Dispatcher

namespace System

variable {s t : System} {trace occurrences : List Occurrence}

/-- Whatever is done around a dispatcher, its lanes do one thing or none. -/
theorem Step.lanes (step : Step s occurrences t) (orderly : s.dispatcher.lanes.Orderly) :
    Lanes.Step s.dispatcher.lanes occurrences t.dispatcher.lanes ∨
      occurrences = [] ∧ t.dispatcher.lanes = s.dispatcher.lanes := by
  cases step with
  | submit lane correlationId reply program =>
      exact .inl (s.dispatcher.enqueue_lanes lane correlationId reply program)
  | tell found told => exact .inl (Dispatcher.tell?_step told found orderly)
  | receive _ received current => exact .inl (Dispatcher.receive?_step received current)
  | register _ registered => exact .inl (Dispatcher.register?_step registered orderly)
  | spawn _ spawned => exact .inl (Dispatcher.spawn?_step spawned orderly)
  | startSilent started => exact .inl (Dispatcher.startSilent?_step started)
  | work found progress isLocal advanced =>
      exact .inr ⟨rfl, (Dispatcher.advance?_works found progress isLocal advanced).lanes_eq found⟩
  | finish found progress advanced =>
      simp only [Dispatcher.advance?, found, progress, Option.some.injEq] at advanced
      subst advanced
      exact .inl (Dispatcher.ended_step found progress _)
  | @endLaunch n _ job _ next _ started found progress =>
      exact Dispatcher.afterLaunch_step found progress next started
  | endDispose found progress =>
      exact .inr ⟨rfl, (Dispatcher.works_resume progress).lanes_eq found⟩
  | acquire acquired =>
      obtain rfl := Dispatcher.eq_of_acquire? acquired
      exact .inr ⟨rfl, rfl⟩
  | endWrite ended =>
      obtain ⟨cache, write, rfl⟩ := Dispatcher.exists_eq_of_endWrite? ended
      exact .inr ⟨rfl, rfl⟩
  | call found => exact .inr ⟨rfl, Dispatcher.lanes_setJob_eq found rfl⟩
  | unregister _ unregistered => exact .inl (Dispatcher.unregister?_step unregistered)
  | endDisposal _ found closing =>
      exact .inl (Dispatcher.disposed_step found closing orderly)
  | record found settled _ recorded => exact .inl (Dispatcher.record?_step recorded found settled)
  | post found recorded _ posted => exact .inl (Dispatcher.post?_step posted found recorded)
  | deliver _ found next delivered => exact .inl (Dispatcher.deliver?_step delivered found next)
  | closeLoop reply => exact .inl (.closeLoop reply)
  | closeLane | beginLaunch | beginDispose | pass | orphan | beginDisposal =>
      exact .inr ⟨rfl, rfl⟩

theorem IsFresh.lanes (fresh : s.IsFresh) : s.dispatcher.lanes.IsFresh where
  entries := by simp [Dispatcher.lanes, fresh.jobs]
  current := fresh.current
  session := fresh.session
  replies := fresh.replies

/-- Whatever is done around a new dispatcher, its lanes make a run of their own with the same to be
seen. -/
theorem Run.lanes (run : s.Run trace t) (fresh : s.IsFresh) :
    s.dispatcher.lanes.Run trace t.dispatcher.lanes := by
  induction run with
  | refl => exact .refl
  | step _ last inductionHypothesis =>
      have orderly := (inductionHypothesis.traced fresh.lanes).orderly
      rcases last.lanes orderly with step | ⟨rfl, same⟩
      · exact inductionHypothesis.step step
      · rwa [same, List.append_nil]

theorem Run.traced (run : s.Run trace t) (fresh : s.IsFresh) :
    Lanes.Traced s.dispatcher.lanes trace t.dispatcher.lanes :=
  (run.lanes fresh).traced fresh.lanes

end System

end TokenAcquisition.Dispatch
