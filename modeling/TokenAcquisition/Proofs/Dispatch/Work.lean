import TokenAcquisition.Proofs.Dispatch.Flows
import TokenAcquisition.Proofs.Program.Dealings

/-!
The work of one command among everything else that goes on around a dispatcher.  `Deals` is a run
with what the command dealt with in it: which answers its program got, and from what state of the
surroundings.
-/

namespace TokenAcquisition.Dispatch

/-- What the work is told of a launch that has returned, unless that panicked. -/
def told? : Flow.Started → Option (Except Failure Unit)
  | .awaiting => some (.ok ())
  | .refused failure => some (.error failure)
  | .panicked _ => none

/-- The surroundings of a command are such that its program gets an answer. -/
def System.Gives (s : System) (n : Nat) : Dealing → Prop
  | .now time => time = s.dispatcher.now
  | .seeds seeds => seeds = s.dispatcher.supply.seeds (s.dispatcher.launches + 1)
  | .lookedUp clientId account answer =>
      s.dispatcher.lock = some n ∧ answer = s.dispatcher.cache.store.lookup clientId account
  | .saved _ _ _ answer => s.dispatcher.lock = some n ∧ s.dispatcher.write = .ended answer
  | .invalidated clientId account answer =>
      s.dispatcher.lock = some n ∧
        (s.dispatcher.write = .ended answer ∨
          s.dispatcher.write = .none ∧ answer = .ok () ∧
            s.dispatcher.cache.store.invalidate? clientId account = none)
  | .posted _ answer => answer = (TransportAnswer.next s.dispatcher.transport).1
  | .launched _ answer =>
      ∃ k call started, (s.uses n).workCall = some k ∧ (s.uses n).calls[k]? = some call ∧
        call.started? = some started ∧ told? started = some answer
  | .awaited _ answer => (s.dispatcher.flow n).answer = answer
  | .slept _ | .disposed => True

/-- How a command comes further in one step, and what it deals with in it. -/
inductive Progress.Step (s : System) (n : Nat) : Progress → Option Dealing → Progress → Prop where
  | stay {progress} : Step s n progress none progress
  | tell : Step s n (.refused false) none (.refused true)
  | turn {stage stage' program} :
      Step s n (.opening stage program) none (.opening stage' program)
  | start {stage program} : Step s n (.opening stage program) none (.running program)
  | deal {program dealing program'} :
      program.Step dealing program' → s.Gives n dealing →
      Step s n (.running program) (some dealing) (.running program')
  | finish {result} : Step s n (.running (.done result)) none (.closing .ended result)
  | panic {request next message} :
      Step s n (.running (.launch request next)) none
        (.closing .ended (.error (.panic message)))
  | close {stage stage' result} : Step s n (.closing stage result) none (.closing stage' result)

/-- A command comes further, and no other does. -/
def System.Furthers (s : System) (m : Nat) (d : Dispatcher) : Prop :=
  ∃ own changed dealt, s.dispatcher.jobs[m]? = some own ∧
    d.jobs = s.dispatcher.jobs.set m changed ∧ changed.correlationId = own.correlationId ∧
    own.progress.Step s m dealt changed.progress

namespace System

variable {s t : System} {n m : Nat} {job own : Job} {d : Dispatcher} {occurrences : List Occurrence}

theorem Furthers.of_moved {before after : Progress} (found : s.dispatcher.jobs[m]? = some own)
    (progress : own.progress = before) (step : before.Step s m none after)
    (jobs : d.jobs = s.dispatcher.jobs.set m (own.moved after) := by rfl) : s.Furthers m d :=
  ⟨own, own.moved after, none, found, jobs, rfl, progress ▸ step⟩

/-- The program of a command gets an answer. -/
theorem Furthers.of_deal {program program' : Program (Except Breakdown Acquisition)}
    {dealing : Dealing} (found : s.dispatcher.jobs[m]? = some own)
    (progress : own.progress = .running program) (step : program.Step dealing program')
    (gives : s.Gives m dealing) {before : Dispatcher}
    (jobs : before.jobs = s.dispatcher.jobs := by rfl) :
    s.Furthers m (before.resume m own program') := by
  refine ⟨own, { own with progress := .running program', deadline := none }, some dealing, found,
    ?_, rfl, ?_⟩
  · rw [← jobs]
    rfl
  · rw [progress]
    exact .deal step gives

theorem Furthers.of_same (found : s.dispatcher.jobs[m]? = some own)
    (jobs : d.jobs = s.dispatcher.jobs) : s.Furthers m d :=
  ⟨own, own, none, found, by rw [jobs, Lists.set_eq_self found], rfl, .stay⟩

theorem furthers_change? (found : s.dispatcher.jobs[m]? = some own) {store : Option Store}
    {program : Program (Except Breakdown Acquisition)} (progress : own.progress = .running program)
    {next : Except Failure Unit → Program (Except Breakdown Acquisition)}
    {dealt : Except Failure Unit → Dealing}
    (steps : ∀ answer, program.Step (dealt answer) (next answer))
    (gives : ∀ answer, s.dispatcher.lock = some m →
      (s.dispatcher.write = .ended answer ∨
        s.dispatcher.write = .none ∧ answer = .ok () ∧ store = none) → s.Gives m (dealt answer))
    (changed : s.dispatcher.change? m own store next = some d) : s.Furthers m d := by
  unfold Dispatcher.change? at changed
  split at changed
  next => cases changed
  next held =>
    have held := Decidable.not_not.mp held
    split at changed
    next => cases changed
    next result ended =>
      obtain rfl := Option.some.inj changed
      exact .of_deal found progress (steps result) (gives result held (.inl ended))
    next idle =>
      split at changed
      next =>
        obtain rfl := Option.some.inj changed
        exact .of_same found rfl
      next =>
        obtain rfl := Option.some.inj changed
        exact .of_deal found progress (steps _) (gives _ held (.inr ⟨idle, rfl, rfl⟩))

theorem furthers_wait (found : s.dispatcher.jobs[m]? = some own) (deadline : Option Nat) :
    s.Furthers m (s.dispatcher.setJob m { own with deadline }) :=
  ⟨own, _, none, found, rfl, rfl, .stay⟩

theorem furthers_advance? (found : s.dispatcher.jobs[m]? = some own)
    {program : Program (Except Breakdown Acquisition)} (progress : own.progress = .running program)
    (isLocal : IsLocal program) (advanced : s.dispatcher.advance? m = some d) :
    s.Furthers m d := by
  cases program with
  | done | launch | dispose => cases isLocal
  | now next =>
      simp only [Dispatcher.advance?, found, progress, Option.some.injEq] at advanced
      subst advanced
      exact .of_deal found progress (.now _) rfl
  | seeds next =>
      simp only [Dispatcher.advance?, found, progress, Option.some.injEq] at advanced
      subst advanced
      exact .of_deal found progress (.seeds _) rfl
  | sleep milliseconds next =>
      simp only [Dispatcher.advance?, found, progress] at advanced
      split at advanced
      next =>
        obtain rfl := Option.some.inj advanced
        rw [← progress]
        exact furthers_wait found _
      next =>
        split at advanced
        next =>
          obtain rfl := Option.some.inj advanced
          exact .of_deal found progress .sleep trivial
        next => cases advanced
  | lookup clientId account next =>
      simp only [Dispatcher.advance?, found, progress] at advanced
      split at advanced
      next held =>
        obtain rfl := Option.some.inj advanced
        exact .of_deal found progress (.lookup _) ⟨held, rfl⟩
      next => cases advanced
  | save clientId credential metadata next =>
      simp only [Dispatcher.advance?, found, progress] at advanced
      refine furthers_change? found progress (fun answer => .save answer) ?_ advanced
      rintro answer held (ended | ⟨-, -, nothing⟩)
      · exact ⟨held, ended⟩
      · cases nothing
  | invalidate clientId account next =>
      simp only [Dispatcher.advance?, found, progress] at advanced
      exact furthers_change? found progress (fun answer => .invalidate answer)
        (fun answer held taken => ⟨held, taken⟩) advanced
  | post request next =>
      simp only [Dispatcher.advance?, found, progress, Option.some.injEq] at advanced
      subst advanced
      exact .of_deal found progress (.post _) rfl
  | await seconds next =>
      have flow : s.dispatcher.flow m = own.flow := Dispatcher.flow_eq found
      simp only [Dispatcher.advance?, found, progress] at advanced
      split at advanced
      next answer answered =>
        obtain rfl := Option.some.inj advanced
        refine .of_deal found progress (.await _) ?_
        rw [Gives, flow, answered]
      next unanswered =>
        split at advanced
        next => cases advanced
        next =>
          split at advanced
          next =>
            obtain rfl := Option.some.inj advanced
            rw [← progress]
            exact furthers_wait found _
          next =>
            split at advanced
            next =>
              obtain rfl := Option.some.inj advanced
              refine .of_deal found progress (.await _) ?_
              rw [Gives, flow, unanswered]
            next => cases advanced

/-- A step that furthers one command leaves the others where they are. -/
theorem Furthers.exists_step (furthers : s.Furthers m d)
    (found : s.dispatcher.jobs[n]? = some job) :
    ∃ job' dealt, d.jobs[n]? = some job' ∧ job'.correlationId = job.correlationId ∧
      job.progress.Step s n dealt job'.progress := by
  obtain ⟨own, changed, dealt, atM, jobs, same, step⟩ := furthers
  rw [jobs]
  by_cases here : m = n
  · subst here
    obtain rfl : own = job := Option.some.inj (atM.symm.trans found)
    have inside := (List.getElem?_eq_some_iff.mp found).1
    exact ⟨changed, dealt, by simp [inside], same, step⟩
  · exact ⟨job, none, by rw [List.getElem?_set_ne here, found], rfl, .stay⟩

theorem furthers_afterLaunch {request : AuthorizationRequest}
    {next : Except Failure Unit → Program (Except Breakdown Acquisition)} {k : Nat}
    {call : Flow.Call} {started : Flow.Started} (found : s.dispatcher.jobs[m]? = some own)
    (progress : own.progress = .running (.launch request next))
    (engaged : (s.uses m).workCall = some k) (called : (s.uses m).calls[k]? = some call)
    (returned : call.started? = some started) :
    s.Furthers m (s.dispatcher.afterLaunch m own next started) := by
  cases started with
  | awaiting =>
      exact .of_deal found progress (.launch _) ⟨k, call, _, engaged, called, returned, rfl⟩
  | refused failure =>
      exact .of_deal found progress (.launch _) ⟨k, call, _, engaged, called, returned, rfl⟩
  | panicked message =>
      exact .of_moved found progress .panic

/-- Whatever is done around a dispatcher, a command comes further by a step of its own or stays
where it is. -/
theorem Step.exists_progress (step : Step s occurrences t)
    (found : s.dispatcher.jobs[n]? = some job) :
    ∃ job' dealt, t.dispatcher.jobs[n]? = some job' ∧ job'.correlationId = job.correlationId ∧
      job.progress.Step s n dealt job'.progress := by
  have moves {m : Nat} {own : Job} {before after : Progress} {d : Dispatcher}
      (atM : s.dispatcher.jobs[m]? = some own) (progress : own.progress = before)
      (step : before.Step s m none after)
      (jobs : d.jobs = s.dispatcher.jobs.set m (own.moved after)) :
      ∃ job' dealt, d.jobs[n]? = some job' ∧ job'.correlationId = job.correlationId ∧
        job.progress.Step s n dealt job'.progress :=
    (Furthers.of_moved atM progress step jobs).exists_step found
  have stays {d : Dispatcher} (jobs : d.jobs = s.dispatcher.jobs) :
      ∃ job' dealt, d.jobs[n]? = some job' ∧ job'.correlationId = job.correlationId ∧
        job.progress.Step s n dealt job'.progress :=
    ⟨job, none, by rw [jobs, found], rfl, .stay⟩
  cases step with
  | submit lane correlationId reply program =>
      have inside := (List.getElem?_eq_some_iff.mp found).1
      refine ⟨job, none, ?_, rfl, .stay⟩
      simp only [Dispatcher.enqueue, List.getElem?_append_left inside, found]
  | tell _ told =>
      obtain ⟨own, atM, progress, rfl⟩ := Dispatcher.tell?_eq_some_iff.mp told
      exact moves atM progress .tell rfl
  | receive _ received =>
      obtain ⟨-, m, own, program, -, atM, progress, rfl⟩ :=
        Dispatcher.receive?_eq_some_iff.mp received
      exact moves atM progress .turn rfl
  | register _ registered =>
      obtain ⟨own, program, atM, progress, rfl⟩ := Dispatcher.register?_eq_some_iff.mp registered
      exact moves atM progress .turn rfl
  | spawn _ spawned =>
      obtain ⟨own, program, atM, progress, rfl⟩ := Dispatcher.spawn?_eq_some_iff.mp spawned
      exact moves atM progress .start rfl
  | startSilent started =>
      obtain ⟨own, program, atM, -, progress, rfl⟩ :=
        Dispatcher.startSilent?_eq_some_iff.mp started
      exact moves atM progress .start rfl
  | work atM progress isLocal advanced =>
      exact (furthers_advance? atM progress isLocal advanced).exists_step found
  | finish atM progress advanced =>
      simp only [Dispatcher.advance?, atM, progress, Option.some.injEq] at advanced
      subst advanced
      exact moves atM progress .finish rfl
  | endLaunch atM progress engaged called returned =>
      exact (furthers_afterLaunch atM progress engaged called returned).exists_step found
  | endDispose atM progress =>
      exact (Furthers.of_deal atM progress .dispose trivial).exists_step found
  | acquire acquired =>
      obtain rfl := Dispatcher.eq_of_acquire? acquired
      exact stays rfl
  | endWrite ended =>
      obtain ⟨cache, write, rfl⟩ := Dispatcher.exists_eq_of_endWrite? ended
      exact stays rfl
  | @call m k own after atM step =>
      exact Furthers.exists_step ⟨own, _, none, atM, rfl, rfl, .stay⟩ found
  | unregister _ unregistered =>
      obtain ⟨own, result, atM, progress, -, rfl⟩ :=
        Dispatcher.unregister?_eq_some_iff.mp unregistered
      exact moves atM progress .close rfl
  | endDisposal _ atM progress => exact moves atM progress .close rfl
  | record _ _ _ recorded =>
      obtain ⟨own, result, atM, progress, rfl⟩ := Dispatcher.record?_eq_some_iff.mp recorded
      exact moves atM progress .close rfl
  | post _ _ _ posted =>
      obtain ⟨own, result, atM, progress, rfl⟩ := Dispatcher.post?_eq_some_iff.mp posted
      exact moves atM progress .close rfl
  | deliver _ atReply next delivered =>
      simp only [Dispatcher.deliver?, atReply, next, Option.some.injEq] at delivered
      subst delivered
      exact stays rfl
  | closeLane | beginLaunch | beginDispose | pass | orphan | beginDisposal | closeLoop =>
      exact stays rfl

end System

/-! ### Calls of the work -/

/-- A call is the one that a program asks for. -/
def IsAsked (correlationId : String) :
    Program (Except Breakdown Acquisition) → Flow.Call → Prop
  | .launch request _, .request authorization classify bound _ =>
      authorization = request ∧ classify = Flow.byState ∧ bound = some correlationId
  | .dispose _, .dispose _ => True
  | _, _ => False

theorem IsAsked.step {correlationId : String} {program : Program (Except Breakdown Acquisition)}
    {flow flow' : Flow} {call call' : Flow.Call} {contacts : List Flow.Contact}
    (asked : IsAsked correlationId program call)
    (step : Flow.Call.Step flow call contacts flow' call') :
    IsAsked correlationId program call' := by
  cases step <;> cases program <;> exact asked

/-- The program of a command waits for the end of a call on its flow. -/
def Progress.Calls : Progress → Prop
  | .running (.launch _ _) => True
  | .running (.dispose _) => True
  | _ => False

theorem IsLocal.not_calls {program : Program (Except Breakdown Acquisition)}
    (isLocal : IsLocal program) : ¬ (Progress.running program).Calls := by
  cases program <;> first | exact id | cases isLocal

theorem IsAsked.calls {correlationId : String} {program : Program (Except Breakdown Acquisition)}
    {call : Flow.Call} (asked : IsAsked correlationId program call) :
    (Progress.running program).Calls := by
  unfold IsAsked at asked
  split at asked <;> first | exact trivial | cases asked

namespace System

variable {s t : System} {n m : Nat} {own changed : Job} {d : Dispatcher}
  {trace occurrences : List Occurrence}

/-- The call that the work of a command is in is the one that its program asks for. -/
structure Engaged (s : System) : Prop where
  asked : ∀ {n k : Nat}, (s.uses n).workCall = some k →
    ∃ job program call, s.dispatcher.jobs[n]? = some job ∧ job.progress = .running program ∧
      (s.uses n).calls[k]? = some call ∧ IsAsked job.correlationId program call

theorem IsFresh.engaged (fresh : s.IsFresh) : s.Engaged := by
  constructor
  intro n k busy
  rw [fresh.uses] at busy
  cases busy

namespace Engaged

theorem workCall_eq_none (engaged : s.Engaged) (found : s.dispatcher.jobs[m]? = some own)
    (free : ¬ own.progress.Calls) : (s.uses m).workCall = none := by
  cases busy : (s.uses m).workCall with
  | none => rfl
  | some k =>
      obtain ⟨job, program, call, atM, progress, -, asked⟩ := engaged.asked busy
      obtain rfl : own = job := Option.some.inj (found.symm.trans atM)
      exact absurd (progress ▸ asked.calls) free

/-- A command that is in no call may come further. -/
theorem of_set (engaged : s.Engaged) (found : s.dispatcher.jobs[m]? = some own)
    (free : ¬ own.progress.Calls) (jobs : d.jobs = s.dispatcher.jobs.set m changed) :
    Engaged { s with dispatcher := d } := by
  constructor
  intro n k busy
  obtain ⟨job, program, call, atN, progress, atK, asked⟩ := engaged.asked busy
  have other : m ≠ n := by
    rintro rfl
    have idle := engaged.workCall_eq_none found free
    rw [idle] at busy
    cases busy
  exact ⟨job, program, call, by rw [jobs, List.getElem?_set_ne other, atN], progress, atK, asked⟩

theorem of_append (engaged : s.Engaged) {more : List Job}
    (jobs : d.jobs = s.dispatcher.jobs ++ more) : Engaged { s with dispatcher := d } := by
  constructor
  intro n k busy
  obtain ⟨job, program, call, atN, rest⟩ := engaged.asked busy
  have inside := (List.getElem?_eq_some_iff.mp atN).1
  exact ⟨job, program, call, by rw [jobs, List.getElem?_append_left inside, atN], rest⟩

/-- The work of a command goes into a call. -/
theorem beginWorkCall (engaged : s.Engaged) (found : s.dispatcher.jobs[m]? = some own)
    {program : Program (Except Breakdown Acquisition)} (progress : own.progress = .running program)
    {call : Flow.Call} (asked : IsAsked own.correlationId program call) :
    (s.beginWorkCall m call).Engaged := by
  constructor
  intro n k busy
  by_cases here : n = m
  · subst here
    simp only [System.beginWorkCall, Function.update_self, Option.some.injEq] at busy ⊢
    subst busy
    exact ⟨own, program, call, found, progress, List.getElem?_concat_length, asked⟩
  · simp only [System.beginWorkCall, Function.update_of_ne here] at busy ⊢
    exact engaged.asked busy

/-- Whatever becomes of the use of a flow that no work is in a call on. -/
theorem of_update (engaged : s.Engaged) {use : Use} (free : use.workCall = none)
    (jobs : d.jobs = s.dispatcher.jobs.set m changed) :
    Engaged { dispatcher := d, uses := Function.update s.uses m use } := by
  constructor
  intro n k busy
  by_cases here : n = m
  · subst here
    simp only [Function.update_self] at busy
    rw [free] at busy
    cases busy
  · simp only [Function.update_of_ne here] at busy ⊢
    obtain ⟨job, program, call, atN, rest⟩ := engaged.asked busy
    exact ⟨job, program, call, by rw [jobs, List.getElem?_set_ne (Ne.symm here), atN], rest⟩

theorem share (engaged : s.Engaged) (found : s.dispatcher.jobs[m]? = some own) {k : Nat}
    {after : Flow.Shared} (step : Flow.Shared.Step (s.shared m) k after) :
    (s.share m own after).Engaged := by
  constructor
  intro n j busy
  by_cases here : n = m
  · subst here
    simp only [System.share, Function.update_self] at busy ⊢
    obtain ⟨job, program, call, atN, progress, atJ, asked⟩ := engaged.asked busy
    obtain rfl : own = job := Option.some.inj (found.symm.trans atN)
    have inside := (List.getElem?_eq_some_iff.mp found).1
    obtain ⟨call', atCall, same⟩ := step.call_cases atJ
    refine ⟨_, program, call', Dispatcher.getElem?_setJob _ found, progress, atCall, ?_⟩
    rcases same with rfl | ⟨contacts, step⟩
    · exact asked
    · exact asked.step step
  · simp only [System.share, Function.update_of_ne here] at busy ⊢
    obtain ⟨job, program, call, atN, rest⟩ := engaged.asked busy
    refine ⟨job, program, call, ?_, rest⟩
    simp [Dispatcher.log, Dispatcher.setJob, List.getElem?_set_ne (Ne.symm here), atN]

end Engaged

theorem Step.engaged (step : Step s occurrences t) (engaged : s.Engaged) : t.Engaged := by
  have moves {m : Nat} {own changed : Job} {before : Progress} {d : Dispatcher}
      (found : s.dispatcher.jobs[m]? = some own) (progress : own.progress = before)
      (free : ¬ before.Calls) (jobs : d.jobs = s.dispatcher.jobs.set m changed) :
      Engaged { s with dispatcher := d } :=
    engaged.of_set found (progress ▸ free) jobs
  cases step with
  | submit lane correlationId reply program =>
      exact engaged.of_append rfl
  | tell _ told =>
      obtain ⟨own, found, progress, rfl⟩ := Dispatcher.tell?_eq_some_iff.mp told
      exact moves found progress id rfl
  | receive _ received =>
      obtain ⟨-, m, own, program, -, found, progress, rfl⟩ :=
        Dispatcher.receive?_eq_some_iff.mp received
      exact moves found progress id rfl
  | register _ registered =>
      obtain ⟨own, program, found, progress, rfl⟩ := Dispatcher.register?_eq_some_iff.mp registered
      exact moves found progress id rfl
  | spawn _ spawned =>
      obtain ⟨own, program, found, progress, rfl⟩ := Dispatcher.spawn?_eq_some_iff.mp spawned
      exact moves found progress id rfl
  | startSilent started =>
      obtain ⟨own, program, found, -, progress, rfl⟩ :=
        Dispatcher.startSilent?_eq_some_iff.mp started
      exact moves found progress id rfl
  | work found progress isLocal advanced =>
      obtain ⟨changed, jobs, -⟩ := (Dispatcher.advance?_works found progress isLocal advanced).jobs
      exact moves found progress isLocal.not_calls jobs
  | finish found progress advanced =>
      simp only [Dispatcher.advance?, found, progress, Option.some.injEq] at advanced
      subst advanced
      exact moves found progress id rfl
  | beginLaunch found progress => exact engaged.beginWorkCall found progress ⟨rfl, rfl, rfl⟩
  | beginDispose found progress => exact engaged.beginWorkCall found progress trivial
  | @endLaunch _ _ _ _ _ _ started =>
      cases started <;> exact engaged.of_update rfl rfl
  | endDispose => exact engaged.of_update rfl rfl
  | acquire acquired =>
      obtain rfl := Dispatcher.eq_of_acquire? acquired
      exact engaged.of_append (List.append_nil _).symm
  | endWrite ended =>
      obtain ⟨cache, write, rfl⟩ := Dispatcher.exists_eq_of_endWrite? ended
      exact engaged.of_append (List.append_nil _).symm
  | call found step => exact engaged.share found step
  | unregister _ unregistered =>
      obtain ⟨own, result, found, progress, -, rfl⟩ :=
        Dispatcher.unregister?_eq_some_iff.mp unregistered
      exact moves found progress id rfl
  | beginDisposal _ found progress =>
      have free := engaged.workCall_eq_none found (progress ▸ id)
      exact engaged.of_update free (Lists.set_eq_self found).symm
  | endDisposal _ found progress =>
      have free := engaged.workCall_eq_none found (progress ▸ id)
      exact engaged.of_update free rfl
  | record _ _ _ recorded =>
      obtain ⟨own, result, found, progress, rfl⟩ := Dispatcher.record?_eq_some_iff.mp recorded
      exact moves found progress id rfl
  | post _ _ _ posted =>
      obtain ⟨own, result, found, progress, rfl⟩ := Dispatcher.post?_eq_some_iff.mp posted
      exact moves found progress id rfl
  | deliver _ atReply next delivered =>
      simp only [Dispatcher.deliver?, atReply, next, Option.some.injEq] at delivered
      subst delivered
      exact engaged.of_append (List.append_nil _).symm
  | closeLane | pass | orphan | closeLoop => exact engaged.of_append (List.append_nil _).symm

theorem Run.engaged (run : s.Run trace t) (fresh : s.IsFresh) : t.Engaged := by
  induction run with
  | refl => exact fresh.engaged
  | step _ last inductionHypothesis => exact last.engaged inductionHypothesis

end System

theorem Dispatcher.advance?_post {d : Dispatcher} {n : Nat} {job : Job} {request : TokenRequest}
    {next : Except Failure HttpResponse → Program (Except Breakdown Acquisition)}
    (found : d.jobs[n]? = some job) (progress : job.progress = .running (.post request next)) :
    d.advance? n =
      some (({ d with transport := (TransportAnswer.next d.transport).2 }.log
        [.deed (.post request)]).resume n job
          (Program.afterPost next (TransportAnswer.next d.transport).1)) := by
  simp only [advance?, found, progress]
  rfl

theorem Dispatcher.advance?_await {d : Dispatcher} {n : Nat} {job : Job} {seconds : Option Nat}
    {next : Option (Except Failure AuthorizationResult) → Program (Except Breakdown Acquisition)}
    {answer : Except Failure AuthorizationResult} (found : d.jobs[n]? = some job)
    (progress : job.progress = .running (.await seconds next))
    (answered : job.flow.answer = some answer) :
    d.advance? n = some (d.resume n job (next (some answer))) := by
  simp only [advance?, found, progress, answered]

theorem Dispatcher.advance?_now {d : Dispatcher} {n : Nat} {job : Job}
    {next : UInt64 → Program (Except Breakdown Acquisition)}
    (found : d.jobs[n]? = some job) (progress : job.progress = .running (.now next)) :
    d.advance? n = some (d.resume n job (next d.now)) := by
  simp only [advance?, found, progress]

/-- A run, with what a command dealt with in it. -/
inductive Deals (n : Nat) (s : System) : List Dealing → System → Prop where
  | start : Deals n s [] s
  | step {dealings t occurrences u job job' dealt} :
      Deals n s dealings t → System.Step t occurrences u →
      t.dispatcher.jobs[n]? = some job → u.dispatcher.jobs[n]? = some job' →
      job.progress.Step t n dealt job'.progress → Deals n s (dealings ++ dealt.toList) u

/-- A command gets an answer in a step. -/
structure System.Answers (s : System) (n : Nat) (dealing : Dealing) (t : System) : Prop where
  exists_step : ∃ occurrences before further, s.Step occurrences t ∧
    s.dispatcher.jobs[n]? = some before ∧ t.dispatcher.jobs[n]? = some further ∧
    before.progress.Step s n (some dealing) further.progress

namespace System.Answers

variable {s t : System} {n : Nat} {dealing : Dealing}

theorem gives (answers : s.Answers n dealing t) : s.Gives n dealing := by
  obtain ⟨_, before, further, -, -, -, own⟩ := answers
  generalize before.progress = progress at own
  generalize further.progress = progress' at own
  cases own with
  | deal _ gives => exact gives

theorem exists_program (answers : s.Answers n dealing t) :
    ∃ occurrences job job' program next, s.Step occurrences t ∧
      s.dispatcher.jobs[n]? = some job ∧ job.progress = .running program ∧
      t.dispatcher.jobs[n]? = some job' ∧ job'.progress = .running next ∧
      program.Step dealing next := by
  obtain ⟨_, before, further, step, found, found', own⟩ := answers
  generalize same : before.progress = progress at own
  generalize same' : further.progress = progress' at own
  cases own with
  | deal answered _ => exact ⟨_, before, further, _, _, step, found, same, found', same', answered⟩

end System.Answers

/-- A run of steps that keep a rule, with what a command dealt with in it. -/
inductive DealsUnder (rule : System → System → Prop) (n : Nat) (s : System) :
    List Dealing → System → Prop where
  | start : DealsUnder rule n s [] s
  | step {dealings t occurrences u job job' dealt} :
      DealsUnder rule n s dealings t → System.Step t occurrences u → rule t u →
      t.dispatcher.jobs[n]? = some job → u.dispatcher.jobs[n]? = some job' →
      job.progress.Step t n dealt job'.progress →
      DealsUnder rule n s (dealings ++ dealt.toList) u

namespace DealsUnder

variable {rule : System → System → Prop} {s t u : System} {n : Nat} {dealings : List Dealing}
  {occurrences : List Occurrence} {job job' : Job}

theorem deals (deals : DealsUnder rule n s dealings t) : Deals n s dealings t := by
  induction deals with
  | start => exact .start
  | step _ step _ before after own inductionHypothesis =>
      exact inductionHypothesis.step step before after own

theorem of_deals (keeps : ∀ s t, rule s t) (deals : Deals n s dealings t) :
    DealsUnder rule n s dealings t := by
  induction deals with
  | start => exact .start
  | step _ step before after own inductionHypothesis =>
      exact inductionHypothesis.step step (keeps _ _) before after own

/-- A step in which a command gets no answer. -/
theorem further (deals : DealsUnder rule n s dealings t) (step : t.Step occurrences u)
    (keeps : rule t u) (found : t.dispatcher.jobs[n]? = some job)
    (found' : u.dispatcher.jobs[n]? = some job')
    (own : job.progress.Step t n none job'.progress) : DealsUnder rule n s dealings u := by
  have extended := deals.step step keeps found found' own
  rwa [Option.toList_none, List.append_nil] at extended

/-- A step in which a command gets an answer. -/
theorem deal (deals : DealsUnder rule n s dealings t) (step : t.Step occurrences u)
    (keeps : rule t u) (found : t.dispatcher.jobs[n]? = some job)
    (found' : u.dispatcher.jobs[n]? = some job')
    {program program' : Program (Except Breakdown Acquisition)} {dealing : Dealing}
    (progress : job.progress = .running program) (progress' : job'.progress = .running program')
    (answered : program.Step dealing program') (gives : t.Gives n dealing) :
    DealsUnder rule n s (dealings ++ [dealing]) u := by
  have own : job.progress.Step t n (some dealing) job'.progress := by
    rw [progress, progress']
    exact .deal answered gives
  exact deals.step step keeps found found' own

/-- A run goes through the step in which an answer was given. -/
theorem split {earlier later : List Dealing} {dealing : Dealing}
    (deals : DealsUnder rule n s (earlier ++ dealing :: later) t) :
    ∃ middle next, DealsUnder rule n s earlier middle ∧ middle.Answers n dealing next ∧
      DealsUnder rule n next later t := by
  generalize all : earlier ++ dealing :: later = dealings at deals
  induction deals generalizing later with
  | start => simp at all
  | @step dealings middle _ last before further dealt deals step keeps atMiddle atLast own
      inductionHypothesis =>
      have sooner {later : List Dealing} (same : earlier ++ dealing :: later = dealings) :
          ∃ middle next, DealsUnder rule n s earlier middle ∧ middle.Answers n dealing next ∧
            DealsUnder rule n next (later ++ dealt.toList) last := by
        obtain ⟨middle, next, early, answers, late⟩ := inductionHypothesis same
        exact ⟨middle, next, early, answers, late.step step keeps atMiddle atLast own⟩
      cases dealt with
      | none => simpa using sooner (by simpa using all)
      | some now =>
          rcases List.eq_nil_or_concat later with rfl | ⟨more, final, rfl⟩
          · obtain ⟨rfl, same⟩ := List.append_inj' (all.trans rfl) rfl
            obtain rfl : dealing = now := List.singleton_injective same
            exact ⟨middle, last, deals, ⟨_, before, further, step, atMiddle, atLast, own⟩, .start⟩
          · have split : (earlier ++ dealing :: more) ++ [final] = dealings ++ [now] := by
              simpa using all
            obtain ⟨same, ended⟩ := List.append_inj' split rfl
            obtain rfl : final = now := List.singleton_injective ended
            simpa using sooner same

section

/-! Where the rule lets everything happen that leaves the clock as it is. -/

variable (still : ∀ {s t : System}, t.dispatcher.clock = s.dispatcher.clock → rule s t)
include still

/-- Whatever becomes of the calls on its flow, a command is where it was. -/
theorem exists_share {after : Flow.Shared} (deals : DealsUnder rule n s dealings t)
    (found : t.dispatcher.jobs[n]? = some job) (run : Flow.Shared.Run (t.shared n) after) :
    ∃ u, DealsUnder rule n s dealings u ∧
      u.dispatcher.jobs[n]? = some { job with flow := after.flow } ∧
      u.shared n = after ∧ (u.uses n).workCall = (t.uses n).workCall ∧
      u.dispatcher =
        { t.dispatcher with
          jobs := t.dispatcher.jobs.set n { job with flow := after.flow }
          events := u.dispatcher.events } := by
  induction run with
  | refl =>
      have own : { job with flow := (t.shared n).flow } = job := by
        rw [show (t.shared n).flow = job.flow from Dispatcher.flow_eq found]
      exact ⟨t, deals, by rw [own, found], rfl, rfl, by rw [own, Lists.set_eq_self found]⟩
  | @tail middle after _ last inductionHypothesis =>
      obtain ⟨k, last⟩ := last
      obtain ⟨u, before, atN, rfl, same, others⟩ := inductionHypothesis
      have atEnd := Dispatcher.getElem?_setJob { job with flow := after.flow } atN
      refine ⟨_, before.further (.call atN last) (still rfl) atN atEnd .stay, atEnd, ?_, ?_, ?_⟩
      · rw [System.shared_share atN, if_pos rfl]
      · simpa [System.share] using same
      · simp only [System.share, Dispatcher.log, Dispatcher.setJob]
        rw [others]
        simp only [List.set_set]

/-- A launch that has returned lets the command go on. -/
theorem exists_launched {request : AuthorizationRequest}
    {next : Except Failure Unit → Program (Except Breakdown Acquisition)} {k : Nat}
    {call : Flow.Call} (deals : DealsUnder rule n s dealings t)
    (found : t.dispatcher.jobs[n]? = some job)
    (progress : job.progress = .running (.launch request next))
    (busy : (t.uses n).workCall = some k) (called : (t.uses n).calls[k]? = some call)
    (returned : call.started? = some .awaiting) :
    ∃ u, DealsUnder rule n s (dealings ++ [.launched request (.ok ())]) u ∧
      u.dispatcher.jobs[n]? =
        some { job with progress := .running (next (.ok ())), deadline := none } ∧
      u.dispatcher = t.dispatcher.resume n job (next (.ok ())) ∧
      (u.uses n).workCall = none ∧ u.shared n = t.shared n := by
  have atEnd := Dispatcher.getElem?_setJob
    { job with progress := .running (next (.ok ())), deadline := none } found
  refine ⟨_, deals.deal (.endLaunch found progress busy called returned) (still rfl) found atEnd
    progress rfl (.launch (.ok ())) ⟨k, call, .awaiting, busy, called, returned, rfl⟩, atEnd, rfl,
    ?_, ?_⟩
  · simp [System.endWorkCall]
  · have flow : (t.dispatcher.afterLaunch n job next .awaiting).flow n = t.dispatcher.flow n :=
      (Dispatcher.flow_eq atEnd).trans (Dispatcher.flow_eq found).symm
    simp [System.shared, System.endWorkCall, flow]

/-- Nothing keeps a command from being told the answer of its flow. -/
theorem exists_awaited {seconds : Option Nat} {answer : Except Failure AuthorizationResult}
    {next : Option (Except Failure AuthorizationResult) → Program (Except Breakdown Acquisition)}
    (deals : DealsUnder rule n s dealings t) (found : t.dispatcher.jobs[n]? = some job)
    (progress : job.progress = .running (.await seconds next))
    (answered : job.flow.answer = some answer) :
    ∃ u, DealsUnder rule n s (dealings ++ [.awaited seconds (some answer)]) u ∧
      u.dispatcher.jobs[n]? =
        some { job with progress := .running (next (some answer)), deadline := none } ∧
      u.dispatcher = t.dispatcher.resume n job (next (some answer)) := by
  have told : (t.dispatcher.flow n).answer = some answer := by rwa [Dispatcher.flow_eq found]
  have advanced := Dispatcher.advance?_await found progress answered
  have atEnd := Dispatcher.getElem?_setJob
    { job with progress := .running (next (some answer)), deadline := none } found
  exact ⟨_, deals.deal (.work found progress trivial advanced) (still rfl) found atEnd progress rfl
    (.await _) told, atEnd, rfl⟩

/-- Nothing keeps a command from asking for tokens. -/
theorem exists_posted {request : TokenRequest}
    {next : Except Failure HttpResponse → Program (Except Breakdown Acquisition)}
    (deals : DealsUnder rule n s dealings t) (found : t.dispatcher.jobs[n]? = some job)
    (progress : job.progress = .running (.post request next)) :
    ∃ reply u, DealsUnder rule n s (dealings ++ [.posted request reply]) u := by
  have advanced := Dispatcher.advance?_post found progress
  exact ⟨_, _, deals.deal (.work found progress trivial advanced) (still rfl) found
    (Dispatcher.getElem?_setJob _ found) progress rfl (.post _) rfl⟩

end

end DealsUnder

namespace Deals

variable {s t u : System} {n : Nat} {dealings : List Dealing} {trace : List Occurrence} {job : Job}

theorem exists_run (deals : Deals n s dealings t) : ∃ trace, s.Run trace t := by
  induction deals with
  | start => exact ⟨[], .refl⟩
  | step _ step _ _ _ inductionHypothesis =>
      obtain ⟨trace, before⟩ := inductionHypothesis
      exact ⟨_, before.step step⟩

theorem trans {more : List Dealing} (deals : Deals n s dealings t) (further : Deals n t more u) :
    Deals n s (dealings ++ more) u := by
  induction further with
  | start => rwa [List.append_nil]
  | step _ step before after own inductionHypothesis =>
      rw [← List.append_assoc]
      exact inductionHypothesis.step step before after own

/-- A run is one under a rule that lets everything happen. -/
theorem free (deals : Deals n s dealings t) : DealsUnder (fun _ _ => True) n s dealings t :=
  .of_deals (fun _ _ => trivial) deals

/-- A step in which a command gets no answer. -/
theorem further {job' : Job} (deals : Deals n s dealings t) {occurrences : List Occurrence}
    (step : t.Step occurrences u) (found : t.dispatcher.jobs[n]? = some job)
    (found' : u.dispatcher.jobs[n]? = some job')
    (own : job.progress.Step t n none job'.progress) : Deals n s dealings u :=
  (deals.free.further step trivial found found' own).deals

/-- A step in which a command gets an answer. -/
theorem deal {job' : Job} (deals : Deals n s dealings t) {occurrences : List Occurrence}
    (step : t.Step occurrences u) (found : t.dispatcher.jobs[n]? = some job)
    (found' : u.dispatcher.jobs[n]? = some job')
    {program program' : Program (Except Breakdown Acquisition)} {dealing : Dealing}
    (progress : job.progress = .running program) (progress' : job'.progress = .running program')
    (answered : program.Step dealing program') (gives : t.Gives n dealing) :
    Deals n s (dealings ++ [dealing]) u :=
  (deals.free.deal step trivial found found' progress progress' answered gives).deals

/-- A command keeps its correlation id. -/
theorem correlationId_eq {job' : Job} (deals : Deals n s dealings t)
    (found : s.dispatcher.jobs[n]? = some job) (found' : t.dispatcher.jobs[n]? = some job') :
    job'.correlationId = job.correlationId := by
  induction deals generalizing job' with
  | start => rw [Option.some.inj (found'.symm.trans found)]
  | step _ step before _ _ inductionHypothesis =>
      obtain ⟨after, _, atAfter, same, -⟩ := step.exists_progress before
      obtain rfl : after = job' := Option.some.inj (atAfter.symm.trans found')
      rw [same, inductionHypothesis before]

/-- In any run a command deals with something. -/
theorem exists_of_run (run : s.Run trace t) (found : s.dispatcher.jobs[n]? = some job) :
    ∃ dealings job', Deals n s dealings t ∧ t.dispatcher.jobs[n]? = some job' := by
  induction run with
  | refl => exact ⟨[], job, .start, found⟩
  | step _ last inductionHypothesis =>
      obtain ⟨dealings, middle, deals, atMiddle⟩ := inductionHypothesis
      obtain ⟨job', dealt, atLast, -, further⟩ := last.exists_progress atMiddle
      exact ⟨_, job', deals.step last atMiddle atLast further, atLast⟩

end Deals

/-- A command that has dealt with something gets an answer in some state of a run. -/
structure Gets (n : Nat) (s : System) (earlier : List Dealing) (dealing : Dealing)
    (middle t : System) : Prop where
  deals : Deals n s earlier middle
  exists_step : ∃ occurrences after before further, middle.Step occurrences after ∧
    middle.dispatcher.jobs[n]? = some before ∧ after.dispatcher.jobs[n]? = some further ∧
    before.progress.Step middle n (some dealing) further.progress ∧ ∃ trace, after.Run trace t

namespace Gets

variable {s middle t u : System} {n : Nat} {earlier : List Dealing} {dealing : Dealing}
  {occurrences : List Occurrence}

theorem step (gets : Gets n s earlier dealing middle t) (step : t.Step occurrences u) :
    Gets n s earlier dealing middle u := by
  obtain ⟨deals, _, after, before, further, first, atBefore, atAfter, own, trace, run⟩ := gets
  exact ⟨deals, _, after, before, further, first, atBefore, atAfter, own, _, run.step step⟩

/-- The run goes on from the state in which the answer was given. -/
theorem exists_run (gets : Gets n s earlier dealing middle t) :
    ∃ trace, middle.Run trace t := by
  obtain ⟨-, _, after, before, further, first, -, -, -, trace, run⟩ := gets
  exact ⟨_, (System.Run.refl.step first).trans run⟩

theorem exists_answers (gets : Gets n s earlier dealing middle t) :
    ∃ next, middle.Answers n dealing next := by
  obtain ⟨-, _, after, before, further, first, found, found', own, -⟩ := gets
  exact ⟨after, _, before, further, first, found, found', own⟩

theorem gives (gets : Gets n s earlier dealing middle t) : middle.Gives n dealing := by
  obtain ⟨_, answers⟩ := gets.exists_answers
  exact answers.gives

theorem exists_program (gets : Gets n s earlier dealing middle t) :
    ∃ job program next, middle.dispatcher.jobs[n]? = some job ∧
      job.progress = .running program ∧ program.Step dealing next := by
  obtain ⟨_, answers⟩ := gets.exists_answers
  obtain ⟨_, job, _, program, next, -, found, progress, -, -, answered⟩ := answers.exists_program
  exact ⟨job, program, next, found, progress, answered⟩

end Gets

/-- A run goes through the state in which an answer was given. -/
theorem Deals.exists_gets {s t : System} {n : Nat} {earlier later : List Dealing}
    {dealing : Dealing} (deals : Deals n s (earlier ++ dealing :: later) t) :
    ∃ middle, Gets n s earlier dealing middle t := by
  obtain ⟨middle, next, early, ⟨_, before, further, step, found, found', own⟩, late⟩ :=
    deals.free.split
  exact ⟨middle, early.deals, _, next, before, further, step, found, found', own,
    late.deals.exists_run⟩

/-- A command that was submitted with a program has come along a path of it. -/
def Progress.Along (program : Program (Except Breakdown Acquisition)) (dealings : List Dealing) :
    Progress → Prop
  | .refused _ => dealings = []
  | .opening _ own => own = program ∧ dealings = []
  | .running own => program.Path dealings own
  | .closing _ _ => ∃ last, program.Path dealings last

/-- A system in which a command has just been submitted. -/
def System.submitted (s : System) (lane : Lane) (correlationId : String) (reply : Nat)
    (program : Program (Except Breakdown Acquisition)) : System :=
  { s with dispatcher := s.dispatcher.enqueue lane correlationId reply program }

theorem System.exists_submitted (s : System) (lane : Lane) (correlationId : String) (reply : Nat)
    (program : Program (Except Breakdown Acquisition)) :
    ∃ job,
      (s.submitted lane correlationId reply program).dispatcher.jobs[s.dispatcher.jobs.length]? =
        some job ∧ job.correlationId = correlationId ∧ job.progress.Along program [] := by
  refine ⟨_, List.getElem?_concat_length, rfl, ?_⟩
  dsimp only
  split
  · exact rfl
  · exact ⟨rfl, rfl⟩

theorem Progress.Step.along {s : System} {n : Nat} {before after : Progress}
    {dealt : Option Dealing} {program : Program (Except Breakdown Acquisition)}
    {dealings : List Dealing} (step : before.Step s n dealt after)
    (along : before.Along program dealings) :
    after.Along program (dealings ++ dealt.toList) := by
  cases step with
  | deal step => exact Program.Path.concat along step
  | start =>
      obtain ⟨rfl, rfl⟩ := along
      exact .here
  | finish | panic =>
      rw [Option.toList_none, List.append_nil]
      exact ⟨_, along⟩
  | stay | tell | turn | close =>
      rw [Option.toList_none, List.append_nil]
      exact along

namespace Deals

variable {s t : System} {n : Nat} {dealings : List Dealing} {job job' : Job}
  {program : Program (Except Breakdown Acquisition)}

theorem along (deals : Deals n s dealings t) (found : s.dispatcher.jobs[n]? = some job)
    (fresh : job.progress.Along program []) :
    ∃ job', t.dispatcher.jobs[n]? = some job' ∧ job'.progress.Along program dealings := by
  induction deals with
  | start => exact ⟨job, found, fresh⟩
  | step _ _ before after further inductionHypothesis =>
      obtain ⟨middle, atMiddle, along⟩ := inductionHypothesis
      obtain rfl := Option.some.inj (before.symm.trans atMiddle)
      exact ⟨_, after, further.along along⟩

/-- A command that has come back to where it was has been there all the time. -/
theorem of_same {u : System} {own : Program (Except Breakdown Acquisition)}
    {trace : List Occurrence}
    (deals : Deals n s dealings t) (run : t.Run trace u) (found : t.dispatcher.jobs[n]? = some job)
    (progress : job.progress = .running own) (found' : u.dispatcher.jobs[n]? = some job')
    (same : job'.progress = .running own) : Deals n s dealings u := by
  obtain ⟨more, last, further, atLast⟩ := exists_of_run run found
  obtain rfl := Option.some.inj (atLast.symm.trans found')
  have begun : job.progress.Along own [] := by
    rw [progress]
    exact .here
  obtain ⟨_, atEnd, along⟩ := further.along found begun
  obtain rfl := Option.some.inj (atEnd.symm.trans found')
  rw [same] at along
  rw [Program.Path.eq_nil_of_loop along] at further
  simpa using deals.trans further

theorem exists_path (deals : Deals n s dealings t) (found : s.dispatcher.jobs[n]? = some job)
    (fresh : job.progress.Along program []) : ∃ last, program.Path dealings last := by
  obtain ⟨job', -, along⟩ := deals.along found fresh
  cases progress : job'.progress with
  | running own => exact ⟨own, by simpa [progress, Progress.Along] using along⟩
  | closing stage result => simpa [progress, Progress.Along] using along
  | refused isTold =>
      obtain rfl : dealings = [] := by simpa [progress, Progress.Along] using along
      exact ⟨_, .here⟩
  | «opening» stage own =>
      obtain ⟨-, rfl⟩ : own = program ∧ dealings = [] := by
        simpa [progress, Progress.Along] using along
      exact ⟨_, .here⟩

end Deals

end TokenAcquisition.Dispatch
