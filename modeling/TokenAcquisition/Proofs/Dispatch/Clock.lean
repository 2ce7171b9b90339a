import TokenAcquisition.Proofs.Dispatch.Work

/-!
Waits that are limited.  A command that waits for the answer of its flow for so many seconds at
most sets its timer in the instant in which it begins to wait.  It is told the answer when it looks
and there is one, whatever the time; and that there is none when it looks after the limit, and
never before.

Of the time only this much is asked: that it does not run back, and that it stands still between
the beginning of a wait and the setting of its timer.  A clock that moves only while nothing can go
on does so, and one that runs by itself does.
-/

namespace TokenAcquisition.Dispatch

namespace Dispatcher

variable {d d' : Dispatcher} {n seconds : Nat} {job : Job}
  {next : Option (Except Failure AuthorizationResult) → Program (Except Breakdown Acquisition)}

/-- A command that waits for so long at most is told the answer of its flow if there is one, sets
its timer if it has none, or finds that its time is over. -/
theorem advance?_await_eq_some_iff (found : d.jobs[n]? = some job)
    (progress : job.progress = .running (.await (some seconds) next)) :
    d.advance? n = some d' ↔
      (∃ answer, job.flow.answer = some answer ∧ d.resume n job (next (some answer)) = d') ∨
      job.flow.answer = none ∧
        (job.deadline = none ∧
            d.setJob n { job with deadline := some (d.clock + 1000 * seconds) } = d' ∨
          ∃ deadline, job.deadline = some deadline ∧ deadline ≤ d.clock ∧
            d.resume n job (next none) = d') := by
  simp only [advance?, found, progress]
  cases job.flow.answer with
  | some answer => simp
  | none => cases job.deadline <;> simp

/-- There is nothing to do for it while its timer runs and nobody has answered. -/
theorem advance?_await_eq_none_iff (found : d.jobs[n]? = some job)
    (progress : job.progress = .running (.await (some seconds) next)) :
    d.advance? n = none ↔
      job.flow.answer = none ∧ ∃ deadline, job.deadline = some deadline ∧ d.clock < deadline := by
  simp only [advance?, found, progress]
  cases job.flow.answer with
  | some answer => simp
  | none => cases job.deadline <;> simp

end Dispatcher

namespace System

variable {s t : System} {n start seconds : Nat} {job : Job} {occurrences : List Occurrence}
  {program : Program (Except Breakdown Acquisition)}

/-- Whatever is done around a dispatcher, the work of a command is left alone or goes on by a step
of its own. -/
theorem Step.running_cases (step : Step s occurrences t) (found : s.dispatcher.jobs[n]? = some job)
    (running : job.progress = .running program) :
    (∃ flow, t.dispatcher.jobs[n]? = some { job with flow }) ∨
      ¬ (Progress.running program).Calls ∧ s.dispatcher.advance? n = some t.dispatcher ∨
      (∃ request next started, program = .launch request next ∧
        t.dispatcher = s.dispatcher.afterLaunch n job next started) ∨
      ∃ next k pending, program = .dispose next ∧ (s.uses n).workCall = some k ∧
        (s.uses n).calls[k]? = some (.dispose (.ended pending)) ∧
        t.dispatcher = s.dispatcher.resume n job next := by
  have same {jobs : List Job} (kept : jobs[n]? = s.dispatcher.jobs[n]?) :
      ∃ flow, jobs[n]? = some { job with flow } :=
    ⟨job.flow, kept.trans found⟩
  -- A step for a command whose work is not running is a step for another one.
  have elsewhere {m : Nat} {own changed : Job} (atM : s.dispatcher.jobs[m]? = some own)
      (other : own.progress ≠ .running program) :
      ∃ flow, (s.dispatcher.jobs.set m changed)[n]? = some { job with flow } := by
    refine same (List.getElem?_set_ne ?_)
    rintro rfl
    obtain rfl := Option.some.inj (atM.symm.trans found)
    exact other running
  have apart {m : Nat} (changed : Job) (different : m ≠ n) :
      ∃ flow, (s.dispatcher.jobs.set m changed)[n]? = some { job with flow } :=
    same (List.getElem?_set_ne different)
  have whose {m : Nat} {own : Job} {work : Program (Except Breakdown Acquisition)}
      (atM : s.dispatcher.jobs[m]? = some own) (progress : own.progress = .running work) :
      m ≠ n ∨ m = n ∧ own = job ∧ work = program := by
    by_cases here : m = n
    · subst here
      obtain rfl := Option.some.inj (atM.symm.trans found)
      exact .inr ⟨rfl, rfl, Progress.running.inj (progress.symm.trans running)⟩
    · exact .inl here
  cases step with
  | submit lane correlationId reply program =>
      have inside := (List.getElem?_eq_some_iff.mp found).1
      exact .inl (same (List.getElem?_append_left inside))
  | tell _ told =>
      obtain ⟨own, atM, progress, rfl⟩ := Dispatcher.tell?_eq_some_iff.mp told
      exact .inl (elsewhere atM (by simp [progress]))
  | receive _ received =>
      obtain ⟨-, m, own, program, -, atM, progress, rfl⟩ :=
        Dispatcher.receive?_eq_some_iff.mp received
      exact .inl (elsewhere atM (by simp [progress]))
  | register _ registered =>
      obtain ⟨own, program, atM, progress, rfl⟩ := Dispatcher.register?_eq_some_iff.mp registered
      exact .inl (elsewhere atM (by simp [progress]))
  | spawn _ spawned =>
      obtain ⟨own, program, atM, progress, rfl⟩ := Dispatcher.spawn?_eq_some_iff.mp spawned
      exact .inl (elsewhere atM (by simp [progress]))
  | startSilent started =>
      obtain ⟨own, program, atM, -, progress, rfl⟩ :=
        Dispatcher.startSilent?_eq_some_iff.mp started
      exact .inl (elsewhere atM (by simp [progress]))
  | @work m own _ d atM progress isLocal advanced =>
      rcases whose atM progress with different | ⟨rfl, rfl, rfl⟩
      · obtain ⟨_, changed, -, -, jobs, -⟩ := furthers_advance? atM progress isLocal advanced
        exact .inl (by simpa only [jobs] using apart changed different)
      · exact .inr (.inl ⟨isLocal.not_calls, advanced⟩)
  | @finish m own result d atM progress advanced =>
      rcases whose atM progress with different | ⟨rfl, rfl, rfl⟩
      · simp only [Dispatcher.advance?, atM, progress, Option.some.injEq] at advanced
        subst advanced
        exact .inl (apart _ different)
      · exact .inr (.inl ⟨id, advanced⟩)
  | @endLaunch m k own request next call started atM progress engaged called returned =>
      rcases whose atM progress with different | ⟨rfl, rfl, rfl⟩
      · cases started <;> exact .inl (apart _ different)
      · exact .inr (.inr (.inl ⟨request, next, started, rfl, rfl⟩))
  | @endDispose m k own next pending atM progress engaged ended =>
      rcases whose atM progress with different | ⟨rfl, rfl, rfl⟩
      · exact .inl (apart _ different)
      · exact .inr (.inr (.inr ⟨next, k, pending, rfl, engaged, ended, rfl⟩))
  | acquire acquired =>
      obtain rfl := Dispatcher.eq_of_acquire? acquired
      exact .inl (same rfl)
  | endWrite ended =>
      obtain ⟨cache, write, rfl⟩ := Dispatcher.exists_eq_of_endWrite? ended
      exact .inl (same rfl)
  | @call m k own after atM step =>
      by_cases here : m = n
      · subst here
        obtain rfl := Option.some.inj (atM.symm.trans found)
        exact .inl ⟨after.flow, Dispatcher.getElem?_setJob _ found⟩
      · exact .inl (apart _ here)
  | unregister _ unregistered =>
      obtain ⟨own, result, atM, progress, -, rfl⟩ :=
        Dispatcher.unregister?_eq_some_iff.mp unregistered
      exact .inl (elsewhere atM (by simp [progress]))
  | endDisposal _ atM progress => exact .inl (elsewhere atM (by simp [progress]))
  | record _ _ _ recorded =>
      obtain ⟨own, result, atM, progress, rfl⟩ := Dispatcher.record?_eq_some_iff.mp recorded
      exact .inl (elsewhere atM (by simp [progress]))
  | post _ _ _ posted =>
      obtain ⟨own, result, atM, progress, rfl⟩ := Dispatcher.post?_eq_some_iff.mp posted
      exact .inl (elsewhere atM (by simp [progress]))
  | deliver _ atReply next delivered =>
      simp only [Dispatcher.deliver?, atReply, next, Option.some.injEq] at delivered
      subst delivered
      exact .inl (same rfl)
  | closeLane | beginLaunch | beginDispose | pass | orphan | beginDisposal | closeLoop =>
      exact .inl (same rfl)

/-- A command that comes back from its launch has no timer yet. -/
theorem Answers.deadline_eq_none {request : AuthorizationRequest} {answer : Except Failure Unit}
    (answers : s.Answers n (.launched request answer) t)
    (found : t.dispatcher.jobs[n]? = some job) : job.deadline = none := by
  obtain ⟨_, own, own', program, after, step, atN, running, found', progress', answered⟩ :=
    answers.exists_program
  obtain rfl := Option.some.inj (found.symm.trans found')
  cases answered with
  | launch answer =>
      rcases step.running_cases atN running with
        ⟨flow, kept⟩ | ⟨elsewhere, -⟩ | ⟨request, next, started, -, same⟩ | ⟨_, _, _, other, -⟩
      · obtain rfl := Option.some.inj (kept.symm.trans found)
        exact absurd (Progress.running.inj (running.symm.trans progress'))
          (Program.Step.launch answer).ne
      · exact absurd trivial elsewhere
      · rw [same] at found
        cases started with
        | awaiting | refused failure =>
            obtain rfl := Option.some.inj ((Dispatcher.getElem?_setJob _ atN).symm.trans found)
            rfl
        | panicked message =>
            obtain rfl := Option.some.inj ((Dispatcher.getElem?_setJob _ atN).symm.trans found)
            cases progress'
      · cases other

/-- A command that waits for so many seconds at most has set its timer. -/
def IsTimed (s : System) (n : Nat) : Prop :=
  ∀ {job seconds next}, s.dispatcher.jobs[n]? = some job →
    job.progress = .running (.await (some seconds) next) → job.deadline ≠ none

/-- Time does not run back, and runs on only when the timer of a command is set. -/
def Paces (n : Nat) (s t : System) : Prop :=
  t.dispatcher.clock = s.dispatcher.clock ∨
    s.dispatcher.clock ≤ t.dispatcher.clock ∧ s.IsTimed n

theorem paces_of_still (still : t.dispatcher.clock = s.dispatcher.clock) : s.Paces n t :=
  .inl still

theorem isTimed_of_deadline (found : s.dispatcher.jobs[n]? = some job)
    (set : job.deadline ≠ none) : s.IsTimed n := by
  intro other _ _ atN _
  obtain rfl := Option.some.inj (found.symm.trans atN)
  exact set

/-- A command waits from some instant on, for so many seconds at most. -/
structure WaitsFrom (s : System) (n start seconds : Nat)
    (next : Option (Except Failure AuthorizationResult) → Program (Except Breakdown Acquisition)) :
    Prop where
  exists_job : ∃ job, s.dispatcher.jobs[n]? = some job ∧
    job.progress = .running (.await (some seconds) next) ∧
      (job.deadline = none ∧ s.dispatcher.clock = start ∨
        job.deadline = some (start + 1000 * seconds))

namespace WaitsFrom

variable
  {next : Option (Except Failure AuthorizationResult) → Program (Except Breakdown Acquisition)}

theorem exists_next (waits : s.WaitsFrom n start seconds next)
    (found : s.dispatcher.jobs[n]? = some job) :
    job.progress = .running (.await (some seconds) next) := by
  obtain ⟨own, atN, progress, -⟩ := waits
  obtain rfl := Option.some.inj (found.symm.trans atN)
  exact progress

/-- A wait that goes on is the same wait. -/
theorem step (waits : s.WaitsFrom n start seconds next) (step : Step s occurrences t)
    (paces : s.Paces n t) {job' : Job} (found' : t.dispatcher.jobs[n]? = some job')
    (same : job'.progress = .running (.await (some seconds) next)) :
    t.WaitsFrom n start seconds next := by
  obtain ⟨job, found, progress, due⟩ := waits
  -- An answer would have brought the command further.
  have resumed {answer : Option (Except Failure AuthorizationResult)}
      (goesOn : s.dispatcher.resume n job (next answer) = t.dispatcher) : False := by
    have atEnd := Dispatcher.getElem?_setJob
      { job with progress := .running (next answer), deadline := none } found
    rw [← goesOn] at found'
    obtain rfl := Option.some.inj (atEnd.symm.trans found')
    have onward : (Program.await (some seconds) next).Step (.awaited (some seconds) answer)
        (next answer) := .await answer
    exact onward.ne (Progress.running.inj same).symm
  rcases step.running_cases found progress with
    ⟨flow, kept⟩ | ⟨-, advanced⟩ | ⟨_, _, _, other, -⟩ | ⟨_, _, _, other, -⟩
  · refine ⟨_, kept, progress, ?_⟩
    rcases due with ⟨unset, instant⟩ | set
    · rcases paces with still | ⟨-, timed⟩
      · exact .inl ⟨unset, still.trans instant⟩
      · exact absurd unset (timed found progress)
    · exact .inr set
  · rcases (Dispatcher.advance?_await_eq_some_iff found progress).mp advanced with
      ⟨answer, -, goesOn⟩ | ⟨-, ⟨unset, timed⟩ | ⟨deadline, -, -, goesOn⟩⟩
    · cases resumed goesOn
    · rcases due with ⟨-, rfl⟩ | set
      · have atEnd := Dispatcher.getElem?_setJob
          { job with deadline := some (s.dispatcher.clock + 1000 * seconds) } found
        rw [timed] at atEnd
        exact ⟨_, atEnd, progress, .inr rfl⟩
      · cases unset.symm.trans set
    · cases resumed goesOn
  · cases other
  · cases other

/-- A command that waits and has nothing to do has not been answered, and its time is not over. -/
theorem of_advance? (waits : s.WaitsFrom n start seconds next)
    (idle : s.dispatcher.advance? n = none) :
    (s.dispatcher.flow n).answer = none ∧ s.dispatcher.clock < start + 1000 * seconds := by
  obtain ⟨job, found, progress, due⟩ := waits
  obtain ⟨unanswered, deadline, set, early⟩ :=
    (Dispatcher.advance?_await_eq_none_iff found progress).mp idle
  refine ⟨by rwa [Dispatcher.flow_eq found], ?_⟩
  rcases due with ⟨unset, -⟩ | same
  · cases unset.symm.trans set
  · obtain rfl := Option.some.inj (set.symm.trans same)
    exact early

/-- A command that waits is told what its flow says, and that it says nothing only when its time
is over. -/
theorem answers (waits : s.WaitsFrom n start seconds next) {dealing : Dealing}
    (answers : s.Answers n dealing t) :
    ∃ answer job', dealing = .awaited (some seconds) answer ∧
      (s.dispatcher.flow n).answer = answer ∧
      (answer = none → start + 1000 * seconds ≤ s.dispatcher.clock) ∧
      t.dispatcher.jobs[n]? = some job' ∧ job'.progress = .running (next answer) := by
  have gives := answers.gives
  obtain ⟨_, job, job', program, after, step, found, running, found', progress', answered⟩ :=
    answers.exists_program
  obtain ⟨own, atN, progress, due⟩ := waits
  obtain rfl := Option.some.inj (atN.symm.trans found)
  obtain rfl := Progress.running.inj (progress.symm.trans running)
  have further := answered.ne
  cases answered with
  | await answer =>
      refine ⟨answer, job', rfl, gives, ?_, found', progress'⟩
      rintro rfl
      -- The command has come further, so it has found its time to be over.
      have moved {changed : Job} (kept : t.dispatcher.jobs[n]? = some changed)
          (same : changed.progress = own.progress) : False := by
        obtain rfl := Option.some.inj (kept.symm.trans found')
        exact further (Progress.running.inj ((same.trans progress).symm.trans progress'))
      rcases step.running_cases found progress with
        ⟨flow, kept⟩ | ⟨-, advanced⟩ | ⟨_, _, _, other, -⟩ | ⟨_, _, _, other, -⟩
      · cases moved kept rfl
      · rcases (Dispatcher.advance?_await_eq_some_iff found progress).mp advanced with
          ⟨answer, told, -⟩ | ⟨-, ⟨-, timed⟩ | ⟨deadline, set, expired, -⟩⟩
        · have silent : own.flow.answer = none := by rwa [← Dispatcher.flow_eq found]
          cases told.symm.trans silent
        · have atEnd := Dispatcher.getElem?_setJob
            { own with deadline := some (s.dispatcher.clock + 1000 * seconds) } found
          rw [timed] at atEnd
          cases moved atEnd rfl
        · rcases due with ⟨unset, -⟩ | same
          · cases unset.symm.trans set
          · obtain rfl := Option.some.inj (set.symm.trans same)
            exact expired
      · cases other
      · cases other

end WaitsFrom

end System

/-- A run in which time keeps to the timer of a command, with what the command dealt with. -/
def Paced (n : Nat) : System → List Dealing → System → Prop :=
  DealsUnder (System.Paces n) n

/-- While a command has not been answered, it waits as it did. -/
theorem Paced.waitsFrom {s t : System} {n start seconds : Nat}
    {next : Option (Except Failure AuthorizationResult) → Program (Except Breakdown Acquisition)}
    (paced : Paced n s [] t) (waits : s.WaitsFrom n start seconds next) :
    t.WaitsFrom n start seconds next := by
  generalize nothing : [] = dealings at paced
  induction paced with
  | start => exact waits
  | @step dealings middle _ last job job' dealt _ step paces found found' own inductionHypothesis =>
      obtain ⟨rfl, unanswered⟩ := List.append_eq_nil_iff.mp nothing.symm
      obtain rfl := Option.toList_eq_nil_iff.mp unanswered
      have waits := inductionHypothesis rfl
      refine waits.step step paces found' ?_
      rw [waits.exists_next found] at own
      generalize job'.progress = progress at own
      cases own
      rfl

end TokenAcquisition.Dispatch
