import TokenAcquisition.Proofs.Dispatch.Work
import TokenAcquisition.Proofs.Flow.Ownership
import TokenAcquisition.Proofs.Program.Keeping

/-!
The threads that commands are worked for on.  Nothing hands the work of a command its correlation
id: it reads what is bound on the thread that it runs on.  A scope binds an id on its thread and
gives back at its end what it found; each thread may be in any scopes, those of commands and of
anyone else, nested in any order.

`Threaded.Step` is one step of a dispatcher among such threads.  Whoever takes a step for a command
is in a scope of the command, and takes it under the id that it finds there.  Scopes being what
they are, this is always the id of the command; so a run among threads is a run of the dispatcher
by itself, `System.Acts`, in which commands know their ids.
-/

namespace TokenAcquisition

namespace Dispatch

/-- What is to be seen of a step, and of what a command was answered in it. -/
inductive Sight where
  /-- A command was submitted, and an id generated for it. -/
  | submitted (n : Nat) (id : Uuid)
  /-- A command was handed a failure by others: whoever chooses or launches agents, the network. -/
  | handed (n : Nat) (failure : Failure)
  | dealt (n : Nat) (dealing : Dealing)
  | occurred (occurrence : Occurrence)

def Sight.occurrence? : Sight → Option Occurrence
  | .occurred occurrence => some occurrence
  | _ => none

theorem Sight.occurrence?_eq_some_iff {sight : Sight} {occurrence : Occurrence} :
    sight.occurrence? = some occurrence ↔ sight = .occurred occurrence := by
  cases sight <;> simp [occurrence?]

/-- The program that a command has still to run. -/
def Progress.program? : Progress → Option (Program (Except Breakdown Acquisition))
  | .opening _ program => some program
  | .running program => some program
  | .refused _ => none
  | .closing _ _ => none

/-- The command that is told something of. -/
def Sight.about? : Sight → Option Nat
  | .submitted n _ => some n
  | .handed n _ => some n
  | .dealt n _ => some n
  | .occurred _ => none

/-- The lane that takes a command. -/
def laneOf : Command → Lane
  | .interactive _ => .interactive
  | .silent _ => .silent

namespace System

/-- A step has nothing to do with the work of a command: the work does not go on, no request on
the flow begins or goes on, and no outcome is posted. -/
structure Spares (s : System) (n : Nat) (occurrences : List Occurrence) (t : System) : Prop where
  work : ∀ {job program}, s.dispatcher.jobs[n]? = some job → job.progress = .running program →
    ∃ job', t.dispatcher.jobs[n]? = some job' ∧ job'.progress = .running program
  requests : ∀ {k : Nat} {call : Flow.Call}, call.IsRequest →
    ((t.uses n).calls[k]? = some call ↔ (s.uses n).calls[k]? = some call)
  unposted : ∀ {reply outcome}, .reached n (.posted reply outcome) ∉ occurrences

/-- What a command was handed in a step. -/
def handed (s : System) (n : Nat) (dealt : Option Dealing) (t : System) : List Failure :=
  Flow.Shared.handed (s.uses n).calls (t.uses n).calls ++
    (dealt.bind Dealing.handed?).toList

/-- What is to be seen of a step that is taken for a command. -/
def sights (s : System) (n : Nat) (dealt : Option Dealing) (occurrences : List Occurrence)
    (t : System) : List Sight :=
  (s.handed n dealt t).map (.handed n) ++ dealt.toList.map (.dealt n) ++
    occurrences.map .occurred

/-- A step that is taken for a command. -/
inductive Tends (s : System) (n : Nat) : List Sight → System → Prop where
  | mk {occurrences t job job' dealt} :
      Step s occurrences t → t.dispatcher.jobs.length = s.dispatcher.jobs.length →
      s.dispatcher.jobs[n]? = some job → t.dispatcher.jobs[n]? = some job' →
      job.progress.Step s n dealt job'.progress →
      (∀ m ≠ n, s.Spares m occurrences t) →
      -- A request is begun by the work only.
      (∀ {k call}, call.IsRequest → (s.uses n).calls[k]? = none →
        (t.uses n).calls[k]? = some call → (t.uses n).workCall = some k) →
      Tends s n (s.sights n dealt occurrences t) t

/-- A step that is taken for no command: by a lane, whoever completes a flow, the owner of a reply
loop, the file system. -/
inductive Idles (s : System) : List Sight → System → Prop where
  | mk {occurrences t} :
      Step s occurrences t → t.dispatcher.jobs.length = s.dispatcher.jobs.length →
      (∀ n, s.Spares n occurrences t) → Idles s (occurrences.map .occurred) t

/-- One step of a dispatcher that is handed commands. -/
inductive Act (op : Operation) (s : System) : List Sight → System → Prop where
  | submit (command : Command) (id : Uuid) (reply : Nat) :
      Act op s [.submitted s.dispatcher.jobs.length id]
        (s.submitted (laneOf command) id.render reply (command.program op (some id.render)))
  | tend {n sights t} : s.Tends n sights t → Act op s sights t
  | idle {sights t} : s.Idles sights t → Act op s sights t

inductive Acts (op : Operation) (s : System) : List Sight → System → Prop where
  | refl : Acts op s [] s
  | step {sights t more u} : Acts op s sights t → t.Act op more u → Acts op s (sights ++ more) u

/-- The correlation id of a command. -/
def idOf (s : System) (n : Nat) : Option String :=
  s.dispatcher.jobs[n]?.map Job.correlationId

/-- Puts something else in the place of a command. -/
def withJob (s : System) (n : Nat) (job : Job) : System :=
  { s with dispatcher := s.dispatcher.setJob n job }

variable {s t : System} {n : Nat} {job : Job} {occurrences : List Occurrence} {sights : List Sight}
  {id : String} {op : Operation}

theorem withJob_eq_self (found : s.dispatcher.jobs[n]? = some job) : s.withJob n job = s := by
  simp [withJob, Dispatcher.setJob, Lists.set_eq_self found]

theorem idOf_eq_some_iff : s.idOf n = some id ↔
    ∃ job, s.dispatcher.jobs[n]? = some job ∧ job.correlationId = id := by
  simp [idOf]

/-- A command keeps its id. -/
theorem Step.idOf (step : Step s occurrences t) (own : s.idOf n = some id) :
    t.idOf n = some id := by
  obtain ⟨job, found, rfl⟩ := idOf_eq_some_iff.mp own
  obtain ⟨job', _, found', same, -⟩ := step.exists_progress found
  exact idOf_eq_some_iff.mpr ⟨job', found', same⟩

/-- What was there before a command was submitted, and the command. -/
theorem submitted_cases {lane : Lane} {reply : Nat}
    {program : Program (Except Breakdown Acquisition)}
    (found : (s.submitted lane id reply program).dispatcher.jobs[n]? = some job) :
    s.dispatcher.jobs[n]? = some job ∧ n ≠ s.dispatcher.jobs.length ∨
      n = s.dispatcher.jobs.length ∧ job.correlationId = id ∧
        (job.progress = .refused false ∨ job.progress = .opening .queued program) := by
  simp only [submitted, Dispatcher.enqueue, List.getElem?_append] at found
  split at found
  next inside => exact .inl ⟨found, Nat.ne_of_lt inside⟩
  next outside =>
    rw [List.getElem?_singleton, Option.ite_none_right_eq_some] at found
    obtain ⟨here, same⟩ := found
    obtain rfl := Option.some.inj same
    refine .inr ⟨by omega, rfl, ?_⟩
    dsimp only
    split
    · exact .inl rfl
    · exact .inr rfl

theorem mem_sights {dealt : Option Dealing} {sight : Sight} :
    sight ∈ s.sights n dealt occurrences t ↔
      (∃ failure ∈ s.handed n dealt t, .handed n failure = sight) ∨
        (∃ dealing, dealt = some dealing ∧ .dealt n dealing = sight) ∨
          ∃ occurrence ∈ occurrences, .occurred occurrence = sight := by
  simp [sights]

/-- A step that is taken for a command tells of no other one. -/
theorem eq_of_mem_sights {dealt : Option Dealing} {sight : Sight} {m : Nat}
    (member : sight ∈ s.sights n dealt occurrences t) (about : sight.about? = some m) : n = m := by
  rcases mem_sights.mp member with ⟨_, -, rfl⟩ | ⟨_, -, rfl⟩ | ⟨_, -, rfl⟩
  · exact Option.some.inj about
  · exact Option.some.inj about
  · cases about

theorem occurrences_map (occurrences : List Occurrence) :
    (occurrences.map Sight.occurred).filterMap Sight.occurrence? = occurrences := by
  rw [List.filterMap_map]
  exact List.filterMap_some

theorem occurrences_sights (s : System) (n : Nat) (dealt : Option Dealing)
    (occurrences : List Occurrence) (t : System) :
    (s.sights n dealt occurrences t).filterMap Sight.occurrence? = occurrences := by
  have handed (failures : List Failure) :
      (failures.map (Sight.handed n)).filterMap Sight.occurrence? = [] := by
    simp [Sight.occurrence?]
  have answered (dealings : List Dealing) :
      (dealings.map (Sight.dealt n)).filterMap Sight.occurrence? = [] := by
    simp [Sight.occurrence?]
  simp only [sights, List.filterMap_append, handed, answered, occurrences_map, List.nil_append]

theorem Act.exists_step (act : s.Act op sights t) :
    Step s (sights.filterMap Sight.occurrence?) t := by
  cases act with
  | submit command id reply => exact .submit (laneOf command) id.render reply _
  | tend tends =>
      obtain ⟨step⟩ := tends
      rwa [occurrences_sights]
  | idle idles =>
      obtain ⟨step⟩ := idles
      rwa [occurrences_map]

theorem Acts.run (acts : s.Acts op sights t) :
    s.Run (sights.filterMap Sight.occurrence?) t := by
  induction acts with
  | refl => exact .refl
  | step _ last inductionHypothesis =>
      rw [List.filterMap_append]
      exact inductionHypothesis.step last.exists_step

/-- The work of a command that a step spares does not go on. -/
theorem Spares.running {job' : Job} {program : Program (Except Breakdown Acquisition)}
    (spares : s.Spares n occurrences t) (found : s.dispatcher.jobs[n]? = some job)
    (found' : t.dispatcher.jobs[n]? = some job') (running : job.progress = .running program) :
    job'.progress = .running program := by
  obtain ⟨same, atSame, kept⟩ := spares.work found running
  obtain rfl := Option.some.inj (atSame.symm.trans found')
  exact kept

/-- A command that a step spares gets no answer in it. -/
theorem Spares.dealt_eq_none {job' : Job} {dealt : Option Dealing}
    (spares : s.Spares n occurrences t) (found : s.dispatcher.jobs[n]? = some job)
    (found' : t.dispatcher.jobs[n]? = some job')
    (further : job.progress.Step s n dealt job'.progress) : dealt = none := by
  have runs {program : Program (Except Breakdown Acquisition)}
      (running : job.progress = .running program) := spares.running found found' running
  generalize job.progress = progress at further runs
  generalize job'.progress = progress' at further runs
  cases further with
  | deal answered => exact absurd (Progress.running.inj (runs rfl)).symm answered.ne
  | _ => rfl

/-- A command that a step spares has still to run just what it had before. -/
theorem Spares.program?_eq {job' : Job} (spares : s.Spares n occurrences t)
    (step : Step s occurrences t) (found : s.dispatcher.jobs[n]? = some job)
    (found' : t.dispatcher.jobs[n]? = some job') :
    job'.progress.program? = job.progress.program? := by
  obtain ⟨other, dealt, atN, -, further⟩ := step.exists_progress found
  obtain rfl := Option.some.inj (atN.symm.trans found')
  have runs {program : Program (Except Breakdown Acquisition)}
      (running : job.progress = .running program) := spares.running found found' running
  generalize before : job.progress = progress at further runs
  generalize after : other.progress = progress' at further runs
  cases further with
  | deal | finish | panic => rw [runs rfl]
  | stay | tell | turn | start | close => rfl

theorem Spares.of_same (jobs : t.dispatcher.jobs[n]? = s.dispatcher.jobs[n]?)
    (calls : (t.uses n).calls = (s.uses n).calls)
    (unposted : ∀ {reply outcome}, .reached n (.posted reply outcome) ∉ occurrences) :
    s.Spares n occurrences t where
  work found running := ⟨_, jobs.trans found, running⟩
  requests _ := by rw [calls]
  unposted := unposted

/-- All that happens in a step happens to one command. -/
theorem spares_of_ne {m : Nat} {changed : Job}
    (jobs : t.dispatcher.jobs = s.dispatcher.jobs.set m changed)
    (uses : ∀ n ≠ m, t.uses n = s.uses n)
    (own : ∀ n milestone, .reached n milestone ∈ occurrences → n = m) :
    ∀ n ≠ m, s.Spares n occurrences t := by
  intro n other
  refine .of_same ?_ (congrArg Use.calls (uses n other)) fun posted => other (own _ _ posted)
  rw [jobs, List.getElem?_set_ne other.symm]

/-- Whatever step is taken that submits nothing, it is taken for one command or for none. -/
theorem Step.confined (step : Step s occurrences t)
    (same : t.dispatcher.jobs.length = s.dispatcher.jobs.length) :
    (∃ m job, s.dispatcher.jobs[m]? = some job ∧ ∀ n ≠ m, s.Spares n occurrences t) ∨
      ∀ n, s.Spares n occurrences t := by
  have reached {m : Nat} {milestone : Milestone} (n : Nat) (other : Milestone)
      (member : .reached n other ∈ [Occurrence.reached m milestone]) : n = m := by
    cases List.mem_singleton.mp member
    rfl
  have nothing {m : Nat} (n : Nat) (other : Milestone)
      (member : .reached n other ∈ ([] : List Occurrence)) : n = m := by
    cases member
  have moves {m : Nat} {own changed : Job} (found : s.dispatcher.jobs[m]? = some own)
      (jobs : t.dispatcher.jobs = s.dispatcher.jobs.set m changed)
      (uses : ∀ n ≠ m, t.uses n = s.uses n)
      (only : ∀ n milestone, .reached n milestone ∈ occurrences → n = m) :
      (∃ m job, s.dispatcher.jobs[m]? = some job ∧ ∀ n ≠ m, s.Spares n occurrences t) ∨
        ∀ n, s.Spares n occurrences t :=
    .inl ⟨m, own, found, spares_of_ne jobs uses only⟩
  cases step with
  | submit => simp [Dispatcher.enqueue] at same
  | tell _ told =>
      obtain ⟨own, found, -, rfl⟩ := Dispatcher.tell?_eq_some_iff.mp told
      exact moves found rfl (fun _ _ => rfl) reached
  | receive _ received turned =>
      obtain ⟨-, m, own, program, -, found, -, rfl⟩ := Dispatcher.receive?_eq_some_iff.mp received
      cases turned
      exact moves found rfl (fun _ _ => rfl) reached
  | register _ registered =>
      obtain ⟨own, program, found, -, rfl⟩ := Dispatcher.register?_eq_some_iff.mp registered
      exact moves found rfl (fun _ _ => rfl) reached
  | spawn _ spawned =>
      obtain ⟨own, program, found, -, rfl⟩ := Dispatcher.spawn?_eq_some_iff.mp spawned
      exact moves found rfl (fun _ _ => rfl) reached
  | startSilent started =>
      obtain ⟨own, program, found, -, -, rfl⟩ := Dispatcher.startSilent?_eq_some_iff.mp started
      exact moves found rfl (fun _ _ => rfl) reached
  | work found progress isLocal advanced =>
      obtain ⟨own, changed, -, atM, jobs, -⟩ := furthers_advance? found progress isLocal advanced
      exact moves atM jobs (fun _ _ => rfl) nothing
  | finish found progress advanced =>
      simp only [Dispatcher.advance?, found, progress, Option.some.injEq] at advanced
      subst advanced
      exact moves found rfl (fun _ _ => rfl) reached
  | beginLaunch found =>
      exact moves found (Lists.set_eq_self found).symm
        (fun _ other => Function.update_of_ne other ..) nothing
  | @endLaunch _ _ _ _ _ _ started found progress engaged called returned =>
      obtain ⟨own, changed, -, atM, jobs, -⟩ :=
        furthers_afterLaunch found progress engaged called returned
      refine moves atM jobs (fun _ other => Function.update_of_ne other ..) ?_
      cases started with
      | panicked message => exact reached
      | awaiting | refused failure => exact nothing
  | beginDispose found =>
      exact moves found (Lists.set_eq_self found).symm
        (fun _ other => Function.update_of_ne other ..) nothing
  | endDispose found =>
      exact moves found rfl (fun _ other => Function.update_of_ne other ..) nothing
  | acquire acquired =>
      obtain rfl := Dispatcher.eq_of_acquire? acquired
      exact .inr fun n => .of_same rfl rfl List.not_mem_nil
  | endWrite ended =>
      obtain ⟨cache, write, rfl⟩ := Dispatcher.exists_eq_of_endWrite? ended
      exact .inr fun n => .of_same rfl rfl List.not_mem_nil
  | call found =>
      exact moves found rfl (fun _ other => Function.update_of_ne other ..) nothing
  | unregister _ unregistered =>
      obtain ⟨own, result, found, -, -, rfl⟩ :=
        Dispatcher.unregister?_eq_some_iff.mp unregistered
      exact moves found rfl (fun _ _ => rfl) reached
  | beginDisposal _ found =>
      exact moves found (Lists.set_eq_self found).symm
        (fun _ other => Function.update_of_ne other ..) nothing
  | endDisposal _ found =>
      exact moves found rfl (fun _ other => Function.update_of_ne other ..) reached
  | record _ _ _ recorded =>
      obtain ⟨own, result, found, -, rfl⟩ := Dispatcher.record?_eq_some_iff.mp recorded
      exact moves found rfl (fun _ _ => rfl) reached
  | post _ _ _ posted =>
      obtain ⟨own, result, found, -, rfl⟩ := Dispatcher.post?_eq_some_iff.mp posted
      exact moves found rfl (fun _ _ => rfl) reached
  | deliver _ atReply next delivered =>
      simp only [Dispatcher.deliver?, atReply, next, Option.some.injEq] at delivered
      subst delivered
      exact .inr fun n => .of_same rfl rfl (by simp)
  | closeLane | pass | orphan | closeLoop => exact .inr fun n => .of_same rfl rfl List.not_mem_nil

/-- A step that submits nothing and begins no request but for the work is an act.  What a command
is answered in it is to be seen. -/
theorem Step.exists_act {job' : Job} {dealt : Option Dealing} (step : Step s occurrences t)
    (op : Operation) (same : t.dispatcher.jobs.length = s.dispatcher.jobs.length)
    (begun : ∀ {m k call}, call.IsRequest → (s.uses m).calls[k]? = none →
      (t.uses m).calls[k]? = some call → (t.uses m).workCall = some k)
    (found : s.dispatcher.jobs[n]? = some job) (found' : t.dispatcher.jobs[n]? = some job')
    (further : job.progress.Step s n dealt job'.progress) :
    ∃ sights, s.Act op sights t ∧ ∀ dealing, dealt = some dealing → .dealt n dealing ∈ sights := by
  rcases step.confined same with ⟨m, own, atM, spares⟩ | spares
  · by_cases here : n = m
    · subst here
      refine ⟨_, .tend (.mk step same found found' further spares begun), ?_⟩
      exact fun dealing answered => mem_sights.mpr (.inr (.inl ⟨dealing, answered, rfl⟩))
    · obtain ⟨own', _, atM', -, itself⟩ := step.exists_progress atM
      refine ⟨_, .tend (.mk step same atM atM' itself spares begun), fun _ answered => ?_⟩
      cases (spares n here).dealt_eq_none found found' further ▸ answered
  · refine ⟨_, .idle (.mk step same spares), fun _ answered => ?_⟩
    cases (spares n).dealt_eq_none found found' further ▸ answered

end System

/-! ### Threads -/

/-- A scope that a thread is in: the command that it is for, if it is for one, and what was bound
outside of it. -/
structure Scope where
  owner : Option Nat
  outer : Option String

/-- What is bound on a thread, and the scopes that it is in, the innermost first. -/
structure Thread where
  bound : Option String := none
  scopes : List Scope := []

namespace Thread

def enter (thread : Thread) (owner : Option Nat) (id : String) : Thread :=
  { bound := some id, scopes := { owner, outer := thread.bound } :: thread.scopes }

def leave (thread : Thread) : Thread :=
  match thread.scopes with
  | [] => thread
  | scope :: outer => { bound := scope.outer, scopes := outer }

@[simp]
theorem leave_enter (thread : Thread) (owner : Option Nat) (id : String) :
    (thread.enter owner id).leave = thread := rfl

/-- The command that the thread is at work for. -/
def owner? (thread : Thread) : Option Nat :=
  thread.scopes.head?.bind Scope.owner

/-- What is bound on a thread on its way into scopes nested in one another and on its way out, and
the thread after that. -/
def nest (thread : Thread) : List String → List (Option String) × Thread
  | [] => ([thread.bound], thread)
  | id :: inner =>
      let inside := (thread.enter none id).nest inner
      (thread.bound :: inside.1 ++ [inside.2.leave.bound], inside.2.leave)

theorem nest_eq (thread : Thread) (ids : List String) :
    thread.nest ids = (Correlation.seen thread.bound ids, thread) := by
  induction ids generalizing thread with
  | nil => rfl
  | cons id inner inductionHypothesis =>
      rw [nest, inductionHypothesis]
      rfl

/-- In each scope of a command its id is bound, also in those that the thread will come back to. -/
def SoundIn (ids : Nat → Option String) : Option String → List Scope → Prop
  | _, [] => True
  | bound, scope :: outer =>
      (∀ n, scope.owner = some n → ∃ id, bound = some id ∧ ids n = some id) ∧
        SoundIn ids scope.outer outer

def Sound (ids : Nat → Option String) (thread : Thread) : Prop :=
  SoundIn ids thread.bound thread.scopes

variable {ids ids' : Nat → Option String} {thread : Thread} {n : Nat} {id : String}

theorem SoundIn.mono {bound : Option String} {scopes : List Scope}
    (sound : SoundIn ids bound scopes) (more : ∀ {n id}, ids n = some id → ids' n = some id) :
    SoundIn ids' bound scopes := by
  induction scopes generalizing bound with
  | nil => exact trivial
  | cons scope outer inductionHypothesis =>
      refine ⟨fun n own => ?_, inductionHypothesis sound.2⟩
      obtain ⟨id, here, named⟩ := sound.1 n own
      exact ⟨id, here, more named⟩

/-- A thread that is in no scope of a command. -/
theorem SoundIn.of_foreign {bound : Option String} {scopes : List Scope}
    (foreign : ∀ scope ∈ scopes, scope.owner = none) : SoundIn ids bound scopes := by
  induction scopes generalizing bound with
  | nil => exact trivial
  | cons scope outer inductionHypothesis =>
      obtain ⟨first, rest⟩ := List.forall_mem_cons.mp foreign
      refine ⟨fun n own => ?_, inductionHypothesis rest⟩
      cases first.symm.trans own

theorem Sound.enter_none (sound : thread.Sound ids) (id : String) :
    (thread.enter none id).Sound ids :=
  ⟨nofun, sound⟩

theorem Sound.enter (sound : thread.Sound ids) (named : ids n = some id) :
    (thread.enter (some n) id).Sound ids := by
  refine ⟨?_, sound⟩
  rintro _ ⟨⟩
  exact ⟨id, rfl, named⟩

theorem Sound.leave (sound : thread.Sound ids) : thread.leave.Sound ids := by
  obtain ⟨bound, _ | ⟨scope, outer⟩⟩ := thread
  · exact sound
  · exact sound.2

/-- Whoever is at work for a command finds its id. -/
theorem Sound.bound_eq (sound : thread.Sound ids) (own : thread.owner? = some n) :
    ∃ id, thread.bound = some id ∧ ids n = some id := by
  obtain ⟨bound, _ | ⟨scope, outer⟩⟩ := thread
  · cases own
  · exact sound.1 n own

end Thread

/-! ### A dispatcher among threads -/

/-- A dispatcher whose commands are worked for on threads.  What a command has still to do is
known only up to the id that it will find. -/
structure Threaded where
  system : System
  work : Nat → String → Program (Except Breakdown Acquisition)
  threads : Nat → Thread

/-- A command that has just so much to do. -/
def Progress.withProgram (program : Program (Except Breakdown Acquisition)) : Progress → Progress
  | .opening stage _ => .opening stage program
  | .running _ => .running program
  | progress => progress

theorem Progress.withProgram_eq_self {progress : Progress}
    {program : Program (Except Breakdown Acquisition)}
    (own : ∀ other, progress.program? = some other → program = other) :
    progress.withProgram program = progress := by
  cases progress with
  | «opening» stage other => rw [withProgram, own other rfl]
  | running other => rw [withProgram, own other rfl]
  | refused => rfl
  | closing => rfl

/-- A command as it is under an id that is bound where it is worked for. -/
def Job.under (job : Job) (id : String) (program : Program (Except Breakdown Acquisition)) : Job :=
  { job with correlationId := id, progress := job.progress.withProgram program }

namespace Threaded

def onThread (t : Threaded) (k : Nat) (f : Thread → Thread) : Threaded :=
  { t with threads := Function.update t.threads k (f (t.threads k)) }

/-- One step of anyone. -/
inductive Step (op : Operation) (t : Threaded) : List Sight → Threaded → Prop where
  | submit (command : Command) (id : Uuid) (reply : Nat) :
      Step op t [.submitted t.system.dispatcher.jobs.length id]
        { t with
          system := t.system.submitted (laneOf command) id.render reply
            (command.program op (some id.render))
          work := Function.update t.work t.system.dispatcher.jobs.length fun bound =>
            command.program op (some bound) }
  /-- A thread goes into a scope that is for no command: that of a completion or of an
  application. -/
  | enter (k : Nat) (id : String) : Step op t [] (t.onThread k fun thread => thread.enter none id)
  /-- A thread goes into the scope of a command. -/
  | attend (k : Nat) {n job} :
      t.system.dispatcher.jobs[n]? = some job →
      Step op t [] (t.onThread k fun thread => thread.enter (some n) job.correlationId)
  | leave (k : Nat) : Step op t [] (t.onThread k Thread.leave)
  /-- A thread takes a step for a command, under the id that it finds.  What the command would have
  done under other ids is left open. -/
  | tend {k n id job sights u job' next} :
      (t.threads k).owner? = some n → (t.threads k).bound = some id →
      t.system.dispatcher.jobs[n]? = some job →
      (t.system.withJob n (job.under id (t.work n id))).Tends n sights u →
      u.dispatcher.jobs[n]? = some job' →
      (∀ program, job'.progress.program? = some program → next id = program) →
      Step op t sights
        { t with
          system := u.withJob n { job' with correlationId := job.correlationId }
          work := Function.update t.work n next }
  /-- Someone takes a step for no command, in whichever scope. -/
  | idle {sights u} : t.system.Idles sights u → Step op t sights { t with system := u }

inductive Run (op : Operation) (t : Threaded) : List Sight → Threaded → Prop where
  | refl : Run op t [] t
  | step {sights u more v} : Run op t sights u → Step op u more v → Run op t (sights ++ more) v

/-- Threads find the ids of the commands that they work for, and what commands have still to do is
what they do under their ids. -/
structure Sound (t : Threaded) : Prop where
  threads : ∀ k, (t.threads k).Sound t.system.idOf
  work : ∀ {n job program}, t.system.dispatcher.jobs[n]? = some job →
    job.progress.program? = some program → t.work n job.correlationId = program

/-- Nothing has been submitted yet, and nobody works for a command or writes the cache.  Threads
may be in scopes of others. -/
structure IsFresh (t : Threaded) : Prop where
  system : t.system.IsFresh
  write : t.system.dispatcher.write = .none
  threads : ∀ k, ∀ scope ∈ (t.threads k).scopes, scope.owner = none

variable {op : Operation} {t u : Threaded} {sights : List Sight}

theorem IsFresh.sound (fresh : t.IsFresh) : t.Sound := by
  constructor
  · exact fun k => .of_foreign (fresh.threads k)
  · intro n job program found
    simp [fresh.system.jobs] at found

namespace Sound

/-- Whatever a thread does about scopes. -/
theorem onThread (sound : t.Sound) (k : Nat) {f : Thread → Thread}
    (own : (f (t.threads k)).Sound t.system.idOf) : (t.onThread k f).Sound := by
  refine ⟨fun j => ?_, sound.work⟩
  by_cases here : j = k
  · subst here
    simpa [Threaded.onThread] using own
  · simpa [Threaded.onThread, here] using sound.threads j

/-- A command is worked for under its own id. -/
theorem under_eq_self (sound : t.Sound) {k n : Nat} {id : String} {job : Job}
    (own : (t.threads k).owner? = some n) (bound : (t.threads k).bound = some id)
    (found : t.system.dispatcher.jobs[n]? = some job) :
    id = job.correlationId ∧ job.under id (t.work n id) = job := by
  obtain ⟨other, here, named⟩ := (sound.threads k).bound_eq own
  obtain rfl : id = other := Option.some.inj (bound.symm.trans here)
  obtain ⟨job', found', rfl⟩ := System.idOf_eq_some_iff.mp named
  obtain rfl : job = job' := Option.some.inj (found.symm.trans found')
  refine ⟨rfl, ?_⟩
  rw [Job.under, Progress.withProgram_eq_self fun other left => sound.work found left]

theorem threads_of_step (sound : t.Sound) {s : System} {occurrences : List Occurrence}
    (step : System.Step t.system occurrences s) (k : Nat) : (t.threads k).Sound s.idOf :=
  (sound.threads k).mono step.idOf

/-- What a command has still to do stays what it does under its id while it is spared. -/
theorem work_of_spares (sound : t.Sound) {s : System} {occurrences : List Occurrence} {n : Nat}
    {job' : Job} {program : Program (Except Breakdown Acquisition)}
    (step : System.Step t.system occurrences s)
    (same : s.dispatcher.jobs.length = t.system.dispatcher.jobs.length)
    (spares : t.system.Spares n occurrences s) (found' : s.dispatcher.jobs[n]? = some job')
    (left : job'.progress.program? = some program) : t.work n job'.correlationId = program := by
  have inside := (List.getElem?_eq_some_iff.mp found').1
  rw [same] at inside
  have found := List.getElem?_eq_getElem inside
  obtain ⟨other, _, atN, named, -⟩ := step.exists_progress found
  obtain rfl := Option.some.inj (atN.symm.trans found')
  rw [named]
  exact sound.work found (spares.program?_eq step found found' ▸ left)

theorem submit (sound : t.Sound) (command : Command) (id : Uuid) (reply : Nat) :
    Sound
      { t with
        system := t.system.submitted (laneOf command) id.render reply
          (command.program op (some id.render))
        work := Function.update t.work t.system.dispatcher.jobs.length fun bound =>
          command.program op (some bound) } := by
  refine ⟨sound.threads_of_step (.submit ..), fun {n job program} found left => ?_⟩
  dsimp only
  rcases System.submitted_cases found with ⟨old, other⟩ | ⟨rfl, named, refused | queued⟩
  · rw [Function.update_of_ne other]
    exact sound.work old left
  · rw [refused] at left
    cases left
  · rw [queued] at left
    rw [Function.update_self, named]
    exact Option.some.inj left

end Sound

/-- Among threads, a step of a dispatcher is one that it takes by itself. -/
theorem Step.erases (step : Step op t sights u) (sound : t.Sound) :
    u.Sound ∧ (sights = [] ∧ u.system = t.system ∨ t.system.Act op sights u.system) := by
  cases step with
  | submit command id reply =>
      exact ⟨sound.submit command id reply, .inr (.submit command id reply)⟩
  | enter k id =>
      exact ⟨sound.onThread k ((sound.threads k).enter_none id), .inl ⟨rfl, rfl⟩⟩
  | attend k found =>
      have named := System.idOf_eq_some_iff.mpr ⟨_, found, rfl⟩
      exact ⟨sound.onThread k ((sound.threads k).enter named), .inl ⟨rfl, rfl⟩⟩
  | leave k => exact ⟨sound.onThread k (sound.threads k).leave, .inl ⟨rfl, rfl⟩⟩
  | @tend k n id job sights after job' next own bound found tends found' continues =>
      obtain ⟨rfl, same⟩ := sound.under_eq_self own bound found
      rw [same, System.withJob_eq_self found] at tends
      have act : t.system.Act op sights after := .tend tends
      obtain @⟨_, _, _, _, _, step, length, atN, atN', _, spares, _⟩ := tends
      obtain rfl := Option.some.inj (atN.symm.trans found)
      obtain rfl := Option.some.inj (atN'.symm.trans found')
      obtain ⟨other, _, atOther, named, -⟩ := step.exists_progress found
      obtain rfl := Option.some.inj (atOther.symm.trans found')
      -- The command has its own id already.
      rw [← named, System.withJob_eq_self found']
      refine ⟨⟨sound.threads_of_step step, fun {m job program} atM left => ?_⟩, .inr act⟩
      dsimp only
      by_cases here : m = n
      · subst here
        obtain rfl := Option.some.inj (atM.symm.trans found')
        rw [Function.update_self, named]
        exact continues program left
      · rw [Function.update_of_ne here]
        exact sound.work_of_spares step length (spares m here) atM left
  | idle idles =>
      refine ⟨?_, .inr (.idle idles)⟩
      obtain ⟨step, length, spares⟩ := idles
      exact ⟨sound.threads_of_step step,
        fun {m _ _} atM left => sound.work_of_spares step length (spares m) atM left⟩

/-- A run among threads is a run of the dispatcher by itself. -/
theorem Run.erases (run : Run op t sights u) (sound : t.Sound) :
    u.Sound ∧ t.system.Acts op sights u.system := by
  induction run with
  | refl => exact ⟨sound, .refl⟩
  | step _ last inductionHypothesis =>
      obtain ⟨middle, acts⟩ := inductionHypothesis
      obtain ⟨after, ⟨rfl, same⟩ | act⟩ := last.erases middle
      · rw [List.append_nil, same]
        exact ⟨after, acts⟩
      · exact ⟨after, acts.step act⟩

/-- A thread that is at work for a command may take any step for it. -/
theorem Run.exists_tended (run : Run op t sights u) (sound : t.Sound) {k n : Nat} {s : System}
    {more : List Sight} (own : (u.threads k).owner? = some n)
    (tends : u.system.Tends n more s) :
    ∃ v, Run op t (sights ++ more) v ∧ v.system = s ∧ v.threads = u.threads := by
  obtain ⟨middle, -⟩ := run.erases sound
  obtain ⟨id, bound, named⟩ := (middle.threads k).bound_eq own
  obtain ⟨job, found, -⟩ := System.idOf_eq_some_iff.mp named
  obtain ⟨rfl, same⟩ := middle.under_eq_self own bound found
  obtain ⟨job', found', kept⟩ : ∃ job', s.dispatcher.jobs[n]? = some job' ∧
      job'.correlationId = job.correlationId := by
    obtain ⟨step⟩ := tends
    obtain ⟨job', -, found', kept, -⟩ := step.exists_progress found
    exact ⟨job', found', kept⟩
  rw [← System.withJob_eq_self found, ← same] at tends
  obtain ⟨next, continues⟩ : ∃ next : String → Program (Except Breakdown Acquisition),
      ∀ program, job'.progress.program? = some program → next job.correlationId = program :=
    ⟨fun _ => job'.progress.program?.getD (.done (.ok {})), fun program left => by simp [left]⟩
  refine ⟨_, run.step (.tend own bound found tends found' continues), ?_, rfl⟩
  show s.withJob n { job' with correlationId := job.correlationId } = s
  rw [← kept, System.withJob_eq_self found']

/-- What a dispatcher does by itself it does among threads, whichever scopes they are in. -/
theorem exists_run {s : System} (acts : t.system.Acts op sights s) (sound : t.Sound) :
    ∃ u, Run op t sights u ∧ u.system = s ∧ u.threads = t.threads := by
  induction acts with
  | refl => exact ⟨t, .refl, rfl, rfl⟩
  | step _ last inductionHypothesis =>
      obtain ⟨u, run, rfl, same⟩ := inductionHypothesis
      cases last with
      | submit command id reply => exact ⟨_, run.step (.submit command id reply), rfl, same⟩
      | idle idles => exact ⟨_, run.step (.idle idles), rfl, same⟩
      | @tend n more s tends =>
          obtain ⟨job, found⟩ : ∃ job, u.system.dispatcher.jobs[n]? = some job := by
            obtain ⟨-, -, found⟩ := tends
            exact ⟨_, found⟩
          have attending := run.step (.attend 0 found)
          rw [List.append_nil] at attending
          have attends : ((u.onThread 0 fun thread =>
              thread.enter (some n) job.correlationId).threads 0).owner? = some n := by
            simp [onThread, Thread.owner?, Thread.enter]
          obtain ⟨v, tended, rfl, there⟩ := attending.exists_tended sound attends tends
          have left := tended.step (.leave 0)
          rw [List.append_nil] at left
          refine ⟨_, left, rfl, ?_⟩
          rw [← same]
          simp [onThread, there]

end Threaded

end Dispatch

end TokenAcquisition
