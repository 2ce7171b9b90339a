import TokenAcquisition.Proofs.Credential.File
import TokenAcquisition.Proofs.Dispatch.Work

/-!
The cache and the commands that want it.  It is with one command at a time, from when it was given
to it until that command is answered, and only then can the command make another store of the one
in memory.  `System.Takes` is the moment in which it does, `System.Turns` all that a step can do
to the cache.
-/

namespace TokenAcquisition

namespace Program

variable {p q : Program (Except Breakdown Acquisition)} {dealing : Dealing}

/-- It asks the cache for another store. -/
def IsChange : Program (Except Breakdown Acquisition) → Prop
  | .save _ _ _ _ => True
  | .invalidate _ _ _ => True
  | _ => False

/-- The store that is to take the place of one, if any is. -/
def changed? (store : Store) : Program (Except Breakdown Acquisition) → Option Store
  | .save clientId credential metadata _ => some (store.save clientId credential metadata)
  | .invalidate clientId account _ => store.invalidate? clientId account
  | _ => none

theorem isChange_of_changed? {store store' : Store} (changed : p.changed? store = some store') :
    p.IsChange := by
  cases p <;> first | exact trivial | cases changed

theorem IsChange.needsCache (change : p.IsChange) : Dispatch.Dispatcher.needsCache p = true := by
  cases p <;> first | rfl | cases change

theorem IsChange.not_abstains (change : p.IsChange) : ¬ p.Abstains := by
  cases p <;> first | exact id | cases change

theorem IsChange.not_changesAtMost_zero (change : p.IsChange) : ¬ p.ChangesAtMost 0 := by
  cases p <;> first | exact id | cases change

theorem IsChange.changes_eq_one (change : p.IsChange) (step : p.Step dealing q) :
    dealing.changes = 1 := by
  cases step <;> first | rfl | cases change

end Program

namespace Dispatch

/-- A command waits for the cache or has it. -/
def Progress.WantsCache : Progress → Prop
  | .running program => Dispatcher.needsCache program = true
  | _ => False

theorem Progress.not_wantsCache {program : Program (Except Breakdown Acquisition)}
    (free : Dispatcher.needsCache program = false) : ¬ (Progress.running program).WantsCache := by
  intro wants
  cases free.symm.trans wants

namespace Dispatcher

variable {d d' : Dispatcher} {n : Nat}

theorem acquire?_eq_some_iff :
    d.acquire? n = some d' ↔
      d.lock = none ∧ ∃ job, d.jobs[n]? = some job ∧ job.progress.WantsCache ∧
        { d with lock := some n } = d' := by
  constructor
  · intro acquired
    have same := eq_of_acquire? acquired
    unfold acquire? at acquired
    split at acquired
    next job free found =>
      split at acquired
      next program progress =>
        split at acquired
        next wants => exact ⟨free, job, found, progress ▸ wants, same⟩
        next => cases acquired
      next => cases acquired
    next => cases acquired
  · rintro ⟨free, job, found, wants, rfl⟩
    cases progress : job.progress with
    | running program =>
        rw [progress] at wants
        simp only [acquire?, free, found, progress]
        exact if_pos wants
    | _ =>
        rw [progress] at wants
        cases wants

/-- A write changes the file, not the store in memory. -/
theorem exists_file_of_endWrite? (ended : d.endWrite? = some d') :
    d.write = .underWay ∧ ∃ file result,
      { d with cache := { d.cache with file }, write := .ended result } = d' := by
  unfold endWrite? at ended
  split at ended
  next underWay =>
    refine ⟨underWay, ?_⟩
    unfold Cache.replace at ended
    cases written : d.cache.file.write d.cache.store with
    | ok file =>
        simp only [written, Option.some.injEq] at ended
        exact ⟨file, .ok (), ended⟩
    | error fault =>
        simp only [written, Option.some.injEq] at ended
        exact ⟨d.cache.file, .error fault.failure, ended⟩
  next => cases ended

theorem endWrite?_of_isWritable (underWay : d.write = .underWay)
    (writable : d.cache.file.IsWritable) :
    d.endWrite? = some
      { d with
        cache := { d.cache with file := d.cache.file.holding d.cache.store }
        write := .ended (.ok ()) } := by
  simp only [endWrite?, underWay, Cache.replace, CacheFile.write_of_isWritable writable]

end Dispatcher

/-- A command that got no answer is where it was, and only such a one. -/
theorem Progress.Step.eq_none {s : System} {n : Nat} {progress : Progress} {dealt : Option Dealing}
    (step : progress.Step s n dealt progress) : dealt = none := by
  cases step with
  | deal step => exact absurd rfl step.ne
  | _ => rfl

namespace System

/-- The store in memory. -/
def store (s : System) : Store :=
  s.dispatcher.cache.store

/-- A command that has the cache makes another store of the one in memory and begins to write
it. -/
structure Takes (n : Nat) (program : Program (Except Breakdown Acquisition)) (s t : System) :
    Prop where
  exists_job : ∃ job, s.dispatcher.jobs[n]? = some job ∧ job.progress = .running program
  held : s.dispatcher.lock = some n
  idle : s.dispatcher.write = .none
  exists_store : ∃ store, program.changed? s.store = some store ∧
    t = { s with
      dispatcher :=
        { s.dispatcher with cache := { s.dispatcher.cache with store }, write := .underWay } }

/-- Whoever waits for the cache or has it is where it was. -/
def Waits (s t : System) : Prop :=
  ∀ {n : Nat} {job : Job}, s.dispatcher.jobs[n]? = some job → job.progress.WantsCache →
    ∃ job', t.dispatcher.jobs[n]? = some job' ∧ job'.progress = job.progress

/-- What becomes of the cache in a step. -/
inductive Turns (s t : System) : Prop where
  /-- The step has nothing to do with it. -/
  | other :
      t.dispatcher.lock = s.dispatcher.lock → t.dispatcher.write = s.dispatcher.write →
      t.store = s.store → s.Waits t → Turns s t
  | acquire {n job} :
      s.dispatcher.lock = none → s.dispatcher.jobs[n]? = some job → job.progress.WantsCache →
      t.dispatcher = { s.dispatcher with lock := some n } → Turns s t
  | take {n program} : Takes n program s t → Turns s t
  | endWrite :
      s.dispatcher.write = .underWay → t.dispatcher.lock = s.dispatcher.lock →
      t.dispatcher.write ≠ .none → t.store = s.store → t.dispatcher.jobs = s.dispatcher.jobs →
      Turns s t
  /-- The command that has it is answered and gives it back. -/
  | release {n own changed program dealing next} :
      s.dispatcher.lock = some n → s.dispatcher.jobs[n]? = some own →
      own.progress = .running program → program.Step dealing next →
      t.dispatcher.lock = none → t.store = s.store →
      (t.dispatcher.write = .none ∨
        t.dispatcher.write = s.dispatcher.write ∧ ¬ program.IsChange) →
      t.dispatcher.jobs = s.dispatcher.jobs.set n changed → changed.progress = .running next →
      Turns s t

variable {s t u : System} {n m : Nat} {job own changed : Job} {d : Dispatcher}
  {trace occurrences : List Occurrence} {program : Program (Except Breakdown Acquisition)}

theorem Takes.isChange (takes : Takes n program s t) : program.IsChange := by
  obtain ⟨-, -, -, store, changed, -⟩ := takes
  exact Program.isChange_of_changed? changed

theorem Takes.jobs (takes : Takes n program s t) : t.dispatcher.jobs = s.dispatcher.jobs := by
  obtain ⟨-, -, -, store, -, rfl⟩ := takes
  rfl

theorem Takes.lock (takes : Takes n program s t) : t.dispatcher.lock = some n := by
  obtain ⟨-, held, -, store, -, rfl⟩ := takes
  exact held

theorem Takes.write (takes : Takes n program s t) : t.dispatcher.write = .underWay := by
  obtain ⟨-, -, -, store, -, rfl⟩ := takes
  rfl

theorem Takes.changed? (takes : Takes n program s t) :
    program.changed? s.store = some t.store := by
  obtain ⟨-, -, -, store, changed, rfl⟩ := takes
  exact changed

/-- Nothing keeps the command that has the cache from changing the store. -/
theorem Takes.step (takes : Takes n program s t) : s.Step [] t := by
  obtain ⟨⟨job, found, progress⟩, held, idle, store, changed, rfl⟩ := takes
  refine .work found progress ?_ ?_
  · cases program <;> first | exact trivial | cases changed
  · cases program with
    | save clientId credential metadata next =>
        obtain rfl := Option.some.inj changed
        simp [Dispatcher.advance?, found, progress, Dispatcher.change?, held, idle, System.store]
    | invalidate clientId account next =>
        have made : s.dispatcher.cache.store.invalidate? clientId account = some store := changed
        simp [Dispatcher.advance?, found, progress, Dispatcher.change?, held, idle, made]
    | _ => cases changed

/-! ### What a step does -/

theorem waits_of_set (found : s.dispatcher.jobs[m]? = some own)
    (same : own.progress.WantsCache → changed.progress = own.progress)
    (jobs : t.dispatcher.jobs = s.dispatcher.jobs.set m changed) : s.Waits t := by
  intro n job atN wants
  rw [jobs]
  by_cases here : m = n
  · subst here
    obtain rfl : own = job := Option.some.inj (found.symm.trans atN)
    have inside := (List.getElem?_eq_some_iff.mp found).1
    exact ⟨changed, by simp [inside], same wants⟩
  · exact ⟨job, by rw [List.getElem?_set_ne here, atN], rfl⟩

theorem waits_of_same (jobs : t.dispatcher.jobs = s.dispatcher.jobs) : s.Waits t :=
  fun found _ => ⟨_, jobs ▸ found, rfl⟩

theorem turns_change? (found : s.dispatcher.jobs[m]? = some own)
    (progress : own.progress = .running program)
    {next : Except Failure Unit → Program (Except Breakdown Acquisition)}
    {dealt : Except Failure Unit → Dealing}
    (steps : ∀ answer, program.Step (dealt answer) (next answer))
    (changes : s.dispatcher.change? m own (program.changed? s.store) next = some d) :
    s.Turns { s with dispatcher := d } := by
  unfold Dispatcher.change? at changes
  split at changes
  next => cases changes
  next held =>
    have held := Decidable.not_not.mp held
    split at changes
    next => cases changes
    next result ended =>
      obtain rfl := Option.some.inj changes
      exact .release held found progress (steps result) rfl rfl (.inl rfl) rfl rfl
    next idle =>
      split at changes
      next store changed =>
        obtain rfl := Option.some.inj changes
        exact .take ⟨⟨own, found, progress⟩, held, idle, store, changed, rfl⟩
      next =>
        obtain rfl := Option.some.inj changes
        exact .release held found progress (steps _) rfl rfl (.inl idle) rfl rfl

theorem turns_advance? (found : s.dispatcher.jobs[m]? = some own)
    (progress : own.progress = .running program) (isLocal : IsLocal program)
    (advanced : s.dispatcher.advance? m = some d) : s.Turns { s with dispatcher := d } := by
  -- Whoever does not want the cache does not touch it either.
  have other {d : Dispatcher} {changed : Job} (free : Dispatcher.needsCache program = false)
      (jobs : d.jobs = s.dispatcher.jobs.set m changed)
      (lock : d.lock = s.dispatcher.lock) (write : d.write = s.dispatcher.write)
      (cache : d.cache = s.dispatcher.cache) : s.Turns { s with dispatcher := d } := by
    refine .other lock write (congrArg Cache.store cache) (waits_of_set found ?_ jobs)
    intro wants
    rw [progress] at wants
    exact absurd wants (Progress.not_wantsCache free)
  cases program with
  | done | launch | dispose => cases isLocal
  | now next | seeds next | post request next =>
      simp only [Dispatcher.advance?, found, progress, Option.some.injEq] at advanced
      subst advanced
      exact other rfl rfl rfl rfl rfl
  | sleep milliseconds next =>
      simp only [Dispatcher.advance?, found, progress] at advanced
      split at advanced
      next =>
        obtain rfl := Option.some.inj advanced
        exact other rfl rfl rfl rfl rfl
      next =>
        split at advanced
        next =>
          obtain rfl := Option.some.inj advanced
          exact other rfl rfl rfl rfl rfl
        next => cases advanced
  | lookup clientId account next =>
      simp only [Dispatcher.advance?, found, progress] at advanced
      split at advanced
      next held =>
        obtain rfl := Option.some.inj advanced
        exact .release held found progress (.lookup _) rfl rfl (.inr ⟨rfl, id⟩) rfl rfl
      next => cases advanced
  | save clientId credential metadata next =>
      simp only [Dispatcher.advance?, found, progress] at advanced
      exact turns_change? found progress (fun answer => .save answer) advanced
  | invalidate clientId account next =>
      simp only [Dispatcher.advance?, found, progress] at advanced
      exact turns_change? found progress (fun answer => .invalidate answer) advanced
  | await seconds next =>
      simp only [Dispatcher.advance?, found, progress] at advanced
      split at advanced
      next =>
        obtain rfl := Option.some.inj advanced
        exact other rfl rfl rfl rfl rfl
      next =>
        split at advanced
        next => cases advanced
        next =>
          split at advanced
          next =>
            obtain rfl := Option.some.inj advanced
            exact other rfl rfl rfl rfl rfl
          next =>
            split at advanced
            next =>
              obtain rfl := Option.some.inj advanced
              exact other rfl rfl rfl rfl rfl
            next => cases advanced

/-- Whatever is done around a dispatcher, it turns the cache from one command to another, or leaves
it alone. -/
theorem Step.turns (step : Step s occurrences t) : s.Turns t := by
  have moves {m : Nat} {own changed : Job} {before : Progress} {d : Dispatcher} {uses : Nat → Use}
      (atM : s.dispatcher.jobs[m]? = some own) (progress : own.progress = before)
      (free : ¬ before.WantsCache) (lock : d.lock = s.dispatcher.lock)
      (write : d.write = s.dispatcher.write) (cache : d.cache = s.dispatcher.cache)
      (jobs : d.jobs = s.dispatcher.jobs.set m changed) : s.Turns { dispatcher := d, uses } :=
    .other lock write (congrArg Cache.store cache)
      (waits_of_set atM (fun wants => absurd (progress ▸ wants) free) jobs)
  have stays {d : Dispatcher} {uses : Nat → Use} (lock : d.lock = s.dispatcher.lock)
      (write : d.write = s.dispatcher.write) (cache : d.cache = s.dispatcher.cache)
      (jobs : d.jobs = s.dispatcher.jobs) : s.Turns { dispatcher := d, uses } :=
    .other lock write (congrArg Cache.store cache) (waits_of_same jobs)
  cases step with
  | submit lane correlationId reply program =>
      refine .other rfl rfl rfl fun {n job} found _ => ⟨job, ?_, rfl⟩
      have inside := (List.getElem?_eq_some_iff.mp found).1
      simp only [Dispatcher.enqueue, List.getElem?_append_left inside, found]
  | tell _ told =>
      obtain ⟨own, atM, progress, rfl⟩ := Dispatcher.tell?_eq_some_iff.mp told
      exact moves atM progress id rfl rfl rfl rfl
  | receive _ received =>
      obtain ⟨-, m, own, program, -, atM, progress, rfl⟩ :=
        Dispatcher.receive?_eq_some_iff.mp received
      exact moves atM progress id rfl rfl rfl rfl
  | register _ registered =>
      obtain ⟨own, program, atM, progress, rfl⟩ := Dispatcher.register?_eq_some_iff.mp registered
      exact moves atM progress id rfl rfl rfl rfl
  | spawn _ spawned =>
      obtain ⟨own, program, atM, progress, rfl⟩ := Dispatcher.spawn?_eq_some_iff.mp spawned
      exact moves atM progress id rfl rfl rfl rfl
  | startSilent started =>
      obtain ⟨own, program, atM, -, progress, rfl⟩ :=
        Dispatcher.startSilent?_eq_some_iff.mp started
      exact moves atM progress id rfl rfl rfl rfl
  | work atM progress isLocal advanced => exact turns_advance? atM progress isLocal advanced
  | finish atM progress advanced =>
      simp only [Dispatcher.advance?, atM, progress, Option.some.injEq] at advanced
      subst advanced
      exact moves atM progress (Progress.not_wantsCache rfl) rfl rfl rfl rfl
  | @endLaunch _ _ _ _ _ _ started atM progress =>
      cases started <;>
        exact moves atM progress (Progress.not_wantsCache rfl) rfl rfl rfl rfl
  | endDispose atM progress =>
      exact moves atM progress (Progress.not_wantsCache rfl) rfl rfl rfl rfl
  | acquire acquired =>
      obtain ⟨free, job, atN, wants, rfl⟩ := Dispatcher.acquire?_eq_some_iff.mp acquired
      exact .acquire free atN wants rfl
  | endWrite ended =>
      obtain ⟨underWay, file, result, rfl⟩ := Dispatcher.exists_file_of_endWrite? ended
      refine .endWrite underWay rfl ?_ rfl rfl
      intro none
      cases none
  | @call m k own after atM step =>
      refine .other rfl rfl rfl (waits_of_set atM (fun _ => ?_) rfl)
      rfl
  | unregister _ unregistered =>
      obtain ⟨own, result, atM, progress, -, rfl⟩ :=
        Dispatcher.unregister?_eq_some_iff.mp unregistered
      exact moves atM progress id rfl rfl rfl rfl
  | endDisposal _ atM progress => exact moves atM progress id rfl rfl rfl rfl
  | record _ _ _ recorded =>
      obtain ⟨own, result, atM, progress, rfl⟩ := Dispatcher.record?_eq_some_iff.mp recorded
      exact moves atM progress id rfl rfl rfl rfl
  | post _ _ _ posted =>
      obtain ⟨own, result, atM, progress, rfl⟩ := Dispatcher.post?_eq_some_iff.mp posted
      exact moves atM progress id rfl rfl rfl rfl
  | deliver _ atReply next delivered =>
      simp only [Dispatcher.deliver?, atReply, next, Option.some.injEq] at delivered
      subst delivered
      exact stays rfl rfl rfl rfl
  | closeLane | beginLaunch | beginDispose | pass | orphan | beginDisposal | closeLoop =>
      exact stays rfl rfl rfl rfl

/-! ### Order -/

/-- The cache is with a command that wants it, and what is written is what this command asked
for. -/
structure Orderly (s : System) : Prop where
  holder : ∀ {n : Nat}, s.dispatcher.lock = some n →
    ∃ job, s.dispatcher.jobs[n]? = some job ∧ job.progress.WantsCache
  writer : s.dispatcher.write ≠ .none →
    ∃ n job program, s.dispatcher.lock = some n ∧ s.dispatcher.jobs[n]? = some job ∧
      job.progress = .running program ∧ program.IsChange

namespace Orderly

theorem of_free (free : s.dispatcher.lock = none) (idle : s.dispatcher.write = .none) :
    s.Orderly where
  holder held := nomatch free.symm.trans held
  writer busy := absurd idle busy

theorem write_eq_none (orderly : s.Orderly) (free : s.dispatcher.lock = none) :
    s.dispatcher.write = .none := by
  by_contra busy
  obtain ⟨n, job, program, held, -⟩ := orderly.writer busy
  cases free.symm.trans held

theorem step (orderly : s.Orderly) (step : Step s occurrences t) : t.Orderly := by
  cases step.turns with
  | other lock write _ waits =>
      constructor
      · intro n held
        obtain ⟨job, found, wants⟩ := orderly.holder (lock ▸ held)
        obtain ⟨job', found', same⟩ := waits found wants
        exact ⟨job', found', same ▸ wants⟩
      · intro busy
        obtain ⟨n, job, program, held, found, progress, change⟩ := orderly.writer (write ▸ busy)
        have wants : job.progress.WantsCache := progress ▸ change.needsCache
        obtain ⟨job', found', same⟩ := waits found wants
        exact ⟨n, job', program, lock.trans held, found', same.trans progress, change⟩
  | acquire free found wants same =>
      constructor
      · intro m held
        rw [same] at held ⊢
        obtain rfl := Option.some.inj held
        exact ⟨_, found, wants⟩
      · intro busy
        rw [same] at busy
        exact absurd (orderly.write_eq_none free) busy
  | take takes =>
      obtain ⟨job, found, progress⟩ := takes.exists_job
      constructor
      · intro m held
        obtain rfl := Option.some.inj (takes.lock.symm.trans held)
        exact ⟨job, takes.jobs ▸ found, progress ▸ takes.isChange.needsCache⟩
      · intro _
        exact ⟨_, job, _, takes.lock, takes.jobs ▸ found, progress, takes.isChange⟩
  | endWrite underWay lock _ _ jobs =>
      constructor
      · intro n held
        rw [jobs]
        exact orderly.holder (lock ▸ held)
      · intro _
        rw [jobs, lock]
        exact orderly.writer (by rw [underWay]; nofun)
  | release held found progress _ lock _ write _ _ =>
      constructor
      · intro m other
        cases lock.symm.trans other
      · intro busy
        rcases write with idle | ⟨same, change⟩
        · exact absurd idle busy
        · obtain ⟨m, job, program, held', found', progress', change'⟩ :=
            orderly.writer (same ▸ busy)
          obtain rfl := Option.some.inj (held.symm.trans held')
          obtain rfl := Option.some.inj (found.symm.trans found')
          obtain rfl := Progress.running.inj (progress.symm.trans progress')
          exact absurd change' change

theorem run (orderly : s.Orderly) (run : s.Run trace t) : t.Orderly := by
  induction run with
  | refl => exact orderly
  | step _ last inductionHypothesis => exact inductionHypothesis.step last

end Orderly

end System

/-- Whatever it is answered, a command asks the cache for another store so often at most. -/
def Progress.ChangesAtMost (k : Nat) : Progress → Prop
  | .opening _ program => program.ChangesAtMost k
  | .running program => program.ChangesAtMost k
  | .refused _ => True
  | .closing _ _ => True

theorem Progress.Step.changesAtMost_zero {s : System} {n : Nat} {before after : Progress}
    {dealt : Option Dealing} (step : before.Step s n dealt after)
    (atMost : before.ChangesAtMost 0) : after.ChangesAtMost 0 := by
  cases step with
  | deal step =>
      obtain ⟨m, none, atMost⟩ := Program.ChangesAtMost.step atMost step
      obtain rfl := Nat.eq_zero_of_add_eq_zero_right none
      exact atMost
  | stay | turn | start => exact atMost
  | tell | finish | panic | close => exact trivial

namespace System

variable {s t u : System} {n : Nat} {trace occurrences : List Occurrence}
  {program : Program (Except Breakdown Acquisition)}

/-- A command will not change the store any more. -/
inductive Spent (n : Nat) (s : System) : Prop where
  /-- What it has made of the store is being written. -/
  | writing {job program} :
      s.dispatcher.jobs[n]? = some job → job.progress = .running program → program.IsChange →
      program.ChangesAtMost 1 → s.dispatcher.lock = some n → s.dispatcher.write ≠ .none →
      Spent n s
  | past {job} :
      s.dispatcher.jobs[n]? = some job → job.progress.ChangesAtMost 0 → Spent n s

namespace Spent

theorem of_takes (takes : Takes n program s t) (atMost : program.ChangesAtMost 1) :
    t.Spent n := by
  obtain ⟨job, found, progress⟩ := takes.exists_job
  refine .writing (takes.jobs ▸ found) progress takes.isChange atMost takes.lock ?_
  rw [takes.write]
  nofun

theorem not_takes (spent : s.Spent n) : ¬ Takes n program s t := by
  intro takes
  obtain ⟨job, found, progress⟩ := takes.exists_job
  cases spent with
  | writing _ _ _ _ _ busy => exact busy takes.idle
  | past found' atMost =>
      obtain rfl := Option.some.inj (found.symm.trans found')
      rw [progress] at atMost
      exact takes.isChange.not_changesAtMost_zero atMost

theorem step (spent : s.Spent n) (step : Step s occurrences t) : t.Spent n := by
  cases spent with
  | past found atMost =>
      obtain ⟨job', dealt, found', -, own⟩ := step.exists_progress found
      exact .past found' (own.changesAtMost_zero atMost)
  | writing found progress change atMost held busy =>
      cases step.turns with
      | other lock write _ waits =>
          obtain ⟨job', found', same⟩ := waits found (progress ▸ change.needsCache)
          exact .writing found' (same.trans progress) change atMost (lock.trans held)
            (write ▸ busy)
      | acquire free => cases free.symm.trans held
      | take takes => exact absurd takes.idle busy
      | endWrite _ lock write _ jobs =>
          exact .writing (jobs ▸ found) progress change atMost (lock.trans held) write
      | release held' found' progress' answered _ _ _ jobs after =>
          obtain rfl := Option.some.inj (held'.symm.trans held)
          obtain rfl := Option.some.inj (found'.symm.trans found)
          obtain rfl := Progress.running.inj (progress'.symm.trans progress)
          obtain ⟨m, once, atMost⟩ := atMost.step answered
          rw [change.changes_eq_one answered] at once
          obtain rfl := Nat.succ.inj once
          have inside := (List.getElem?_eq_some_iff.mp found).1
          refine .past (by rw [jobs, List.getElem?_set_self inside]) ?_
          rw [after]
          exact atMost

theorem run (spent : s.Spent n) (run : s.Run trace t) : t.Spent n := by
  induction run with
  | refl => exact spent
  | step _ last inductionHypothesis => exact inductionHypothesis.step last

end Spent

/-- A run leads from one state to another. -/
def Reaches (s t : System) : Prop :=
  ∃ trace, s.Run trace t

theorem Reaches.trans (first : s.Reaches t) (second : t.Reaches u) : s.Reaches u := by
  obtain ⟨trace, run⟩ := first
  obtain ⟨more, further⟩ := second
  exact ⟨_, run.trans further⟩

theorem Step.reaches (step : Step s occurrences t) : s.Reaches t :=
  ⟨_, Run.refl.step step⟩

/-- Another command has changed what is stored under a key. -/
def Overwritten (n : Nat) (key : String) (s t : System) : Prop :=
  ∃ m program before after, m ≠ n ∧ s.Reaches before ∧ Takes m program before after ∧
    after.Reaches t ∧
    after.store.credentials.find? key ≠ before.store.credentials.find? key

theorem Step.store_cases (step : Step s occurrences t) :
    t.store = s.store ∨ ∃ n program, Takes n program s t := by
  cases step.turns with
  | other _ _ same _ => exact .inl same
  | acquire _ _ _ same => exact .inl (by rw [store, same, store])
  | take takes => exact .inr ⟨_, _, takes⟩
  | endWrite _ _ _ same _ => exact .inl same
  | release _ _ _ _ _ same _ _ _ => exact .inl same

/-- What is stored under a key stays there, unless somebody changes it. -/
theorem Reaches.exists_takes {key : String} (reaches : s.Reaches t)
    (different : t.store.credentials.find? key ≠ s.store.credentials.find? key) :
    ∃ m program before after, s.Reaches before ∧ Takes m program before after ∧
      after.Reaches t ∧
      after.store.credentials.find? key ≠ before.store.credentials.find? key := by
  obtain ⟨trace, run⟩ := reaches
  induction run with
  | refl => exact absurd rfl different
  | @step _ middle _ last before final inductionHypothesis =>
      by_cases same : last.store.credentials.find? key = middle.store.credentials.find? key
      · obtain ⟨m, program, early, late, first, takes, second, changed⟩ :=
          inductionHypothesis (same ▸ different)
        exact ⟨m, program, early, late, first, takes, second.trans final.reaches, changed⟩
      · rcases final.store_cases with kept | ⟨m, program, takes⟩
        · exact absurd (by rw [kept]) same
        · exact ⟨m, program, middle, last, ⟨_, before⟩, takes, ⟨[], .refl⟩, same⟩

end System

namespace Deals

variable {s t u : System} {n : Nat} {dealings : List Dealing} {job : Job}
  {program own : Program (Except Breakdown Acquisition)}

/-- Where a command is that makes another store. -/
theorem path_of_takes (deals : Deals n s dealings t) (found : s.dispatcher.jobs[n]? = some job)
    (fresh : job.progress.Along program []) (takes : t.Takes n own u) :
    program.Path dealings own := by
  obtain ⟨job', found', along⟩ := deals.along found fresh
  obtain ⟨job'', found'', progress⟩ := takes.exists_job
  obtain rfl := Option.some.inj (found'.symm.trans found'')
  rwa [progress] at along

/-- A command that may change the store once has then done so. -/
theorem spent (deals : Deals n s dealings t) (found : s.dispatcher.jobs[n]? = some job)
    (fresh : job.progress.Along program []) (once : program.ChangesAtMost 1)
    (takes : t.Takes n own u) : u.Spent n := by
  obtain ⟨m, below, atMost⟩ := once.path (deals.path_of_takes found fresh takes)
  have some : m ≠ 0 := by
    rintro rfl
    exact takes.isChange.not_changesAtMost_zero atMost
  obtain rfl : m = 1 := Nat.le_antisymm below (Nat.one_le_iff_ne_zero.mpr some)
  exact .of_takes takes atMost

/-- What is being written for a command is what it has made of the store, and nothing has come
to it since. -/
theorem exists_takes (deals : Deals n s dealings t) (orderly : s.Orderly)
    (free : s.dispatcher.lock ≠ some n) (held : t.dispatcher.lock = some n)
    (busy : t.dispatcher.write ≠ .none) (found : t.dispatcher.jobs[n]? = some job)
    (progress : job.progress = .running program) :
    ∃ taken after, Deals n s dealings taken ∧ taken.Takes n program after ∧ after.Reaches t := by
  induction deals generalizing job with
  | start => exact absurd held free
  | @step dealings middle _ last before further dealt deals step atMiddle atLast own
      inductionHypothesis =>
      obtain rfl : further = job := Option.some.inj (atLast.symm.trans found)
      obtain ⟨_, run⟩ := deals.exists_run
      have order := orderly.run run
      -- In each case the command is where it was, and has got no answer.
      have unanswered (same : further.progress = before.progress) : dealings ++ dealt.toList =
          dealings ∧ before.progress = .running program := by
        rw [same] at own
        rw [own.eq_none, Option.toList_none, List.append_nil]
        exact ⟨rfl, same ▸ progress⟩
      cases step.turns with
      | other lock write _ waits =>
          obtain ⟨own', atMiddle', wants⟩ := order.holder (lock ▸ held)
          obtain rfl := Option.some.inj (atMiddle.symm.trans atMiddle')
          obtain ⟨further', atLast', same⟩ := waits atMiddle wants
          obtain rfl := Option.some.inj (atLast.symm.trans atLast')
          obtain ⟨none, progress⟩ := unanswered same
          obtain ⟨taken, after, early, takes, later⟩ :=
            inductionHypothesis (lock ▸ held) (write ▸ busy) atMiddle progress
          exact ⟨taken, after, by rwa [none], takes, later.trans step.reaches⟩
      | acquire lock _ _ same =>
          rw [same] at busy
          exact absurd (order.write_eq_none lock) busy
      | take takes =>
          obtain rfl := Option.some.inj (takes.lock.symm.trans held)
          rw [takes.jobs, atMiddle] at atLast
          obtain rfl := Option.some.inj atLast
          obtain ⟨none, same⟩ := unanswered rfl
          obtain ⟨own', atMiddle', progress'⟩ := takes.exists_job
          obtain rfl := Option.some.inj (atMiddle.symm.trans atMiddle')
          obtain rfl := Progress.running.inj (progress'.symm.trans progress)
          exact ⟨middle, last, by rwa [none], takes, ⟨[], .refl⟩⟩
      | endWrite underWay lock _ _ jobs =>
          rw [jobs, atMiddle] at atLast
          obtain rfl := Option.some.inj atLast
          obtain ⟨none, progress⟩ := unanswered rfl
          obtain ⟨taken, after, early, takes, later⟩ :=
            inductionHypothesis (lock ▸ held) (by rw [underWay]; nofun) atMiddle progress
          exact ⟨taken, after, by rwa [none], takes, later.trans step.reaches⟩
      | release _ _ _ _ lock => cases lock.symm.trans held

end Deals

end Dispatch

end TokenAcquisition
