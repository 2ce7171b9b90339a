import TokenAcquisition.Proofs.Credential.Encoding
import TokenAcquisition.Proofs.Dispatch.Advance
import TokenAcquisition.Proofs.Dispatch.Redemption
import TokenAcquisition.Proofs.Program.Keeping

/-!
What becomes of the store when only some programs are submitted.  A condition of stores that each
of them preserves holds all the time, whatever else goes on; and whoever is told that a credential
was saved finds it in memory and in the file.  Where nothing is in their way, commands come to
tokens: an interactive one when the user agrees, a silent one when it finds a refresh token.
-/

namespace TokenAcquisition.Dispatch

variable {I : Store → Prop} {n : Nat}

/-- What is left of a command preserves a condition of stores. -/
def Progress.Preserves (I : Store → Prop) : Progress → Prop
  | .opening _ program => program.Preserves I
  | .running program => program.Preserves I
  | .refused _ => True
  | .closing _ _ => True

theorem Progress.Step.preserves {s : System} {before after : Progress} {dealt : Option Dealing}
    (step : before.Step s n dealt after) (satisfied : I s.store)
    (preserves : before.Preserves I) : after.Preserves I := by
  cases step with
  | deal answered gives =>
      refine Program.Preserves.step preserves answered ?_
      rintro clientId account answer rfl
      exact ⟨s.store, satisfied, gives.2⟩
  | stay | turn | start => exact preserves
  | tell | finish | panic | close => exact trivial

/-- An answer stays given however the run goes on. -/
theorem Gets.run {s middle t u : System} {earlier : List Dealing} {dealing : Dealing}
    {trace : List Occurrence} (gets : Gets n s earlier dealing middle t) (run : t.Run trace u) :
    Gets n s earlier dealing middle u := by
  obtain ⟨deals, _, after, before, further, first, atBefore, atAfter, own, _, between⟩ := gets
  exact ⟨deals, _, after, before, further, first, atBefore, atAfter, own, _, between.trans run⟩

namespace System

variable {s t u : System} {trace occurrences : List Occurrence} {job : Job}
  {kind kind' : Program (Except Breakdown Acquisition) → Prop}
  {program : Program (Except Breakdown Acquisition)} {dealings earlier later : List Dealing}

/-- The store satisfies a condition, and no command is about to change that. -/
structure Keeps (I : Store → Prop) (s : System) : Prop where
  store : I s.store
  programs : ∀ {n : Nat} {job : Job}, s.dispatcher.jobs[n]? = some job → job.progress.Preserves I

theorem Takes.preserved (takes : Takes n program s t) (preserves : program.Preserves I)
    (satisfied : I s.store) : I t.store := by
  have changed := takes.changed?
  cases program with
  | save clientId c metadata next =>
      obtain same := Option.some.inj changed
      exact same ▸ preserves.1 s.store satisfied
  | invalidate clientId account next => exact preserves.1 s.store t.store satisfied changed
  | _ => cases changed

/-- A step of a system in which only programs of some kind are submitted. -/
inductive Move (kind : Program (Except Breakdown Acquisition) → Prop) (s : System) :
    System → Prop where
  | submit {program : Program (Except Breakdown Acquisition)} (lane : Lane)
      (correlationId : String) (reply : Nat) :
      kind program → Move kind s (s.submitted lane correlationId reply program)
  /-- A step that submits nothing. -/
  | step {occurrences : List Occurrence} {t : System} :
      Step s occurrences t → t.dispatcher.jobs.length = s.dispatcher.jobs.length → Move kind s t

/-- A run in which only programs of some kind are submitted. -/
def RunOf (kind : Program (Except Breakdown Acquisition) → Prop) : System → System → Prop :=
  Relation.ReflTransGen (Move kind)

theorem Move.exists_step (move : s.Move kind t) : ∃ occurrences, Step s occurrences t := by
  cases move with
  | submit lane correlationId reply _ => exact ⟨[], .submit lane correlationId reply _⟩
  | step step _ => exact ⟨_, step⟩

theorem Move.mono (move : s.Move kind t) (implies : ∀ {program}, kind program → kind' program) :
    s.Move kind' t := by
  cases move with
  | submit lane correlationId reply own => exact .submit lane correlationId reply (implies own)
  | step step same => exact .step step same

theorem Keeps.move (keeps : s.Keeps I) (move : s.Move (Program.Preserves I) t) : t.Keeps I := by
  cases move with
  | submit lane correlationId reply preserves =>
      refine ⟨keeps.store, fun {m job} found => ?_⟩
      rcases List.mem_append.mp (List.mem_of_getElem? found) with old | new
      · obtain ⟨k, atK⟩ := List.mem_iff_getElem?.mp old
        exact keeps.programs atK
      · obtain rfl := List.mem_singleton.mp new
        dsimp only
        split
        · exact trivial
        · exact preserves
  | step step same =>
      constructor
      · rcases step.store_cases with kept | ⟨m, program, takes⟩
        · exact kept ▸ keeps.store
        · obtain ⟨job, found, progress⟩ := takes.exists_job
          have preserves := keeps.programs found
          rw [progress] at preserves
          exact takes.preserved preserves keeps.store
      · intro m job found
        have inside := (List.getElem?_eq_some_iff.mp found).1
        rw [same] at inside
        have before := List.getElem?_eq_getElem inside
        obtain ⟨job', dealt, found', -, own⟩ := step.exists_progress before
        obtain rfl := Option.some.inj (found'.symm.trans found)
        exact own.preserves keeps.store (keeps.programs before)

namespace RunOf

theorem refl (s : System) : s.RunOf kind s :=
  Relation.ReflTransGen.refl

theorem move (run : s.RunOf kind t) (move : t.Move kind u) : s.RunOf kind u :=
  Relation.ReflTransGen.tail run move

theorem trans (run : s.RunOf kind t) (further : t.RunOf kind u) : s.RunOf kind u :=
  Relation.ReflTransGen.trans run further

theorem mono (run : s.RunOf kind t) (implies : ∀ {program}, kind program → kind' program) :
    s.RunOf kind' t :=
  Relation.ReflTransGen.mono (fun _ _ move => move.mono implies) _ _ run

theorem exists_run (run : s.RunOf kind t) : ∃ trace, s.Run trace t := by
  induction run with
  | refl => exact ⟨[], .refl⟩
  | tail _ last inductionHypothesis =>
      obtain ⟨trace, before⟩ := inductionHypothesis
      obtain ⟨_, step⟩ := last.exists_step
      exact ⟨_, before.step step⟩

theorem keeps (run : s.RunOf (Program.Preserves I) t) (keeps : s.Keeps I) : t.Keeps I := by
  induction run with
  | refl => exact keeps
  | tail _ last inductionHypothesis => exact inductionHypothesis.move last

/-- What is being written for the command that has the cache is what this command has made of the
store, and it was given nothing since. -/
theorem exists_takes (run : s.RunOf kind t) (orderly : s.Orderly)
    (idle : s.dispatcher.write = .none) (held : t.dispatcher.lock = some n)
    (busy : t.dispatcher.write ≠ .none) :
    ∃ taken after program job, s.RunOf kind taken ∧ taken.Takes n program after ∧
      after.RunOf kind t ∧ after.store = t.store ∧ t.dispatcher.jobs[n]? = some job ∧
      job.progress = .running program := by
  induction run with
  | refl => exact absurd idle busy
  | @tail middle t before last inductionHypothesis =>
      obtain ⟨_, run⟩ := exists_run before
      have order := orderly.run run
      obtain ⟨_, step⟩ := last.exists_step
      cases step.turns with
      | other lock write store waits =>
          obtain ⟨taken, after, program, job, early, takes, late, same, found, progress⟩ :=
            inductionHypothesis (lock ▸ held) (write ▸ busy)
          have wants : job.progress.WantsCache := progress ▸ takes.isChange.needsCache
          obtain ⟨job', found', kept⟩ := waits found wants
          exact ⟨taken, after, program, job', early, takes, late.move last, same.trans store.symm,
            found', kept.trans progress⟩
      | acquire free _ _ same =>
          rw [same] at busy
          exact absurd (order.write_eq_none free) busy
      | take takes =>
          obtain rfl := Option.some.inj (takes.lock.symm.trans held)
          obtain ⟨job, found, progress⟩ := takes.exists_job
          exact ⟨middle, t, _, job, before, takes, refl t, rfl, takes.jobs ▸ found, progress⟩
      | endWrite underWay lock _ store jobs =>
          obtain ⟨taken, after, program, job, early, takes, late, same, found, progress⟩ :=
            inductionHypothesis (lock ▸ held) (by simp [underWay])
          exact ⟨taken, after, program, job, early, takes, late.move last, same.trans store.symm,
            jobs ▸ found, progress⟩
      | release _ _ _ _ lock => cases lock.symm.trans held

end RunOf

/-- A run in which only programs of some kind are submitted, with what a command dealt with. -/
inductive DealsOf (kind : Program (Except Breakdown Acquisition) → Prop) (n : Nat) (s : System) :
    List Dealing → System → Prop where
  | start : DealsOf kind n s [] s
  | move {dealings t u job job' dealt} :
      DealsOf kind n s dealings t → t.Move kind u →
      t.dispatcher.jobs[n]? = some job → u.dispatcher.jobs[n]? = some job' →
      job.progress.Step t n dealt job'.progress → DealsOf kind n s (dealings ++ dealt.toList) u

namespace DealsOf

theorem deals (deals : DealsOf kind n s dealings t) : Deals n s dealings t := by
  induction deals with
  | start => exact .start
  | move _ last found found' own inductionHypothesis =>
      obtain ⟨_, step⟩ := last.exists_step
      exact inductionHypothesis.step step found found' own

theorem runOf (deals : DealsOf kind n s dealings t) : s.RunOf kind t := by
  induction deals with
  | start => exact .refl s
  | move _ last _ _ _ inductionHypothesis => exact inductionHypothesis.move last

theorem of_runOf (run : s.RunOf kind t) (found : s.dispatcher.jobs[n]? = some job) :
    ∃ dealings job', DealsOf kind n s dealings t ∧ t.dispatcher.jobs[n]? = some job' := by
  induction run with
  | refl => exact ⟨[], job, .start, found⟩
  | tail _ last inductionHypothesis =>
      obtain ⟨dealings, middle, deals, atMiddle⟩ := inductionHypothesis
      obtain ⟨_, step⟩ := last.exists_step
      obtain ⟨job', dealt, atLast, -, further⟩ := step.exists_progress atMiddle
      exact ⟨_, job', deals.move last atMiddle atLast further, atLast⟩

/-- The run goes through the state in which an answer was given. -/
theorem exists_gets {dealing : Dealing}
    (deals : DealsOf kind n s (earlier ++ dealing :: later) t) :
    ∃ middle, DealsOf kind n s earlier middle ∧ Gets n s earlier dealing middle t ∧
      middle.RunOf kind t := by
  generalize all : earlier ++ dealing :: later = dealings at deals
  induction deals generalizing later with
  | start => simp at all
  | @move dealings middle last before further dealt deals move atMiddle atLast own
      inductionHypothesis =>
      obtain ⟨_, step⟩ := move.exists_step
      have sooner {later : List Dealing} (same : earlier ++ dealing :: later = dealings) :
          ∃ middle, DealsOf kind n s earlier middle ∧ Gets n s earlier dealing middle last ∧
            middle.RunOf kind last := by
        obtain ⟨middle, before, gets, run⟩ := inductionHypothesis same
        exact ⟨middle, before, gets.step step, run.move move⟩
      cases dealt with
      | none => exact sooner (by simpa using all)
      | some now =>
          rcases List.eq_nil_or_concat later with rfl | ⟨more, final, rfl⟩
          · obtain ⟨rfl, same⟩ := List.append_inj' (all.trans rfl) rfl
            obtain rfl : dealing = now := List.singleton_injective same
            exact ⟨middle, deals, ⟨deals.deals, _, last, before, further, step, atMiddle, atLast,
              own, [], .refl⟩, (RunOf.refl middle).move move⟩
          · have split : (earlier ++ dealing :: more) ++ [final] = dealings ++ [now] := by
              simpa using all
            exact sooner (List.append_inj' split rfl).1

end DealsOf

/-- A command that is still at work has come there on a path of its program. -/
theorem RunOf.exists_path {lane : Lane} {correlationId : String} {reply : Nat}
    {last : Program (Except Breakdown Acquisition)}
    (run : (s.submitted lane correlationId reply program).RunOf kind t)
    (found : t.dispatcher.jobs[s.dispatcher.jobs.length]? = some job)
    (progress : job.progress = .running last) :
    ∃ dealings,
      DealsOf kind s.dispatcher.jobs.length (s.submitted lane correlationId reply program)
        dealings t ∧
      program.Path dealings last := by
  obtain ⟨own, atStart, -, fresh⟩ := s.exists_submitted lane correlationId reply program
  obtain ⟨dealings, job', deals, found'⟩ := DealsOf.of_runOf run atStart
  obtain rfl := Option.some.inj (found'.symm.trans found)
  obtain ⟨last', atLast, along⟩ := deals.deals.along atStart fresh
  obtain rfl := Option.some.inj (atLast.symm.trans found)
  rw [progress] at along
  exact ⟨dealings, deals, along⟩

/-- No command ever goes away. -/
theorem Step.length_le (step : Step s occurrences t) :
    s.dispatcher.jobs.length ≤ t.dispatcher.jobs.length := by
  by_contra fewer
  have inside : t.dispatcher.jobs.length < s.dispatcher.jobs.length := Nat.lt_of_not_le fewer
  obtain ⟨job', _, found, -⟩ := step.exists_progress (List.getElem?_eq_getElem inside)
  exact Nat.lt_irrefl _ (List.getElem?_eq_some_iff.mp found).1

theorem Run.length_le (run : s.Run trace t) :
    s.dispatcher.jobs.length ≤ t.dispatcher.jobs.length := by
  induction run with
  | refl => exact Nat.le_refl _
  | step _ last inductionHypothesis => exact inductionHypothesis.trans last.length_le

/-- A run after which there are no more commands than before has submitted none. -/
theorem Run.runOf (run : s.Run trace t)
    (same : t.dispatcher.jobs.length = s.dispatcher.jobs.length) : s.RunOf kind t := by
  induction run with
  | refl => exact RunOf.refl s
  | step before last inductionHypothesis =>
      have least := before.length_le
      have most := last.length_le
      exact (inductionHypothesis (by omega)).move (.step last (by omega))

/-! ### Writes -/

/-- The file of the cache is as it was, and nobody is told that it has been written since. -/
def Unwritten (d d' : Dispatcher) : Prop :=
  d'.cache.file = d.cache.file ∧ (d'.write = d.write ∨ d'.write ≠ .ended (.ok ()))

/-- The file of the cache is as it was, and no write has come to its end. -/
def Unended (d d' : Dispatcher) : Prop :=
  d'.cache.file = d.cache.file ∧
    (d'.write = d.write ∨ d'.write = .none ∨ d'.write = .underWay)

theorem Unended.unwritten {d d' : Dispatcher} (unended : Unended d d') : Unwritten d d' := by
  obtain ⟨file, same | idle | underWay⟩ := unended
  · exact ⟨file, .inl same⟩
  · exact ⟨file, .inr (by simp [idle])⟩
  · exact ⟨file, .inr (by simp [underWay])⟩

theorem unended_change? {d d' : Dispatcher} {store? : Option Store}
    {next : Except Failure Unit → Program (Except Breakdown Acquisition)}
    (changes : d.change? n job store? next = some d') : Unended d d' := by
  unfold Dispatcher.change? at changes
  split at changes
  next => cases changes
  next =>
    split at changes
    next => cases changes
    next =>
      obtain rfl := Option.some.inj changes
      exact ⟨rfl, .inr (.inl rfl)⟩
    next =>
      split at changes
      next =>
        obtain rfl := Option.some.inj changes
        exact ⟨rfl, .inr (.inr rfl)⟩
      next =>
        obtain rfl := Option.some.inj changes
        exact ⟨rfl, .inl rfl⟩

theorem unended_advance? {d d' : Dispatcher} (found : d.jobs[n]? = some job)
    (progress : job.progress = .running program) (isLocal : IsLocal program)
    (advanced : d.advance? n = some d') : Unended d d' := by
  cases program with
  | done | launch | dispose => cases isLocal
  | now next | seeds next | post request next =>
      simp only [Dispatcher.advance?, found, progress, Option.some.injEq] at advanced
      subst advanced
      exact ⟨rfl, .inl rfl⟩
  | lookup clientId account next =>
      simp only [Dispatcher.advance?, found, progress] at advanced
      split at advanced
      next =>
        obtain rfl := Option.some.inj advanced
        exact ⟨rfl, .inl rfl⟩
      next => cases advanced
  | save clientId credential metadata next | invalidate clientId account next =>
      simp only [Dispatcher.advance?, found, progress] at advanced
      exact unended_change? advanced
  | sleep milliseconds next | await seconds next =>
      simp only [Dispatcher.advance?, found, progress] at advanced
      repeat' split at advanced
      all_goals cases advanced
      all_goals exact ⟨rfl, .inl rfl⟩

/-- No write comes to its end in a step, or one does. -/
theorem Step.write_cases (step : Step s occurrences t) :
    Unended s.dispatcher t.dispatcher ∨ s.dispatcher.endWrite? = some t.dispatcher := by
  cases step with
  | tell _ told =>
      obtain ⟨own, -, -, rfl⟩ := Dispatcher.tell?_eq_some_iff.mp told
      exact .inl ⟨rfl, .inl rfl⟩
  | receive _ received =>
      obtain ⟨-, m, own, program, -, -, -, rfl⟩ := Dispatcher.receive?_eq_some_iff.mp received
      exact .inl ⟨rfl, .inl rfl⟩
  | register _ registered =>
      obtain ⟨own, program, -, -, rfl⟩ := Dispatcher.register?_eq_some_iff.mp registered
      exact .inl ⟨rfl, .inl rfl⟩
  | spawn _ spawned =>
      obtain ⟨own, program, -, -, rfl⟩ := Dispatcher.spawn?_eq_some_iff.mp spawned
      exact .inl ⟨rfl, .inl rfl⟩
  | startSilent started =>
      obtain ⟨own, program, -, -, -, rfl⟩ := Dispatcher.startSilent?_eq_some_iff.mp started
      exact .inl ⟨rfl, .inl rfl⟩
  | work found progress isLocal advanced =>
      exact .inl (unended_advance? found progress isLocal advanced)
  | finish found progress advanced =>
      simp only [Dispatcher.advance?, found, progress, Option.some.injEq] at advanced
      subst advanced
      exact .inl ⟨rfl, .inl rfl⟩
  | @endLaunch _ _ _ _ _ _ started =>
      cases started <;> exact .inl ⟨rfl, .inl rfl⟩
  | acquire acquired =>
      obtain rfl := Dispatcher.eq_of_acquire? acquired
      exact .inl ⟨rfl, .inl rfl⟩
  | endWrite ended => exact .inr ended
  | unregister _ unregistered =>
      obtain ⟨own, result, -, -, -, rfl⟩ := Dispatcher.unregister?_eq_some_iff.mp unregistered
      exact .inl ⟨rfl, .inl rfl⟩
  | record _ _ _ recorded =>
      obtain ⟨own, result, -, -, rfl⟩ := Dispatcher.record?_eq_some_iff.mp recorded
      exact .inl ⟨rfl, .inl rfl⟩
  | post _ _ _ posted =>
      obtain ⟨own, result, -, -, rfl⟩ := Dispatcher.post?_eq_some_iff.mp posted
      exact .inl ⟨rfl, .inl rfl⟩
  | deliver _ atReply next delivered =>
      simp only [Dispatcher.deliver?, atReply, next, Option.some.injEq] at delivered
      subst delivered
      exact .inl ⟨rfl, .inl rfl⟩
  | submit | closeLane | beginLaunch | beginDispose | endDispose | pass | call | orphan
  | beginDisposal | endDisposal | closeLoop =>
      exact .inl ⟨rfl, .inl rfl⟩

/-- A step leaves the file as it is, or the store in memory is written to it. -/
theorem Step.file_cases (step : Step s occurrences t) :
    Unwritten s.dispatcher t.dispatcher ∨
      t.dispatcher.cache.file = s.dispatcher.cache.file.holding s.store := by
  rcases step.write_cases with unended | ended
  · exact .inl unended.unwritten
  · unfold Dispatcher.endWrite? at ended
    split at ended
    next =>
      rcases s.dispatcher.cache.replace_cases s.dispatcher.cache.store with
        written | ⟨failure, failed⟩
      · rw [written] at ended
        rw [← Option.some.inj ended]
        exact .inr rfl
      · rw [failed] at ended
        rw [← Option.some.inj ended]
        exact .inl ⟨rfl, .inr fun same => by cases same⟩
    next => cases ended

/-- Whoever is told that the store was written finds it in the file. -/
def Written (s : System) : Prop :=
  s.dispatcher.write = .ended (.ok ()) →
    ∃ file : CacheFile, s.dispatcher.cache.file = file.holding s.store

theorem Written.step (written : s.Written) (step : Step s occurrences t) : t.Written := by
  intro ended
  have same : t.store = s.store := by
    rcases step.store_cases with kept | ⟨m, program, takes⟩
    · exact kept
    · cases takes.write.symm.trans ended
  rw [same]
  rcases step.file_cases with ⟨file, write | otherwise⟩ | holding
  · rw [file]
    exact written (write ▸ ended)
  · exact absurd ended otherwise
  · exact ⟨_, holding⟩

theorem Written.run (written : s.Written) (run : s.Run trace t) : t.Written := by
  induction run with
  | refl => exact written
  | step _ last inductionHypothesis => exact inductionHypothesis.step last

/-- Whoever is told that a credential was saved has saved it, and finds it in memory and in the
file. -/
theorem RunOf.exists_saved (run : s.RunOf kind t) (orderly : s.Orderly)
    (idle : s.dispatcher.write = .none) {start : System} {clientId : String} {c : Credential}
    {metadata : Option AppMetadata}
    (gets : Gets n start earlier (.saved clientId c metadata (.ok ())) t u) :
    ∃ taken after next, s.RunOf kind taken ∧
      taken.Takes n (.save clientId c metadata next) after ∧ after.RunOf kind t ∧
      after.store = t.store ∧
      ∃ file : CacheFile, t.dispatcher.cache.file = file.holding t.store := by
  obtain ⟨held, ended⟩ := gets.gives
  obtain ⟨job, program, next, found, progress, step⟩ := gets.exists_program
  obtain ⟨taken, after, own, job', early, takes, late, same, found', progress'⟩ :=
    run.exists_takes orderly idle held (by simp [ended])
  obtain rfl := Option.some.inj (found.symm.trans found')
  obtain rfl := Progress.running.inj (progress.symm.trans progress')
  obtain ⟨_, whole⟩ := run.exists_run
  have written : s.Written := fun ended => absurd (idle.symm.trans ended) (by simp)
  cases step with
  | save => exact ⟨taken, after, _, early, takes, late, same, written.run whole ended⟩

end System

/-! ### Commands that nothing keeps from going on -/

section

variable {s t : System} {m : Nat} {dealings : List Dealing} {store : Store}
  {program program' : Program (Except Breakdown Acquisition)}
  {kind : Program (Except Breakdown Acquisition) → Prop} {transport : List TransportAnswer}

/-- A command that goes on alone submits nothing. -/
theorem Goes.runOf (goes : Goes m s dealings program store transport t)
    (stands : Stands m program' s) : s.RunOf kind t := by
  obtain ⟨job, found, -⟩ := stands.exists_job
  have inside := (List.getElem?_eq_some_iff.mp found).1
  obtain ⟨trace, run⟩ := goes.reaches
  have least := run.length_le
  have most : t.dispatcher.jobs.length ≤ s.dispatcher.jobs.length := by
    have none := goes.others s.dispatcher.jobs.length (Nat.ne_of_gt inside)
    rw [List.getElem?_eq_none (Nat.le_refl _)] at none
    exact List.getElem?_eq_none_iff.mp none
  exact run.runOf (Nat.le_antisymm most least)

/-- A silent command starts where nothing is in its way. -/
theorem System.exists_begun (kind : Program (Except Breakdown Acquisition) → Prop)
    (free : s.dispatcher.lock = none) (idle : s.dispatcher.write = .none)
    (writable : s.dispatcher.cache.file.IsWritable) (correlationId : String) (reply : Nat)
    (program : Program (Except Breakdown Acquisition)) :
    ∃ t, (s.submitted .silent correlationId reply program).RunOf kind t ∧
      Stands s.dispatcher.jobs.length program t ∧ t.store = s.store ∧
      t.dispatcher.transport = s.dispatcher.transport := by
  have found :
      (s.submitted .silent correlationId reply program).dispatcher.jobs[s.dispatcher.jobs.length]? =
        some { correlationId, lane := .silent, reply, progress := .opening .queued program } :=
    List.getElem?_concat_length
  have started := Dispatcher.startSilent?_eq_some_iff.mpr ⟨_, program, found, rfl, rfl, rfl⟩
  have atEnd := Dispatcher.getElem?_setJob
    { correlationId, lane := .silent, reply, progress := .running program : Job } found
  exact ⟨_, (RunOf.refl _).move (.step (.startSilent started) (List.length_set ..)),
    ⟨⟨_, atEnd, rfl, rfl⟩, free, idle, writable⟩, rfl, rfl⟩

variable {op : Operation} {bound : Option String} {account : Account} {tokens : TokenResponse}

/-- Tokens whose owner is known are saved. -/
theorem Stands.settles {clientId : String} {requested : List String}
    {told : Authentication → Acquisition}
    (stands : Stands m (op.settling clientId account tokens requested bound told) s)
    (now : UInt64) :
    ∃ t, Goes m s
      [.now now, op.saved clientId account tokens requested now]
      (.done (.ok (told (tokens.handed account requested now bound))))
      (s.store.save clientId (tokens.credential account requested now)
        (some (op.note clientId account tokens))) s.dispatcher.transport t := by
  obtain ⟨late, passes, rfl⟩ := stands.passes now
  obtain ⟨dated, dates⟩ := passes.stands.dates
  obtain ⟨_, _, kept, -, -, -, -, saves⟩ := dates.stands.saves
  have goes := (passes.trans dates).trans saves
  rw [dates.store, dates.transport, passes.store, passes.transport] at goes
  exact ⟨kept, goes⟩

/-- A silent command redeems the refresh token that it finds. -/
theorem Stands.renews {p : SilentParameters} {cached : Credential} {token : Secret}
    {response : HttpResponse} {delay : Nat}
    (stands : Stands m (Operation.supervised (op.silent p bound)) s)
    (forced : p.forceRefresh = true)
    (found : s.store.lookup p.clientId p.account = .found cached)
    (own : cached.refreshToken = some token) (filled : token.isFilled = true)
    (answers : s.dispatcher.transport = .respond response delay :: transport)
    (made : response.tokenResult = .ok (.success tokens))
    (whose : op.renewed p token bound cached tokens = .ok account) (now : UInt64) :
    ∃ t, Goes m s
      [.lookedUp p.clientId p.account (.found cached),
        .posted (op.refreshRequest p token bound) (.respond response delay), .slept delay,
        .now now, op.saved p.clientId account tokens p.scopes now]
      (.done (.ok
        { local? := some (tokens.handed account p.scopes now bound)
          token := some (.success tokens) }))
      (s.store.save p.clientId (tokens.credential account p.scopes now)
        (some (op.note p.clientId account tokens))) transport t := by
  rw [Operation.supervised_silent] at stands
  obtain ⟨looked, looks⟩ := stands.looks
  rw [found, Operation.afterLookup_found forced own filled] at looks
  obtain ⟨given, gets⟩ := looks.stands.asks (looks.transport.trans answers)
  have settling : op.afterRefresh p bound cached token (.ok response) =
      op.settling p.clientId account tokens p.scopes bound fun result =>
        { local? := some result, token := some (.success tokens) } := by
    simp only [Operation.afterRefresh, made, whose, Operation.supervised_renewing]
  rw [settling] at gets
  obtain ⟨kept, settles⟩ := gets.stands.settles now
  have goes := (looks.trans gets).trans settles
  rw [gets.store, gets.transport, looks.store] at goes
  exact ⟨kept, goes⟩

/-- A user who agrees is signed in. -/
theorem System.exists_signedIn {kind : Program (Except Breakdown Acquisition) → Prop}
    {seeds : Seeds} {q : InteractiveParameters} {id : String} {request : AuthorizationRequest}
    {completion : Completion} {redirect : AuthorizationResponse} {tokenRequest : TokenRequest}
    {response : HttpResponse} (own : kind (Operation.supervised (op.interactive q (some id))))
    (built : (op.authorizationDraft q).build seeds (some id) = .ok request)
    (succeeded : completion.result request.state = .ok (.success redirect))
    (asked : op.strategy.tokenRequest request redirect (some id) = .ok tokenRequest)
    (made : response.tokenResult = .ok (.success tokens))
    (whose : op.strategy.account tokenRequest.endpoint tokens = .ok account) (delay : Nat)
    (transport : List TransportAnswer) (now : UInt64) :
    ∃ t result, (System.drawing seeds).RunOf kind t ∧ Stands 0 (.done result) t ∧
      t.store = Store.save {} q.clientId (tokens.credential account q.scopes now)
        (some (op.note q.clientId account tokens)) ∧
      t.dispatcher.transport = transport := by
  rw [Operation.supervised_interactive] at own
  have settling : op.afterToken q (some id) (.success redirect) tokenRequest (.ok response) =
      op.settling q.clientId account tokens q.scopes (some id) fun result =>
        { local? := some result
          authorization := some (.success redirect)
          token := some (.success tokens) } := by
    simp only [Operation.afterToken, made, whose, Operation.supervised_keeping]
  obtain ⟨told, deals, stands, length, store, answers⟩ :=
    exists_told (launching_of_build built) rfl id 0 completion
      (.respond response delay :: transport)
  obtain ⟨_, begun⟩ := deals.exists_run
  have early : (System.drawing seeds).RunOf kind told :=
    ((RunOf.refl _).move (.submit .interactive id 0 own)).trans (begun.runOf length)
  rw [posting_of_success succeeded asked] at stands
  obtain ⟨given, gets⟩ := stands.asks answers
  rw [settling] at gets
  obtain ⟨t, settles⟩ := gets.stands.settles now
  have goes := gets.trans settles
  rw [gets.store, gets.transport, store] at goes
  exact ⟨t, _, early.trans (goes.runOf stands), goes.stands, goes.store, goes.transport⟩

end

end TokenAcquisition.Dispatch
