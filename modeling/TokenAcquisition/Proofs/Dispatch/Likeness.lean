import TokenAcquisition.Dispatch.Scheduler
import TokenAcquisition.Proofs.Program.Likeness

/-!
Dispatchers of silent commands that differ in the texts of tokens and in correlation ids only.  They
go the same way step by step: what one of them does the other does too, and what is seen of them
differs in no more than that.
-/

namespace TokenAcquisition.Dispatch

variable {id otherId : String}

/-! ### Commands -/

inductive Progress.Alike (id otherId : String) : Progress → Progress → Prop where
  | opening (stage) {program other} : program.Alike id otherId other →
      Alike id otherId (.opening stage program) (.opening stage other)
  | running {program other} : program.Alike id otherId other →
      Alike id otherId (.running program) (.running other)
  | closing (stage) {result other} : ResultsAlike id otherId result other →
      Alike id otherId (.closing stage result) (.closing stage other)

structure Job.Alike (id otherId : String) (job other : Job) : Prop where
  correlationId : job.correlationId = id
  otherCorrelationId : other.correlationId = otherId
  lane : job.lane = .silent
  otherLane : other.lane = .silent
  reply : other.reply = job.reply
  deadline : other.deadline = job.deadline
  progress : job.progress.Alike id otherId other.progress

namespace Job.Alike

variable {job other : Job}

theorem moved (alike : job.Alike id otherId other) {progress otherProgress : Progress}
    (same : progress.Alike id otherId otherProgress) :
    (job.moved progress).Alike id otherId (other.moved otherProgress) :=
  { alike with progress := same }

theorem opening? (alike : job.Alike id otherId other) (stage : Opening) :
    Option.Rel (Program.Alike id otherId) (job.opening? stage) (other.opening? stage) := by
  have progress := alike.progress
  unfold Job.opening?
  generalize job.progress = own at progress
  generalize other.progress = another at progress
  cases progress with
  | opening reached same =>
      dsimp only
      split
      · exact .some same
      · exact .none
  | running | closing => exact .none

theorem closing? (alike : job.Alike id otherId other) (stage : Closing) :
    Option.Rel (ResultsAlike id otherId) (job.closing? stage) (other.closing? stage) := by
  have progress := alike.progress
  unfold Job.closing?
  generalize job.progress = own at progress
  generalize other.progress = another at progress
  cases progress with
  | closing reached same =>
      dsimp only
      split
      · exact .some same
      · exact .none
  | running | opening => exact .none

theorem outcome (alike : job.Alike id otherId other) {result otherResult}
    (same : ResultsAlike id otherId result otherResult) :
    (job.outcome result).Alike id otherId (other.outcome otherResult) := by
  rw [Job.outcome, Job.outcome, alike.correlationId, alike.otherCorrelationId]
  exact same

end Job.Alike

theorem Dispatcher.needsCache_of_alike {program other : Program (Except Breakdown Acquisition)}
    (alike : program.Alike id otherId other) : needsCache other = needsCache program := by
  cases alike <;> rfl

/-! ### Dispatchers -/

structure Delivery.Alike (id otherId : String) (delivery other : Delivery) : Prop where
  job : other.job = delivery.job
  outcome : delivery.outcome.Alike id otherId other.outcome

structure LoopsAlike (id otherId : String) (loop other : ReplyLoop Delivery) : Prop where
  waiting : List.Forall₂ (Delivery.Alike id otherId) loop.waiting other.waiting
  senders : other.senders = loop.senders
  isOpen : other.isOpen = loop.isOpen

/-- Requests that are posted may differ: they carry tokens. -/
inductive Event.Alike (id otherId : String) : Event → Event → Prop where
  | post (request other) : Alike id otherId (.deed (.post request)) (.deed (.post other))
  | delivered {delivery other : Delivery} : delivery.Alike id otherId other →
      Alike id otherId (.delivered delivery) (.delivered other)

structure Dispatcher.Alike (id otherId : String) (d other : Dispatcher) : Prop where
  clock : other.clock = d.clock
  now : other.now = d.now
  cache : d.cache.Alike other.cache
  lock : other.lock = d.lock
  write : other.write = d.write
  transport : other.transport = d.transport
  jobs : List.Forall₂ (Job.Alike id otherId) d.jobs other.jobs
  idle : d.current = none
  otherIdle : other.current = none
  replies : List.Forall₂ (LoopsAlike id otherId) d.replies other.replies
  events : List.Forall₂ (Event.Alike id otherId) d.events other.events

theorem LoopsAlike.post {loop other : ReplyLoop Delivery} (alike : LoopsAlike id otherId loop other)
    {delivery otherDelivery : Delivery} (same : delivery.Alike id otherId otherDelivery) :
    LoopsAlike id otherId (loop.post delivery) (other.post otherDelivery) := by
  unfold ReplyLoop.post
  rw [alike.isOpen, alike.senders]
  split
  · exact ⟨List.rel_append alike.waiting (.cons same .nil), rfl, rfl⟩
  · exact alike

/-- Silent commands are not started in turn. -/
theorem Dispatcher.startInteractive?_eq_none {d : Dispatcher}
    (silent : ∀ job ∈ d.jobs, job.lane = .silent) : d.startInteractive? = none := by
  have nobody : d.nextInteractive? = none := by
    refine List.findIdx?_eq_none_iff.mpr fun job member => ?_
    simp [silent job member]
  rw [startInteractive?, receive?, nobody]
  split <;> rfl

namespace Dispatcher.Alike

variable {d other : Dispatcher} {job otherJob : Job}
  {program otherProgram : Program (Except Breakdown Acquisition)}

theorem jobAt (alike : d.Alike id otherId other) (n : Nat) :
    Option.Rel (Job.Alike id otherId) d.jobs[n]? other.jobs[n]? :=
  forall₂_getElem? alike.jobs n

theorem setJob (alike : d.Alike id otherId other) (n : Nat)
    (same : job.Alike id otherId otherJob) :
    (d.setJob n job).Alike id otherId (other.setJob n otherJob) :=
  { alike with jobs := forall₂_set alike.jobs n same }

theorem resume (alike : d.Alike id otherId other) (n : Nat) (same : job.Alike id otherId otherJob)
    (programs : program.Alike id otherId otherProgram) :
    (d.resume n job program).Alike id otherId (other.resume n otherJob otherProgram) :=
  alike.setJob n { same with deadline := rfl, progress := .running programs }

theorem locked (alike : d.Alike id otherId other) (lock : Option Nat) :
    Alike id otherId { d with lock } { other with lock } :=
  { alike with lock := rfl }

theorem written (alike : d.Alike id otherId other) (write : Write) :
    Alike id otherId { d with write } { other with write } :=
  { alike with write := rfl }

theorem supplied (alike : d.Alike id otherId other) (transport : List TransportAnswer) :
    Alike id otherId { d with transport } { other with transport } :=
  { alike with transport := rfl }

theorem logged (alike : d.Alike id otherId other) {event otherEvent : Event}
    (same : event.Alike id otherId otherEvent) :
    (d.log [event]).Alike id otherId (other.log [otherEvent]) :=
  { alike with events := .cons same alike.events }

theorem posted (alike : d.Alike id otherId other) (n : Nat) (same : job.Alike id otherId otherJob)
    {outcome otherOutcome : Outcome} (outcomes : outcome.Alike id otherId otherOutcome) :
    (d.post n job outcome).Alike id otherId (other.post n otherJob otherOutcome) := by
  unfold Dispatcher.post
  rw [same.reply]
  have deliveries : Delivery.Alike id otherId ⟨n, outcome⟩ ⟨n, otherOutcome⟩ := ⟨rfl, outcomes⟩
  exact { alike with
    replies := forall₂_modify alike.replies job.reply fun loops => loops.post deliveries }

theorem startInteractive? (alike : d.Alike id otherId other) :
    d.startInteractive? = none ∧ other.startInteractive? = none := by
  have silent := forall_of_forall₂ alike.jobs Job.Alike.lane
  have otherSilent := forall_of_forall₂ alike.jobs.flip Job.Alike.otherLane
  exact ⟨startInteractive?_eq_none silent, startInteractive?_eq_none otherSilent⟩

theorem startSilent? (alike : d.Alike id otherId other) (n : Nat) :
    Option.Rel (Alike id otherId) (d.startSilent? n) (other.startSilent? n) := by
  refine optionRel_bind (alike.jobAt n) fun {job otherJob} same => ?_
  rw [if_pos same.lane, if_pos same.otherLane]
  exact optionRel_bind (same.opening? .queued) fun programs =>
    .some (alike.setJob n (same.moved (.running programs)))

theorem record? (alike : d.Alike id otherId other) (n : Nat) :
    Option.Rel (Alike id otherId) (d.record? n) (other.record? n) := by
  refine optionRel_bind (alike.jobAt n) fun {job otherJob} same => ?_
  rw [same.lane, same.otherLane]
  refine optionRel_bind (same.closing? _) fun results => .some ?_
  exact { alike.setJob n (same.moved (.closing .recorded results)) with }

theorem post? (alike : d.Alike id otherId other) (n : Nat) :
    Option.Rel (Alike id otherId) (d.post? n) (other.post? n) := by
  refine optionRel_bind (alike.jobAt n) fun {job otherJob} same => ?_
  refine optionRel_bind (same.closing? .recorded) fun results => .some ?_
  have moved := alike.setJob n (same.moved (.closing .posted results))
  have left : ((d.setJob n (job.moved (.closing .posted _))).leave n).Alike id otherId
      ((other.setJob n (otherJob.moved (.closing .posted _))).leave n) :=
    { moved with
      idle := by rw [leave, moved.idle]; rfl
      otherIdle := by rw [leave, moved.otherIdle]; rfl }
  exact left.posted n same (same.outcome results)

theorem finish? (alike : d.Alike id otherId other) (n : Nat) :
    Option.Rel (Alike id otherId) (d.finish? n) (other.finish? n) := by
  refine optionRel_bind (alike.jobAt n) fun {job otherJob} same => ?_
  rw [same.lane, same.otherLane]
  exact optionRel_bind (.some alike) fun alike =>
    optionRel_bind (alike.record? n) fun alike => alike.post? n

theorem acquire? (alike : d.Alike id otherId other) (n : Nat) :
    Option.Rel (Alike id otherId) (d.acquire? n) (other.acquire? n) := by
  unfold Dispatcher.acquire?
  rw [alike.lock]
  cases d.lock with
  | some => exact .none
  | none =>
      rcases optionRel_cases (alike.jobAt n) with
        ⟨absent, absentToo⟩ | ⟨job, otherJob, own, ownToo, same⟩
      · rw [absent, absentToo]
        exact .none
      · rw [own, ownToo]
        dsimp only
        have progress := same.progress
        generalize job.progress = reached at progress
        generalize otherJob.progress = otherReached at progress
        cases progress with
        | running programs =>
            dsimp only
            rw [needsCache_of_alike programs]
            split
            · exact .some (alike.locked (some n))
            · exact .none
        | opening | closing => exact .none

/-- The holder of the lock changes both stores, or none has anything to change. -/
theorem change? (alike : d.Alike id otherId other) (n : Nat) (same : job.Alike id otherId otherJob)
    {store otherStore : Option Store} (stores : Option.Rel Store.Alike store otherStore)
    {next otherNext : Except Failure Unit → Program (Except Breakdown Acquisition)}
    (nexts : ∀ answer, (next answer).Alike id otherId (otherNext answer)) :
    Option.Rel (Alike id otherId) (d.change? n job store next)
      (other.change? n otherJob otherStore otherNext) := by
  unfold Dispatcher.change?
  rw [alike.lock, alike.write]
  split
  · exact .none
  · cases d.write with
    | underWay => exact .none
    | ended result =>
        exact .some (((alike.written .none).locked none).resume n same (nexts result))
    | none =>
        cases stores with
        | none =>
            exact .some (((alike.written .none).locked none).resume n same (nexts (.ok ())))
        | some related =>
            have cache : Cache.Alike { d.cache with store := _ } { other.cache with store := _ } :=
              ⟨related, alike.cache.file⟩
            exact .some { alike.written .underWay with cache, lock := rfl }

theorem endWrite? (alike : d.Alike id otherId other) :
    Option.Rel (Alike id otherId) d.endWrite? other.endWrite? := by
  unfold Dispatcher.endWrite?
  rw [alike.write]
  cases d.write with
  | none | ended => exact .none
  | underWay =>
      obtain ⟨told, cache⟩ := alike.cache.replace alike.cache.store
      dsimp only
      rw [told]
      exact .some { alike.written (.ended _) with cache }

theorem advance? (alike : d.Alike id otherId other) (n : Nat) :
    Option.Rel (Alike id otherId) (d.advance? n) (other.advance? n) := by
  unfold Dispatcher.advance?
  rcases optionRel_cases (alike.jobAt n) with
    ⟨absent, absentToo⟩ | ⟨job, otherJob, own, ownToo, same⟩
  · rw [absent, absentToo]
    exact .none
  rw [own, ownToo]
  dsimp only
  have progress := same.progress
  generalize job.progress = reached at progress
  generalize otherJob.progress = otherReached at progress
  cases progress with
  | opening | closing => exact .none
  | running programs =>
      cases programs with
      | done results => exact .some (alike.setJob n (same.moved (.closing .ended results)))
      | now nexts =>
          dsimp only
          rw [alike.now]
          exact .some (alike.resume n same (nexts d.now))
      | sleep milliseconds next =>
          dsimp only
          rw [same.deadline, alike.clock]
          cases job.deadline with
          | none =>
              refine .some (alike.setJob n { same with deadline := rfl, progress := ?_ })
              exact .running (.sleep milliseconds next)
          | some deadline =>
              dsimp only
              split
              · exact .some (alike.resume n same next)
              · exact .none
      | lookup clientId account nexts =>
          dsimp only
          rw [alike.lock]
          split
          · have answers := alike.cache.store.lookup clientId account
            exact .some ((alike.locked none).resume n same (nexts answers))
          · exact .none
      | save clientId credential metadata nexts =>
          have stores := alike.cache.store.save clientId credential metadata
          exact alike.change? n same (.some stores) nexts
      | invalidate clientId account nexts =>
          exact alike.change? n same (alike.cache.store.invalidate? clientId account) nexts
      | post request otherRequest nexts =>
          dsimp only
          rw [alike.transport]
          refine .some (((alike.supplied _).logged (.post request otherRequest)).resume n same ?_)
          cases (TransportAnswer.next d.transport).1 with
          | respond response delay => exact .sleep delay (nexts (.ok response))
          | fail failure delay => exact .sleep delay (nexts (.error failure))
          | panic message delay => exact .sleep delay (.done (resultsAlike_error id otherId _))

theorem deliver? (alike : d.Alike id otherId other) (reply : Nat) :
    Option.Rel (Alike id otherId) (d.deliver? reply) (other.deliver? reply) := by
  unfold Dispatcher.deliver?
  rcases optionRel_cases (forall₂_getElem? alike.replies reply) with
    ⟨absent, absentToo⟩ | ⟨loop, otherLoop, own, ownToo, same⟩
  · rw [absent, absentToo]
    exact .none
  rw [own, ownToo]
  obtain ⟨waiting, _, _⟩ := loop
  obtain ⟨otherWaiting, senders, isOpen⟩ := otherLoop
  obtain ⟨deliveries, rfl, rfl⟩ := same
  cases isOpen with
  | false => exact .none
  | true =>
      cases deliveries with
      | nil => cases senders <;> exact .none
      | cons first rest =>
          have rests : LoopsAlike id otherId { waiting := _, senders, isOpen := true }
              { waiting := _, senders, isOpen := true } := ⟨rest, rfl, rfl⟩
          have taken : Alike id otherId { d with replies := d.replies.set reply _ }
              { other with replies := other.replies.set reply _ } :=
            { alike with replies := forall₂_set alike.replies reply rests }
          exact .some (taken.logged (.delivered first))

/-- No silent command is refused. -/
theorem tell? (alike : d.Alike id otherId other) (n : Nat) :
    Option.Rel (Alike id otherId) (d.tell? n) (other.tell? n) := by
  refine optionRel_bind (alike.jobAt n) fun {job otherJob} same => ?_
  have progress := same.progress
  unfold Job.isUntold
  generalize job.progress = reached at progress
  generalize otherJob.progress = otherReached at progress
  cases progress <;> exact .none

theorem submit (alike : d.Alike id otherId other) (reply : Nat)
    (programs : program.Alike id otherId otherProgram) :
    (d.submit .silent id reply program).Alike id otherId
      (other.submit .silent otherId reply otherProgram) := by
  have job : Job.Alike id otherId
      { correlationId := id, lane := .silent, reply, progress := .opening .queued program }
      { correlationId := otherId, lane := .silent, reply,
        progress := .opening .queued otherProgram } :=
    ⟨rfl, rfl, rfl, rfl, rfl, rfl, .opening .queued programs⟩
  have taken : (d.enqueue .silent id reply program).Alike id otherId
      (other.enqueue .silent otherId reply otherProgram) :=
    { alike with jobs := List.rel_append alike.jobs (.cons job .nil) }
  unfold Dispatcher.submit
  dsimp only
  rw [← alike.jobs.length_eq]
  rcases optionRel_cases (taken.tell? d.jobs.length) with
    ⟨silent, silentToo⟩ | ⟨_, _, told, toldToo, same⟩
  · rw [silent, silentToo]
    exact taken
  · rw [told, toldToo]
    exact same

end Dispatcher.Alike

/-! ### Schedulers -/

structure Scheduler.Alike (id otherId : String) (s other : Scheduler) : Prop where
  dispatcher : s.dispatcher.Alike id otherId other.dispatcher
  ready : other.ready = s.ready
  timed : other.timed = s.timed
  cacheQueue : other.cacheQueue = s.cacheQueue
  autoReply : other.autoReply = s.autoReply

namespace Scheduler.Alike

variable {s other : Scheduler}

theorem jobAt (alike : s.Alike id otherId other) (n : Nat) :
    Option.Rel (Job.Alike id otherId) (s.job? n) (other.job? n) :=
  alike.dispatcher.jobAt n

theorem withDispatcher (alike : s.Alike id otherId other) {d otherD : Dispatcher}
    (dispatcher : d.Alike id otherId otherD) :
    Alike id otherId { s with dispatcher := d } { other with dispatcher := otherD } :=
  { alike with dispatcher }

theorem wake (alike : s.Alike id otherId other) (task : Task) :
    (s.wake task).Alike id otherId (other.wake task) := by
  unfold Scheduler.wake
  rw [alike.ready]
  split
  · exact alike
  · exact { alike with ready := rfl }

theorem wakeWatcher (alike : s.Alike id otherId other) (n : Nat) :
    (s.wakeWatcher n).Alike id otherId (other.wakeWatcher n) := by
  unfold Scheduler.wakeWatcher
  rcases optionRel_cases (alike.jobAt n) with
    ⟨absent, absentToo⟩ | ⟨job, otherJob, own, ownToo, same⟩
  · rw [absent, absentToo]
    exact alike
  · rw [own, ownToo]
    dsimp only
    rw [same.lane, same.otherLane]
    exact alike.wake _

theorem wakeReply (alike : s.Alike id otherId other) (n : Nat) :
    (s.wakeReply n).Alike id otherId (other.wakeReply n) := by
  unfold Scheduler.wakeReply
  rcases optionRel_cases (alike.jobAt n) with
    ⟨absent, absentToo⟩ | ⟨job, otherJob, own, ownToo, same⟩
  · rw [absent, absentToo]
    exact alike
  · rw [own, ownToo]
    dsimp only
    rw [same.reply, alike.autoReply]
    split
    · exact alike.wake _
    · exact alike

theorem handOver (alike : s.Alike id otherId other) :
    s.handOver.Alike id otherId other.handOver := by
  unfold Scheduler.handOver
  rw [alike.dispatcher.lock, alike.cacheQueue]
  cases s.dispatcher.lock with
  | some => exact alike
  | none =>
      cases s.cacheQueue with
      | nil => exact alike
      | cons n rest =>
          dsimp only
          rcases optionRel_cases (alike.dispatcher.acquire? n) with
            ⟨held, heldToo⟩ | ⟨d, otherD, acquired, acquiredToo, dispatcher⟩
          · rw [held, heldToo]
            exact { alike with cacheQueue := rfl }
          · rw [acquired, acquiredToo]
            have handed : Alike id otherId { s with dispatcher := d, cacheQueue := rest }
                { other with dispatcher := otherD, cacheQueue := rest } :=
              { alike with dispatcher, cacheQueue := rfl }
            exact handed.wake (.work n)

theorem deadline (alike : s.Alike id otherId other) (n : Nat) :
    (other.job? n).bind Job.deadline = (s.job? n).bind Job.deadline := by
  rcases optionRel_cases (alike.jobAt n) with
    ⟨absent, absentToo⟩ | ⟨job, otherJob, own, ownToo, same⟩
  · rw [absent, absentToo]
  · rw [own, ownToo]
    exact same.deadline

theorem noteWait (alike : s.Alike id otherId other) (n : Nat) :
    (s.noteWait n).Alike id otherId (other.noteWait n) := by
  unfold Scheduler.noteWait
  rw [alike.deadline, alike.timed]
  split
  · exact { alike with timed := rfl }
  split
  · exact alike
  · exact { alike with timed := rfl }

/-- Work that cannot go on waits for its time or asks for the cache. -/
theorem runWork_waiting (alike : s.Alike id otherId other) (fuel n : Nat)
    (waits : s.dispatcher.advance? n = none) (waitsToo : other.dispatcher.advance? n = none)
    (held : s.dispatcher.acquire? n = none) (heldToo : other.dispatcher.acquire? n = none) :
    (Scheduler.runWork (fuel + 1) n s).Alike id otherId
      (Scheduler.runWork (fuel + 1) n other) := by
  unfold Scheduler.runWork
  rw [waits, waitsToo]
  dsimp only
  rw [held, heldToo]
  rcases optionRel_cases (alike.jobAt n) with
    ⟨absent, absentToo⟩ | ⟨job, otherJob, own, ownToo, same⟩
  · rw [absent, absentToo]
    exact alike
  · rw [own, ownToo, Option.map_some, Option.map_some]
    have progress := same.progress
    generalize job.progress = reached at progress
    generalize otherJob.progress = otherReached at progress
    cases progress with
    | opening | closing => exact alike
    | running programs =>
        dsimp only
        rw [Dispatcher.needsCache_of_alike programs, alike.dispatcher.lock, alike.cacheQueue]
        split
        · exact { alike with cacheQueue := rfl }
        · exact alike

theorem runWork (fuel n : Nat) {s other : Scheduler} (alike : s.Alike id otherId other) :
    (Scheduler.runWork fuel n s).Alike id otherId (Scheduler.runWork fuel n other) := by
  -- At each step both go on, both take the cache, or both wait.
  induction fuel generalizing s other with
  | zero => exact alike
  | succ fuel inductionHypothesis =>
      rcases optionRel_cases (alike.dispatcher.advance? n) with
        ⟨waits, waitsToo⟩ | ⟨d, otherD, goesOn, goesOnToo, dispatcher⟩
      · rcases optionRel_cases (alike.dispatcher.acquire? n) with
          ⟨held, heldToo⟩ | ⟨d, otherD, acquired, acquiredToo, dispatcher⟩
        · exact alike.runWork_waiting fuel n waits waitsToo held heldToo
        · unfold Scheduler.runWork
          rw [waits, waitsToo]
          dsimp only
          rw [acquired, acquiredToo]
          exact inductionHypothesis (alike.withDispatcher dispatcher)
      · unfold Scheduler.runWork
        rw [goesOn, goesOnToo]
        have going := ((alike.withDispatcher dispatcher).noteWait n).handOver
        rcases optionRel_cases (going.jobAt n) with
          ⟨absent, absentToo⟩ | ⟨job, otherJob, own, ownToo, same⟩
        · dsimp only
          rw [absent, absentToo]
          exact inductionHypothesis going
        · dsimp only
          rw [own, ownToo, Option.map_some, Option.map_some]
          have progress := same.progress
          generalize job.progress = reached at progress
          generalize otherJob.progress = otherReached at progress
          cases progress with
          | opening | running => exact inductionHypothesis going
          | closing stage =>
              cases stage with
              | ended => exact going.wakeWatcher n
              | unregistered | disposed | recorded | posted => exact inductionHypothesis going

theorem finish (alike : s.Alike id otherId other) (n : Nat) :
    (s.finish n).Alike id otherId (other.finish n) := by
  unfold Scheduler.finish
  rcases optionRel_cases (alike.dispatcher.finish? n) with
    ⟨open_, openToo⟩ | ⟨d, otherD, finished, finishedToo, dispatcher⟩
  · rw [open_, openToo]
    exact alike
  · rw [finished, finishedToo]
    exact (alike.withDispatcher dispatcher).wakeReply n

/-- What keeps two schedulers alike does so when it is done again and again. -/
theorem foldl {α : Type} {turn : Scheduler → α → Scheduler}
    (keeps : ∀ {s other} (entry : α), s.Alike id otherId other →
      (turn s entry).Alike id otherId (turn other entry))
    (entries : List α) {s other : Scheduler} (alike : s.Alike id otherId other) :
    (entries.foldl turn s).Alike id otherId (entries.foldl turn other) := by
  induction entries generalizing s other with
  | nil => exact alike
  | cons entry _ inductionHypothesis => exact inductionHypothesis (keeps entry alike)

theorem runReply (alike : s.Alike id otherId other) (reply : Nat) :
    (s.runReply reply).Alike id otherId (other.runReply reply) := by
  have count : (other.dispatcher.replies[reply]?).map (fun loop => loop.waiting.length) =
      (s.dispatcher.replies[reply]?).map fun loop => loop.waiting.length := by
    rcases optionRel_cases (forall₂_getElem? alike.dispatcher.replies reply) with
      ⟨absent, absentToo⟩ | ⟨loop, otherLoop, own, ownToo, same⟩
    · rw [absent, absentToo]
    · rw [own, ownToo, Option.map_some, Option.map_some, same.waiting.length_eq]
  unfold Scheduler.runReply
  dsimp only
  rw [count]
  refine foldl (fun {s other} _ alike => ?_) _ alike
  rcases optionRel_cases (alike.dispatcher.deliver? reply) with
    ⟨nothing, nothingToo⟩ | ⟨d, otherD, delivered, deliveredToo, dispatcher⟩
  · rw [nothing, nothingToo]
    exact alike
  · rw [delivered, deliveredToo]
    exact alike.withDispatcher dispatcher

theorem poll (alike : s.Alike id otherId other) (task : Task) :
    (s.poll task).Alike id otherId (other.poll task) := by
  cases task with
  | lane =>
      obtain ⟨nothing, nothingToo⟩ := alike.dispatcher.startInteractive?
      simp only [Scheduler.poll, alike.dispatcher.idle, alike.dispatcher.otherIdle, nothing,
        nothingToo]
      exact alike
  | runner n =>
      unfold Scheduler.poll
      dsimp only
      rcases optionRel_cases (alike.dispatcher.startSilent? n) with
        ⟨begun, begunToo⟩ | ⟨d, otherD, starts, startsToo, dispatcher⟩
      · rw [begun, begunToo]
        exact alike.finish n
      · rw [starts, startsToo]
        exact (alike.withDispatcher dispatcher).wake _
  | work n => exact runWork workSteps n alike
  | reply n => exact alike.runReply n

theorem endWrite? (alike : s.Alike id otherId other) :
    Option.Rel (Alike id otherId) s.endWrite? other.endWrite? := by
  unfold Scheduler.endWrite?
  rw [alike.dispatcher.lock]
  rcases optionRel_cases alike.dispatcher.endWrite? with
    ⟨idle, idleToo⟩ | ⟨d, otherD, ended, endedToo, dispatcher⟩
  · rw [idle, idleToo]
    exact .none
  · rw [ended, endedToo]
    cases s.dispatcher.lock with
    | none => exact .none
    | some n => exact .some ((alike.withDispatcher dispatcher).wake _)

theorem runReady (fuel : Nat) {s other : Scheduler} (alike : s.Alike id otherId other) :
    (Scheduler.runReady fuel s).Alike id otherId (Scheduler.runReady fuel other) := by
  induction fuel generalizing s other with
  | zero => exact alike
  | succ fuel inductionHypothesis =>
      unfold Scheduler.runReady
      rw [alike.ready]
      cases s.ready with
      | cons task rest =>
          have taken : Alike id otherId { s with ready := rest } { other with ready := rest } :=
            { alike with ready := rfl }
          exact inductionHypothesis (taken.poll task)
      | nil =>
          dsimp only
          rcases optionRel_cases alike.endWrite? with
            ⟨idle, idleToo⟩ | ⟨after, otherAfter, ended, endedToo, same⟩
          · rw [idle, idleToo]
            exact alike
          · rw [ended, endedToo]
            exact inductionHypothesis same

theorem run (alike : s.Alike id otherId other) : s.run.Alike id otherId other.run := by
  have turns : other.turns = s.turns := by
    rw [Scheduler.turns, Scheduler.turns, alike.dispatcher.jobs.length_eq]
  rw [Scheduler.run, Scheduler.run, turns]
  exact runReady s.turns alike

theorem moveTo (alike : s.Alike id otherId other) (time : Nat) :
    (s.moveTo time).Alike id otherId (other.moveTo time) := by
  have due : other.dueBy time = s.dueBy time := by
    simp only [Scheduler.dueBy, alike.timed, alike.deadline]
  have clock : { s.dispatcher with clock := time }.Alike id otherId
      { other.dispatcher with clock := time } :=
    { alike.dispatcher with clock := rfl }
  have moved := alike.withDispatcher clock
  rw [Scheduler.moveTo, Scheduler.moveTo, due]
  exact foldl (fun n alike => alike.wake (.work n)) (s.dueBy time) moved

theorem nextDeadline? (alike : s.Alike id otherId other) :
    other.nextDeadline? = s.nextDeadline? := by
  simp only [Scheduler.nextDeadline?, alike.timed, alike.deadline, alike.dispatcher.clock]

theorem submit (alike : s.Alike id otherId other) (reply : Nat)
    {program otherProgram : Program (Except Breakdown Acquisition)}
    (programs : program.Alike id otherId otherProgram) :
    (s.submit .silent id reply program).Alike id otherId
      (other.submit .silent otherId reply otherProgram) := by
  have submitted := alike.withDispatcher (alike.dispatcher.submit reply programs)
  unfold Scheduler.submit
  dsimp only
  rw [← alike.dispatcher.jobs.length_eq]
  exact submitted.wake _

end Scheduler.Alike

end TokenAcquisition.Dispatch
