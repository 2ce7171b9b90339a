import TokenAcquisition.Dispatch.Scheduler
import TokenAcquisition.Proofs.Dispatch.Whole

/-!
The schedule of one thread.  Whatever a scheduler does with a dispatcher is among the things that
can go on around it, so all that holds whatever goes on holds for what the scheduler comes to.
-/

namespace TokenAcquisition.Dispatch.Scheduler

variable {s t u : Scheduler}

/-- While there is a lane, the dispatcher of one can come to that of the other. -/
def Comes (s t : Scheduler) : Prop :=
  s.dispatcher.laneIsOpen = true → s.dispatcher.Comes t.dispatcher

namespace Comes

theorem refl (s : Scheduler) : s.Comes s :=
  fun _ => .refl _

theorem trans (first : s.Comes t) (second : t.Comes u) : s.Comes u := by
  intro isOpen
  have along := first isOpen
  exact along.trans (second (along.1.trans isOpen))

theorem of_eq (same : t.dispatcher = s.dispatcher) : s.Comes t := by
  intro _
  rw [same]
  exact .refl _

theorem of_dispatcher {d : Dispatcher} (comes : s.dispatcher.Comes d) :
    s.Comes { s with dispatcher := d } :=
  fun _ => comes

end Comes

/-! ### Who can go on -/

@[simp]
theorem dispatcher_wake (s : Scheduler) (task : Task) :
    (s.wake task).dispatcher = s.dispatcher := by
  unfold wake
  split <;> rfl

@[simp]
theorem dispatcher_wakeWatcher (s : Scheduler) (n : Nat) :
    (s.wakeWatcher n).dispatcher = s.dispatcher := by
  unfold wakeWatcher
  split
  · exact s.dispatcher_wake _
  · rfl

@[simp]
theorem dispatcher_wakeReply (s : Scheduler) (n : Nat) :
    (s.wakeReply n).dispatcher = s.dispatcher := by
  unfold wakeReply
  split
  · split
    · exact s.dispatcher_wake _
    · rfl
  · rfl

@[simp]
theorem dispatcher_noteWait (s : Scheduler) (n : Nat) :
    (s.noteWait n).dispatcher = s.dispatcher := by
  unfold noteWait
  split
  · rfl
  · split <;> rfl

theorem Comes.wake (comes : s.Comes t) (task : Task) : s.Comes (t.wake task) :=
  comes.trans (.of_eq (t.dispatcher_wake task))

theorem comes_handOver (s : Scheduler) : s.Comes s.handOver := by
  unfold handOver
  split
  next n rest _ _ =>
    split
    next d acquired =>
      exact Comes.wake (t := { s with dispatcher := d, cacheQueue := rest })
        (fun _ => Dispatcher.comes_acquire? acquired) _
    next => exact .of_eq rfl
  next => exact .refl s

/-! ### Turns -/

theorem comes_runWork (fuel n : Nat) (s : Scheduler) : s.Comes (runWork fuel n s) := by
  induction fuel generalizing s with
  | zero => exact .refl s
  | succ fuel inductionHypothesis =>
      rw [runWork]
      split
      next d advanced =>
        have moved : s.Comes { s with dispatcher := d } :=
          .of_dispatcher (Dispatcher.comes_advance? advanced)
        have noted := moved.trans (.of_eq (dispatcher_noteWait _ n))
        have handed := noted.trans (comes_handOver _)
        dsimp only
        split
        next => exact handed.trans (.of_eq (dispatcher_wakeWatcher _ n))
        next => exact handed.trans (inductionHypothesis _)
      next =>
        split
        next d acquired =>
          have moved : s.Comes { s with dispatcher := d } :=
            .of_dispatcher (Dispatcher.comes_acquire? acquired)
          exact moved.trans (inductionHypothesis _)
        next =>
          split
          next =>
            split
            · exact .of_eq rfl
            · exact .refl s
          next => exact .refl s

theorem comes_finish (s : Scheduler) (n : Nat) : s.Comes (s.finish n) := by
  unfold finish
  split
  next d finished =>
    have moved : s.Comes { s with dispatcher := d } :=
      fun isOpen => Dispatcher.comes_finish? isOpen finished
    exact moved.trans (.of_eq (dispatcher_wakeReply _ n))
  next => exact .refl s

theorem comes_deliver (s : Scheduler) (reply : Nat) : s.Comes (s.deliver reply).2 := by
  unfold deliver
  split
  next d delivered => exact .of_dispatcher (Dispatcher.comes_deliver? delivered)
  next => exact .refl s

theorem comes_foldl {α : Type} {f : Scheduler → α → Scheduler}
    (each : ∀ (s : Scheduler) (a : α), s.Comes (f s a))
    (l : List α) (s : Scheduler) : s.Comes (l.foldl f s) := by
  induction l generalizing s with
  | nil => exact .refl s
  | cons a rest inductionHypothesis => exact (each s a).trans (inductionHypothesis _)

theorem comes_runReply (s : Scheduler) (reply : Nat) : s.Comes (s.runReply reply) := by
  refine comes_foldl (fun s _ => ?_) _ s
  split
  next d delivered => exact .of_dispatcher (Dispatcher.comes_deliver? delivered)
  next => exact .refl s

theorem comes_startInteractive (s : Scheduler) :
    s.Comes
      (match s.dispatcher.startInteractive? with
      | some dispatcher =>
          let s : Scheduler := { s with dispatcher }
          match dispatcher.current with
          | some n => s.wake (.work n)
          | none => s
      | none => s) := by
  split
  next d started =>
    have moved : s.Comes { s with dispatcher := d } :=
      fun isOpen => Dispatcher.comes_startInteractive? isOpen started
    dsimp only
    split
    next => exact moved.wake _
    next => exact moved
  next => exact .refl s

theorem comes_poll (s : Scheduler) (task : Task) : s.Comes (s.poll task) := by
  cases task with
  | lane =>
      cases current : s.dispatcher.current with
      | some n =>
          simp only [poll, current]
          exact (s.comes_finish n).trans (comes_startInteractive _)
      | none =>
          simp only [poll, current]
          exact comes_startInteractive s
  | runner n =>
      rw [poll]
      split
      next d started =>
        have moved : s.Comes { s with dispatcher := d } :=
          .of_dispatcher (Dispatcher.comes_startSilent? started)
        exact moved.wake _
      next => exact s.comes_finish n
  | work n => exact comes_runWork workSteps n s
  | reply n => exact s.comes_runReply n

theorem comes_runTasks (s : Scheduler) (fuel : Nat) : s.Comes (s.runTasks fuel) := by
  induction fuel generalizing s with
  | zero => exact .refl s
  | succ fuel inductionHypothesis =>
      rw [runTasks]
      split
      next task rest _ =>
        have taken : s.Comes { s with ready := rest } := .of_eq rfl
        exact (taken.trans (comes_poll _ task)).trans (inductionHypothesis _)
      next => exact .refl s

theorem comes_endWrite? (ended : s.endWrite? = some t) : s.Comes t := by
  unfold endWrite? at ended
  split at ended
  next d n written _ =>
    obtain rfl := Option.some.inj ended
    have moved : s.Comes { s with dispatcher := d } :=
      .of_dispatcher (Dispatcher.comes_endWrite? written)
    exact moved.wake _
  next => cases ended

theorem comes_runReady (fuel : Nat) (s : Scheduler) : s.Comes (runReady fuel s) := by
  induction fuel generalizing s with
  | zero => exact .refl s
  | succ fuel inductionHypothesis =>
      rw [runReady]
      split
      next task rest _ =>
        have taken : s.Comes { s with ready := rest } := .of_eq rfl
        exact (taken.trans (comes_poll _ task)).trans (inductionHypothesis _)
      next =>
        split
        next t ended => exact (comes_endWrite? ended).trans (inductionHypothesis t)
        next => exact .refl s

theorem comes_run (s : Scheduler) : s.Comes s.run :=
  comes_runReady s.turns s

/-! ### Time -/

theorem comes_moveTo (s : Scheduler) (time : Nat) : s.Comes (s.moveTo time) := by
  have passed : s.Comes { s with dispatcher := { s.dispatcher with clock := time } } :=
    .of_dispatcher (.of_step rfl fun _ => .pass time _ _ _ _ _ _)
  exact passed.trans (comes_foldl (fun s n => .of_eq (s.dispatcher_wake (.work n))) _ _)

theorem comes_settle (s : Scheduler) : s.Comes s.settle :=
  s.comes_run.trans (comes_moveTo _ _)

theorem comes_sleepUntil (fuel time : Nat) (s : Scheduler) :
    s.Comes (sleepUntil fuel time s) := by
  induction fuel generalizing s with
  | zero => exact s.comes_run.trans (comes_moveTo _ _)
  | succ fuel inductionHypothesis =>
      rw [sleepUntil]
      refine s.comes_run.trans ?_
      split
      next deadline _ =>
        split
        · exact (comes_moveTo _ deadline).trans (inductionHypothesis _)
        · exact comes_moveTo _ _
      next => exact comes_moveTo _ _

theorem comes_elapse (s : Scheduler) (milliseconds : Nat) : s.Comes (s.elapse milliseconds) := by
  unfold elapse
  split
  · exact .refl s
  · exact comes_sleepUntil _ _ s

/-! ### Callers -/

theorem comes_submit (s : Scheduler) (lane : Lane) (correlationId : String) (reply : Nat)
    (program : Program (Except Breakdown Acquisition)) :
    s.Comes (s.submit lane correlationId reply program) := by
  have taken : s.Comes
      { s with dispatcher := s.dispatcher.submit lane correlationId reply program } :=
    .of_dispatcher (s.dispatcher.comes_submit lane correlationId reply program)
  refine taken.trans (.of_eq ?_)
  unfold submit
  cases lane with
  | interactive =>
      dsimp only
      split
      · exact dispatcher_wakeReply _ _
      · split
        · exact dispatcher_wake _ _
        · rfl
  | silent => exact dispatcher_wake _ _

theorem comes_complete (s : Scheduler) (requestCode : Int) (token : Uuid)
    (completion : Completion) : s.Comes (s.complete requestCode token completion).2 := by
  have told : s.Comes
      { s with dispatcher := (s.dispatcher.complete requestCode token completion).2 } :=
    .of_dispatcher (s.dispatcher.comes_complete requestCode token completion)
  refine told.trans (.of_eq ?_)
  simp only [complete]
  split
  · exact dispatcher_wake _ _
  · rfl

theorem comes_awaitRounds (fuel reply : Nat) (s : Scheduler) :
    s.Comes (awaitRounds fuel reply s).2 := by
  induction fuel generalizing s with
  | zero => exact .refl s
  | succ fuel inductionHypothesis =>
      have first := s.comes_deliver reply
      rw [awaitRounds]
      split
      next s₁ delivered =>
        rw [delivered] at first
        exact first
      next s₁ nothing =>
        rw [nothing] at first
        refine (first.trans (comes_runTasks s₁ s₁.turns)).trans ?_
        have second := comes_deliver (s₁.runTasks s₁.turns) reply
        dsimp only
        split
        next s₂ delivered =>
          rw [delivered] at second
          exact second
        next s₂ _ ended => exact (comes_endWrite? ended).trans (inductionHypothesis s₂)
        next s₂ nothing _ =>
          rw [nothing] at second
          exact second.trans (comes_moveTo s₂ _)

theorem comes_awaitDelivery (s : Scheduler) (reply : Nat) :
    s.Comes (s.awaitDelivery reply).2 :=
  comes_awaitRounds s.turns reply s

/-! ### What a scheduler comes to -/

/-- Whatever a scheduler comes to, a system comes to. -/
theorem Comes.exists_run (comes : s.Comes t) (isOpen : s.dispatcher.laneIsOpen = true) :
    ∃ trace uses, System.Run { dispatcher := s.dispatcher } trace
      { dispatcher := t.dispatcher, uses } := by
  have settled : System.IsSettled fun _ => {} := fun _ => ⟨rfl, rfl⟩
  obtain ⟨trace, uses, run, -⟩ := (comes isOpen).2 _ settled
  exact ⟨trace, uses, run⟩

/-- A scheduler keeps the lanes of a new dispatcher in order. -/
theorem Comes.orderly (comes : s.Comes t) (isOpen : s.dispatcher.laneIsOpen = true)
    (fresh : System.IsFresh { dispatcher := s.dispatcher }) : t.dispatcher.lanes.Orderly := by
  obtain ⟨trace, uses, run⟩ := comes.exists_run isOpen
  exact (run.traced fresh).orderly

end TokenAcquisition.Dispatch.Scheduler
