import TokenAcquisition.Proofs.Dispatch.Clock
import TokenAcquisition.Proofs.Dispatch.Redemption
import TokenAcquisition.Proofs.Dispatch.Reports

/-!
The redirect and the limit of the wait for it.  Whatever goes on around a dispatcher, an
interactive command whose launch has come back is told of the completion that its flow has
accepted, or else gives up when its time is over; the one excludes the other.  A command that has
given up has asked for no tokens and has left the cache alone, and once it has disposed of its flow
no completion of its launch is accepted any more.

A completion is accepted when it has returned that it resolved the flow.  One that is still under
way does not keep the command from giving up; and one that is accepted after the command has found
its time to be over, and before the flow is disposed of, is lost.
-/

namespace TokenAcquisition

namespace Flow.Shared

variable {s t : Shared} {n : Nat} {call : Call} {request : AuthorizationRequest}
  {bound : Option String} {launch : Launch} {channel : Nat}

/-- Once a flow is disposed of, no call that comes to look at it resolves it. -/
theorem Reachable.not_resolved (reached : t.Reachable) (before : s.Reachable) (run : Run s t)
    (member : .request request byState bound (.dispatched launch channel .awaiting) ∈ s.calls)
    (disposed : s.flow.stage = .disposed)
    (begun : ∀ earlier, s.calls[n]? = some earlier → earlier.IsBegun)
    (found : t.calls[n]? = some call) : ¬ call.HasResolved := by
  intro resolved
  -- The request is not pending any more, so somebody else has taken it.
  have gone : s.flow.pending = none :=
    before.coherent.consistent.pending_eq_none (by simp [disposed]) (by simp [disposed])
  have unresolved := run.isUnresolved reached begun found resolved
  have nobody : s.calls.flatMap Call.taken = [] := List.flatMap_eq_nil_iff.mpr unresolved
  have opened : s.calls.flatMap Call.opened = [] := by
    simpa [gone, nobody] using before.coherent.pendings
  have := List.flatMap_eq_nil_iff.mp opened _ member
  simp [Call.opened] at this

/-- Nothing keeps a disposal from coming to its end. -/
theorem exists_disposed (found : s.calls[n]? = some (.dispose .begun)) :
    ∃ t pending, Run s t ∧ t.calls[n]? = some (.dispose (.ended pending)) := by
  have inside := (List.getElem?_eq_some_iff.mp found).1
  have next {calls : List Call} {call : Call} (same : calls.length = s.calls.length) :
      (calls.set n call)[n]? = some call := by
    simp [same, inside]
  have begun : Run s s := .refl
  have closed := begun.tail ⟨n, .go found (.close rfl)⟩
  have released := closed.tail ⟨n, .go (next rfl) .releaseClosed⟩
  have abandoned := released.tail ⟨n, .go (next (by simp)) .abandon⟩
  exact ⟨_, _, abandoned, next (by simp)⟩

end Flow.Shared

namespace Dispatch

open TokenAcquisition.Flow

namespace System

variable {s t : System} {n : Nat}

/-- Another command has changed the store. -/
def ChangedByOther (s : System) (n : Nat) (t : System) : Prop :=
  ∃ m program before after, m ≠ n ∧ s.Reaches before ∧ Takes m program before after ∧
    after.Reaches t

end System

variable {s t u v : System} {n seconds : Nat} {dealings : List Dealing} {job : Job}

/-- A command that never comes to ask for another store leaves the store alone. -/
theorem Deals.store_spared {program : Program (Except Breakdown Acquisition)}
    (deals : Deals n s dealings t) (found : s.dispatcher.jobs[n]? = some job)
    (fresh : job.progress.Along program [])
    (spares : ∀ {earlier last}, earlier ⊆ dealings → program.Path earlier last →
      ¬ last.IsChange) : t.store = s.store ∨ s.ChangedByOther n t := by
  induction deals with
  | start => exact .inl rfl
  | @step dealings middle _ last before further dealt deals step _ _ _ inductionHypothesis =>
      have sooner := inductionHypothesis fun inside =>
        spares (List.Subset.trans inside (List.subset_append_left ..))
      rcases sooner with same | ⟨m, other, early, late, different, first, takes, second⟩
      · rcases step.store_cases with kept | ⟨m, own, takes⟩
        · exact .inl (kept.trans same)
        · refine .inr ⟨m, own, middle, last, ?_, deals.exists_run, takes, [], .refl⟩
          rintro rfl
          exact spares (List.subset_append_left ..) (deals.path_of_takes found fresh takes)
            takes.isChange
      · exact .inr ⟨m, other, early, late, different, first, takes, second.trans step.reaches⟩

/-! ### The end of a command that gives up -/

/-- How far a command has come whose time is over. -/
inductive Overdue (failure : Failure) : List Dealing → Progress → Prop where
  | disposing : Overdue failure [] (.running (.dispose (.done (.error (.typed failure)))))
  | disposed : Overdue failure [.disposed] (.running (.done (.error (.typed failure))))
  | ended {stage} : Overdue failure [.disposed] (.closing stage (.error (.typed failure)))

namespace Overdue

variable {failure : Failure} {before after : Progress} {dealt : Option Dealing}

theorem step (overdue : Overdue failure dealings before) (step : before.Step s n dealt after) :
    Overdue failure (dealings ++ dealt.toList) after := by
  cases overdue with
  | disposing =>
      cases step with
      | stay => exact .disposing
      | deal answered =>
          cases answered
          exact .disposed
  | disposed =>
      cases step with
      | stay => exact .disposed
      | deal answered => cases answered
      | finish => exact .ended
  | ended => cases step <;> exact .ended

theorem deals (overdue : Overdue failure [] job.progress)
    (found : s.dispatcher.jobs[n]? = some job) (deals : Deals n s dealings t) :
    ∃ job', t.dispatcher.jobs[n]? = some job' ∧ Overdue failure dealings job'.progress := by
  induction deals with
  | start => exact ⟨job, found, overdue⟩
  | step _ _ before after own inductionHypothesis =>
      obtain ⟨middle, atMiddle, overdue⟩ := inductionHypothesis
      obtain rfl := Option.some.inj (before.symm.trans atMiddle)
      exact ⟨_, after, overdue.step own⟩

theorem cases_dealings (overdue : Overdue failure dealings before) :
    dealings = [] ∨ dealings = [.disposed] := by
  cases overdue with
  | disposing => exact .inl rfl
  | disposed | ended => exact .inr rfl

/-- A command whose time is over has something to do until it has ended. -/
theorem exists_ended (overdue : Overdue failure dealings job.progress)
    (found : t.dispatcher.jobs[n]? = some job) (idle : t.dispatcher.advance? n = none) :
    dealings = [.disposed] ∧ ∃ stage, job.progress = .closing stage (.error (.typed failure)) := by
  generalize progress : job.progress = reached at overdue
  cases overdue with
  | disposing | disposed => simp [Dispatcher.advance?, found, progress] at idle
  | ended => exact ⟨rfl, _, rfl⟩

end Overdue

/-- A command that has disposed of its flow finds it disposed of. -/
theorem System.Answers.exists_disposal (answers : s.Answers n .disposed t) :
    ∃ pending, .dispose (.ended pending) ∈ (s.shared n).calls := by
  obtain ⟨_, job, job', program, next, step, found, running, found', progress', answered⟩ :=
    answers.exists_program
  cases answered with
  | dispose =>
      rcases step.running_cases found running with
        ⟨flow, kept⟩ | ⟨elsewhere, -⟩ | ⟨_, _, _, other, -⟩ | ⟨_, k, pending, -, -, ended, -⟩
      · -- The command has come further, so it was not left alone.
        obtain rfl := Option.some.inj (kept.symm.trans found')
        exact absurd (Progress.running.inj (running.symm.trans progress')) Program.Step.dispose.ne
      · exact absurd trivial elsewhere
      · cases other
      · exact ⟨pending, List.mem_of_getElem? ended⟩

/-! ### The wait for the redirect -/

/-- An interactive command has just come back from the launch of its request, and waits for the
redirect for so many seconds at most. -/
structure ComesBack (op : Operation) (p : InteractiveParameters) (bound : Option String)
    (n seconds : Nat) (request : AuthorizationRequest) (launch : Launch) (s : System) : Prop where
  limited : op.timeout = some seconds
  waits : s.WaitsFrom n s.dispatcher.clock seconds (op.afterRedirect p bound request)
  reached : ∃ start trace, System.IsFresh start ∧ start.Run trace s
  asked : ∃ channel, .request request byState bound (.dispatched launch channel .awaiting) ∈
    (s.shared n).calls

namespace ComesBack

variable {op : Operation} {p : InteractiveParameters} {bound : Option String}
  {request : AuthorizationRequest} {launch : Launch}

theorem reachable (back : ComesBack op p bound n seconds request launch s) (reaches : s.Reaches t)
    (m : Nat) : (t.shared m).Reachable := by
  obtain ⟨start, trace, fresh, run⟩ := back.reached
  obtain ⟨more, further⟩ := reaches
  exact (run.trans further).shared_reachable fresh m

/-- Whatever goes on, the launch of the command is the one on its flow. -/
theorem shared (back : ComesBack op p bound n seconds request launch s) (reaches : s.Reaches t) :
    (t.shared n).Reachable ∧ ∃ channel,
      .request request byState bound (.dispatched launch channel .awaiting) ∈
        (t.shared n).calls := by
  obtain ⟨more, further⟩ := reaches
  obtain ⟨channel, member⟩ := back.asked
  exact ⟨back.reachable ⟨more, further⟩ n, channel,
    (further.shared_run n).mem_of_isOver member trivial⟩

/-- Where launches have tokens of their own, no other flow accepts a completion of the launch. -/
theorem eq_of_resolved (back : ComesBack op p bound n seconds request launch s)
    (reaches : s.Reaches t) (distinct : Desk.HasOwnTokens t) {m : Nat} {requestCode : Int}
    {completion : Completion} {pending : Pending}
    (resolved : .complete requestCode launch.token completion (.resolved pending) ∈
      (t.shared m).calls) : m = n := by
  obtain ⟨-, other, launched, -, named⟩ :=
    (back.reachable reaches m).coherent.resolver_known resolved
  obtain ⟨reached, channel, member⟩ := back.shared reaches
  have own := (reached.coherent.launched member).1
  exact distinct (launched ▸ List.mem_singleton_self _) (own ▸ List.mem_singleton_self _) named

/-- What the command is told of its flow is whether a completion of its launch was accepted or the
flow disposed of, and that nothing came in time only when its time is over. -/
theorem told (back : ComesBack op p bound n seconds request launch s) {dealing : Dealing}
    (paced : Paced n s (dealing :: dealings) t) :
    ∃ polled next answer job, Paced n s [] polled ∧ polled.Answers n dealing next ∧
      Paced n next dealings t ∧ dealing = .awaited (some seconds) answer ∧
      (polled.dispatcher.flow n).answer = answer ∧
      (answer = none → s.dispatcher.clock + 1000 * seconds ≤ polled.dispatcher.clock) ∧
      next.dispatcher.jobs[n]? = some job ∧
      job.progress = .running (op.afterRedirect p bound request answer) := by
  obtain ⟨polled, next, early, answers, late⟩ :=
    (show DealsUnder _ n s ([] ++ dealing :: dealings) t from paced).split
  obtain ⟨answer, job, told, flow, expired, found, progress⟩ :=
    (Paced.waitsFrom early back.waits).answers answers
  exact ⟨polled, next, answer, job, early, answers, late, told, flow, expired, found, progress⟩

/-- A command whose completion was accepted while it waited is told of it, and never gives up. -/
theorem accepted (back : ComesBack op p bound n seconds request launch s) (waited : Deals n s [] t)
    (accepts : (t.shared n).Accepts launch.token) (deals : Deals n t dealings u) :
    (∀ dealing ∈ dealings, ¬ dealing.GivesUp) ∧
      ∀ {dealing later}, dealings = dealing :: later → ∃ completion pending,
        .complete browserFlow launch.token completion (.resolved pending) ∈ (u.shared n).calls ∧
          dealing = .awaited (some seconds) (some (completion.result request.state)) := by
  cases dealings with
  | nil => exact ⟨List.forall_mem_nil _, nofun⟩
  | cons first later =>
      obtain ⟨job, found, progress, -⟩ := back.waits
      have begun : job.progress.Along (.await (some seconds) (op.afterRedirect p bound request))
          [] := by
        rw [progress]
        exact .here
      obtain ⟨last, path⟩ := (waited.trans deals).exists_path found begun
      obtain ⟨polled, gets⟩ := (show Deals n t ([] ++ first :: later) u from deals).exists_gets
      obtain ⟨_, before⟩ := gets.deals.exists_run
      obtain ⟨_, after⟩ := gets.exists_run
      obtain ⟨_, awaited⟩ := waited.exists_run
      have told := gets.gives
      obtain ⟨reached, channel, member⟩ := back.shared ⟨_, awaited.trans before⟩
      have accepts := (before.shared_run n).accepts accepts
      cases path with
      | step answered path =>
          cases answered with
          | await answer =>
              cases answer with
              | none => exact absurd accepts ((reached.answer_eq_none_iff member).mp told).1
              | some result =>
                  refine ⟨List.forall_mem_cons.mpr
                    ⟨id, Operation.not_givesUp_of_afterRedirect path⟩, ?_⟩
                  rintro dealing more ⟨⟩
                  rcases reached.told_cases member told with
                    ⟨completion, pending, resolved, same⟩ | ⟨abandoned, -⟩
                  · have kept := (after.shared_run n).mem_of_isOver resolved trivial
                    exact ⟨completion, pending, kept, same ▸ rfl⟩
                  · exact absurd abandoned (reached.not_isAbandoned accepts)

/-- A command that gives up disposes of its flow and ends with the failure of its time. -/
theorem overdue (back : ComesBack op p bound n seconds request launch s)
    (paced : Paced n s (.awaited (some seconds) none :: dealings) t) :
    ∃ job, t.dispatcher.jobs[n]? = some job ∧
      Overdue (Operation.timedOut seconds) dealings job.progress := by
  obtain ⟨polled, next, answer, job, -, -, late, same, -, -, found, progress⟩ := back.told paced
  cases same
  refine Overdue.deals ?_ found late.deals
  rw [progress, Operation.afterRedirect, back.limited]
  exact .disposing

/-- Once a command has given up, its flow is disposed of, and nobody completes its launch. -/
theorem closed (back : ComesBack op p bound n seconds request launch s)
    (paced : Paced n s [.awaited (some seconds) none, .disposed] t) :
    ∃ closing next, Paced n s [.awaited (some seconds) none] closing ∧
      closing.Answers n .disposed next ∧ Paced n next [] t ∧
      (t.dispatcher.flow n).stage = .disposed ∧
      ∀ {k : Nat} {call : Flow.Call},
        (closing.shared n).IsAbandoned ∨
          (∀ earlier, (closing.shared n).calls[k]? = some earlier → earlier.IsBegun) →
        (t.shared n).calls[k]? = some call → ¬ call.HasResolved := by
  obtain ⟨closing, next, early, answers, late⟩ :=
    (show DealsUnder _ n s ([.awaited (some seconds) none] ++ .disposed :: []) t from paced).split
  obtain ⟨_, before⟩ := early.deals.exists_run
  obtain ⟨_, _, _, _, _, step, -⟩ := answers.exists_program
  obtain ⟨_, rest⟩ := late.deals.exists_run
  have after := (System.Run.refl.step step).trans rest
  obtain ⟨pending, ended⟩ := answers.exists_disposal
  obtain ⟨reached, channel, member⟩ := back.shared ⟨_, before⟩
  obtain ⟨reached', -⟩ := back.shared ⟨_, before.trans after⟩
  have kept := (after.shared_run n).mem_of_isOver ended trivial
  refine ⟨closing, next, early, answers, late, reached'.coherent.sound _ kept, ?_⟩
  rintro k call (⟨dropped, disposed⟩ | begun) found
  · intro resolved
    have abandoned := (after.shared_run n).mem_of_isOver disposed trivial
    exact reached'.not_isAbandoned_of_resolved (List.mem_of_getElem? found) resolved ⟨_, abandoned⟩
  · exact reached'.not_resolved reached (after.shared_run n) member
      (reached.coherent.sound _ ended) begun found

end ComesBack

/-- What holds of an interactive command that was submitted in one state of a run, has come back
from the launch of its request in a later one, and has dealt with so much since.  It is told of a
redirect, or gives up when so many seconds are over. -/
structure RedirectOrTimeout (n seconds : Nat) (request : AuthorizationRequest) (launch : Launch)
    (submitted launched t : System) (dealings : List Dealing) : Prop where
  /-- As long as it waits, with nothing to do, its time is not over and nobody has answered. -/
  waits : dealings = [] → t.dispatcher.advance? n = none →
    t.dispatcher.clock < launched.dispatcher.clock + 1000 * seconds ∧
      ¬ (t.shared n).Accepts launch.token ∧ ¬ (t.shared n).IsAbandoned
  /-- It finds nothing when it looks for an answer if and only if no completion of its launch has
  been accepted by then and nobody has disposed of its flow, and its time is over then. -/
  told : ∀ {dealing later}, dealings = dealing :: later → ∃ polled next answer,
    Paced n launched [] polled ∧ polled.Answers n dealing next ∧ Paced n next later t ∧
      dealing = .awaited (some seconds) answer ∧
      (answer = none ↔
        ¬ (polled.shared n).Accepts launch.token ∧ ¬ (polled.shared n).IsAbandoned) ∧
      (answer = none →
        launched.dispatcher.clock + 1000 * seconds ≤ polled.dispatcher.clock)
  /-- Once a completion of its launch was accepted while it waited, it is told what that brought,
  and never gives up, whatever it asks for and however long that takes. -/
  accepted : ∀ {middle more}, Deals n launched [] middle →
    (middle.shared n).Accepts launch.token → Deals n middle more t →
    (∀ dealing ∈ more, ¬ dealing.GivesUp) ∧
      ∀ {dealing later}, more = dealing :: later → ∃ completion pending,
        .complete browserFlow launch.token completion (.resolved pending) ∈ (t.shared n).calls ∧
          dealing = .awaited (some seconds) (some (completion.result request.state))
  /-- When it has found nothing, it only disposes of its flow, and has something to do until it has
  ended because of its time. -/
  overdue : ∀ {later}, dealings = .awaited (some seconds) none :: later →
    (later = [] ∨ later = [.disposed]) ∧
      (t.dispatcher.advance? n = none → later = [.disposed] ∧
        ∃ job stage, t.dispatcher.jobs[n]? = some job ∧
          job.progress = .closing stage (.error (.typed (Operation.timedOut seconds))))
  /-- Its flow is disposed of then.  A completion with the token of its launch returns that it
  resolved nothing, on this flow or any other, if it comes to look at the flow later; and whenever
  it looked, if nobody was before the disposal. -/
  closed : dealings = [.awaited (some seconds) none, .disposed] → ∃ closing next,
    Paced n launched [.awaited (some seconds) none] closing ∧ closing.Answers n .disposed next ∧
      Paced n next [] t ∧ (t.dispatcher.flow n).stage = .disposed ∧
      (Desk.HasOwnTokens t → ∀ {m k : Nat} {requestCode completion progress answer},
        (closing.shared n).IsAbandoned ∨
          (∀ earlier : Flow.Call, (closing.shared m).calls[k]? = some earlier →
            earlier.IsBegun) →
        (t.shared m).calls[k]? =
          some (.complete requestCode launch.token completion progress) →
        Call.verdict? (.complete requestCode launch.token completion progress) = some answer →
        answer = false)
  /-- Unless it is told of a redirect it asks for no tokens, and the store is as it was, but for
  what other commands have made of it. -/
  spared : (∀ dealing ∈ dealings, ¬ dealing.IsRedirect) →
    dealings.filterMap Dealing.posted? = [] ∧
      (t.store = submitted.store ∨ submitted.ChangedByOther n t)

/-- A system in which an interactive command has just been submitted. -/
def System.asked (s : System) (op : Operation) (p : InteractiveParameters) (id : Uuid)
    (reply : Nat) : System :=
  s.submitted .interactive id.render reply
    (Operation.supervised (op.interactive p (some id.render)))

variable {op : Operation} {p : InteractiveParameters} {id : Uuid} {reply : Nat} {seeds : Seeds}
  {request : AuthorizationRequest} {trace : List Occurrence}

/-- An interactive command that comes back from its launch begins to wait. -/
theorem Deals.exists_comesBack (fresh : s.IsFresh) (run : s.Run trace t)
    (limited : op.timeout = some seconds)
    (deals : Deals t.dispatcher.jobs.length (t.asked op p id reply) [.seeds seeds] u)
    (answers : u.Answers t.dispatcher.jobs.length (.launched request (.ok ())) v) :
    ∃ launch,
      ComesBack op p (some id.render) t.dispatcher.jobs.length seconds request launch v := by
  obtain ⟨own, found, named, fits⟩ := t.exists_submitted .interactive id.render reply
    (Operation.supervised (op.interactive p (some id.render)))
  obtain ⟨_, before⟩ := deals.exists_run
  have begun : s.Run (trace ++ []) (t.asked op p id reply) := run.step (.submit ..)
  obtain ⟨asking, launch, channel, atU, member⟩ :=
    answers.exists_launch ((begun.trans before).engaged fresh)
  rw [deals.correlationId_eq found atU, named] at member
  obtain ⟨_, job, waiting, program, next, step, atU, progress, atV, progress', answered⟩ :=
    answers.exists_program
  obtain ⟨job', atU', along⟩ := deals.along found fits
  obtain rfl := Option.some.inj (atU.symm.trans atU')
  rw [progress, Progress.Along, Operation.supervised_interactive] at along
  have after := System.Run.refl.step step
  refine ⟨launch, limited, ⟨waiting, atV, ?_, .inl ⟨answers.deadline_eq_none atV, rfl⟩⟩,
    ⟨s, _, fresh, (begun.trans before).trans after⟩, channel,
    (after.shared_run _).mem_of_isOver member trivial⟩
  cases along with
  | step first rest =>
      cases first
      cases rest
      rw [progress', Operation.eq_of_launched answered, Operation.afterLaunch, limited]

/-- Before a redirect an interactive command asks for no tokens and leaves the store alone. -/
theorem Deals.spared (deals : Deals t.dispatcher.jobs.length (t.asked op p id reply) dealings u)
    (unredirected : ∀ dealing ∈ dealings, ¬ dealing.IsRedirect) :
    dealings.filterMap Dealing.posted? = [] ∧
      (u.store = (t.asked op p id reply).store ∨
        (t.asked op p id reply).ChangedByOther t.dispatcher.jobs.length u) := by
  obtain ⟨job, found, -, fits⟩ := t.exists_submitted .interactive id.render reply
    (Operation.supervised (op.interactive p (some id.render)))
  have abstains := op.abstains_interactive p (some id.render)
  obtain ⟨last, path⟩ := deals.exists_path found fits
  refine ⟨(abstains.path path unredirected).2, deals.store_spared found fits ?_⟩
  intro earlier last inside path change
  exact change.not_abstains (abstains.path path fun _ member => unredirected _ (inside member)).1

/-- With a limit to its wait, an interactive command whose launch comes back is told of the redirect
that its flow accepts, or gives up, and never does both. -/
theorem Paced.redirectOrTimeout (fresh : s.IsFresh) (run : s.Run trace t)
    (limited : op.timeout = some seconds)
    (paced : Paced t.dispatcher.jobs.length (t.asked op p id reply)
      (.seeds seeds :: .launched request (.ok ()) :: dealings) u) :
    ∃ before launched launch,
      Paced t.dispatcher.jobs.length (t.asked op p id reply) [.seeds seeds] before ∧
      before.Answers t.dispatcher.jobs.length (.launched request (.ok ())) launched ∧
      Paced t.dispatcher.jobs.length launched dealings u ∧
      (u.shared t.dispatcher.jobs.length).launches = [launch] ∧
      (∃ agent, launch = launchOf request agent launch.token (some id.render)) ∧
      RedirectOrTimeout t.dispatcher.jobs.length seconds request launch (t.asked op p id reply)
        launched u dealings := by
  obtain ⟨before, launched, early, answers, late⟩ :=
    (show DealsUnder _ _ _ ([.seeds seeds] ++ .launched request (.ok ()) :: dealings) u from
      paced).split
  obtain ⟨launch, back⟩ := early.deals.exists_comesBack fresh run limited answers
  obtain ⟨reached, channel, member⟩ := back.shared late.deals.exists_run
  obtain ⟨only, made⟩ := reached.coherent.launched member
  refine ⟨before, launched, launch, early, answers, late, only, made, ?_⟩
  constructor
  · rintro rfl idle
    obtain ⟨silent, inTime⟩ := (Paced.waitsFrom late back.waits).of_advance? idle
    exact ⟨inTime, (reached.answer_eq_none_iff member).mp silent⟩
  · rintro dealing later rfl
    obtain ⟨polled, next, answer, job, waited, told, rest, same, flow, expired, -⟩ := back.told late
    obtain ⟨reached, channel, member⟩ := back.shared waited.deals.exists_run
    refine ⟨polled, next, answer, waited, told, rest, same, ?_, expired⟩
    rw [← flow]
    exact reached.answer_eq_none_iff member
  · intro middle more waited accepts deals
    exact back.accepted waited accepts deals
  · rintro later rfl
    obtain ⟨job, found, overdue⟩ := back.overdue late
    refine ⟨overdue.cases_dealings, fun idle => ?_⟩
    obtain ⟨disposed, stage, progress⟩ := overdue.exists_ended found idle
    exact ⟨disposed, job, stage, found, progress⟩
  · rintro rfl
    obtain ⟨closing, next, gaveUp, disposes, rest, stage, nobody⟩ := back.closed late
    refine ⟨closing, next, gaveUp, disposes, rest, stage, ?_⟩
    intro distinct m k requestCode completion progress answer later found verdict
    cases answer with
    | false => rfl
    | true =>
        obtain ⟨_, _, _, pending, same⟩ := Call.verdict?_eq_true_iff.mp verdict
        cases same
        obtain rfl := back.eq_of_resolved late.deals.exists_run distinct
          (List.mem_of_getElem? found)
        exact absurd trivial (nobody later found)
  · intro unredirected
    have all : ∀ dealing ∈ Dealing.seeds seeds :: .launched request (.ok ()) :: dealings,
        ¬ dealing.IsRedirect :=
      List.forall_mem_cons.mpr ⟨not_false, List.forall_mem_cons.mpr ⟨not_false, unredirected⟩⟩
    exact paced.deals.spared all

/-! ### A command that gives up -/

/-- Nothing keeps the time of a command that nobody answers from being over. -/
theorem Paced.exists_due
    {next : Option (Except Failure AuthorizationResult) → Program (Except Breakdown Acquisition)}
    (paced : Paced n s dealings t) (found : t.dispatcher.jobs[n]? = some job)
    (progress : job.progress = .running (.await (some seconds) next))
    (unset : job.deadline = none) (silent : job.flow.answer = none) :
    ∃ u, Paced n s dealings u ∧
      u.dispatcher.jobs[n]? =
        some { job with deadline := some (t.dispatcher.clock + 1000 * seconds) } ∧
      u.dispatcher.clock = t.dispatcher.clock + 1000 * seconds ∧ u.uses = t.uses := by
  let due := t.dispatcher.clock + 1000 * seconds
  have atTimed := Dispatcher.getElem?_setJob { job with deadline := some due } found
  have timed := paced.further
    (.work found progress trivial ((Dispatcher.advance?_await_eq_some_iff found progress).mpr
      (.inr ⟨silent, .inl ⟨unset, rfl⟩⟩))) (.inl rfl) found atTimed .stay
  exact ⟨_, timed.further (.pass due t.dispatcher.now t.dispatcher.transport
    t.dispatcher.agents t.dispatcher.launchAnswer t.dispatcher.supply t.dispatcher.launches)
    (.inr ⟨Nat.le_add_right _ _, System.isTimed_of_deadline atTimed (Option.some_ne_none due)⟩)
    atTimed atTimed .stay, atTimed, rfl, rfl⟩

/-- Nothing keeps it from finding so. -/
theorem Paced.exists_overdue
    {next : Option (Except Failure AuthorizationResult) → Program (Except Breakdown Acquisition)}
    (paced : Paced n s dealings t) (found : t.dispatcher.jobs[n]? = some job)
    (progress : job.progress = .running (.await (some seconds) next))
    (unset : job.deadline = none) (silent : job.flow.answer = none) :
    ∃ u, Paced n s (dealings ++ [.awaited (some seconds) none]) u ∧
      u.dispatcher.jobs[n]? =
        some { job with progress := .running (next none), deadline := none } ∧
      u.uses = t.uses := by
  obtain ⟨u, passed, atU, clock, uses⟩ := paced.exists_due found progress unset silent
  have expired := (Dispatcher.advance?_await_eq_some_iff atU progress).mpr
    (.inr ⟨silent, .inr ⟨_, rfl, Nat.le_of_eq clock.symm, rfl⟩⟩)
  have told : (u.dispatcher.flow n).answer = none := by rwa [Dispatcher.flow_eq atU]
  have atEnd := Dispatcher.getElem?_setJob
    { job with progress := .running (next none), deadline := none } atU
  exact ⟨_, passed.deal (.work atU progress trivial expired) (.inl rfl) atU atEnd progress rfl
    (.await none) told, atEnd, uses⟩

/-- Nothing keeps a command from disposing of its flow. -/
theorem Paced.exists_disposed {next : Program (Except Breakdown Acquisition)}
    (paced : Paced n s dealings t) (found : t.dispatcher.jobs[n]? = some job)
    (progress : job.progress = .running (.dispose next)) (free : (t.uses n).workCall = none) :
    ∃ u flow, Paced n s (dealings ++ [.disposed]) u ∧
      u.dispatcher.jobs[n]? =
        some { job with flow, progress := .running next, deadline := none } := by
  have begun := paced.further (.beginDispose found progress free) (.inl rfl) found found .stay
  obtain ⟨after, pending, run, ended⟩ :=
    Shared.exists_disposed (System.getElem?_beginWorkCall t n (.dispose .begun))
  obtain ⟨u, closed, atU, there, busy, -⟩ := begun.exists_share .inl found run
  rw [← there] at ended
  have engaged : (u.uses n).workCall = some (t.uses n).calls.length := by
    simp [busy, System.beginWorkCall]
  have atEnd := Dispatcher.getElem?_setJob
    { job with flow := after.flow, progress := .running next, deadline := none } atU
  exact ⟨_, after.flow, closed.deal (.endDispose atU progress engaged ended) (.inl rfl) atU atEnd
    progress rfl .dispose trivial, atEnd⟩

/-- Nothing keeps it from ending then. -/
theorem Paced.exists_ended {result : Except Breakdown Acquisition}
    (paced : Paced n s dealings t) (found : t.dispatcher.jobs[n]? = some job)
    (progress : job.progress = .running (.dispose (.done result)))
    (free : (t.uses n).workCall = none) :
    ∃ u job', Paced n s (dealings ++ [.disposed]) u ∧ u.dispatcher.jobs[n]? = some job' ∧
      job'.progress = .closing .ended result := by
  obtain ⟨u, flow, disposed, atU⟩ := paced.exists_disposed found progress free
  let ended : Job := { job with flow, progress := .closing .ended result, deadline := none }
  have finished : u.dispatcher.advance? n = some (u.dispatcher.setJob n ended) := by
    simp only [Dispatcher.advance?, atU]
    rfl
  have atEnd := Dispatcher.getElem?_setJob ended atU
  exact ⟨_, ended, disposed.further (.finish atU rfl finished) (.inl rfl) atU atEnd .finish, atEnd,
    rfl⟩

/-- Nothing keeps a first interactive command from waiting for a redirect. -/
theorem exists_waiting {first : Seeds → Program (Except Breakdown Acquisition)}
    {next : Except Failure Unit → Program (Except Breakdown Acquisition)}
    (launching : first seeds = .launch request next) (id : String) (reply : Nat) :
    ∃ t job,
      Paced 0 ((System.drawing seeds).submitted .interactive id reply (.seeds first))
        [.seeds seeds, .launched request (.ok ())] t ∧
      t.dispatcher.jobs[0]? = some job ∧ job.progress = .running (next (.ok ())) ∧
      job.deadline = none ∧ t.shared 0 = Shared.awaiting request (some id) ∧
      (t.uses 0).workCall = none := by
  obtain ⟨s, job, asked, jobs, progress, busy, shared, -⟩ :=
    exists_asked (System.paces_of_still (n := 0)) launching id reply []
  have found : s.dispatcher.jobs[0]? = some job := by rw [jobs]; rfl
  have run := Shared.run_awaiting request (some id)
  rw [← shared] at run
  obtain ⟨t, shares, atT, there, same, -⟩ :=
    asked.exists_share System.paces_of_still found run
  have called : (t.uses 0).calls = _ := congrArg (·.calls) there
  obtain ⟨u, launched, atU, -, free, kept⟩ := shares.exists_launched System.paces_of_still atT
    progress (same.trans busy) (congrArg (·[0]?) called) rfl
  exact ⟨u, _, launched, atU, rfl, rfl, kept.trans there, free⟩

/-- A command that waits has not been answered. -/
theorem silent_of_awaiting {bound : Option String} (found : t.dispatcher.jobs[n]? = some job)
    (shared : t.shared n = Shared.awaiting request bound) : job.flow.answer = none := by
  have flow : job.flow = (t.shared n).flow := (Dispatcher.flow_eq found).symm
  rw [flow, shared]
  rfl

/-- Nothing keeps a first interactive command that nobody answers from giving up. -/
theorem exists_givenUp {first : Seeds → Program (Except Breakdown Acquisition)}
    {next : Except Failure Unit → Program (Except Breakdown Acquisition)}
    {answered : Option (Except Failure AuthorizationResult) →
      Program (Except Breakdown Acquisition)}
    {result : Except Breakdown Acquisition} (launching : first seeds = .launch request next)
    (awaiting : next (.ok ()) = .await (some seconds) answered)
    (disposing : answered none = .dispose (.done result)) (id : String) (reply : Nat) :
    ∃ t,
      Paced 0 ((System.drawing seeds).submitted .interactive id reply (.seeds first))
        [.seeds seeds, .launched request (.ok ()), .awaited (some seconds) none, .disposed] t ∧
      t.dispatcher.advance? 0 = none := by
  obtain ⟨u, job, launched, atU, progress, unset, shared, free⟩ :=
    exists_waiting launching id reply
  rw [awaiting] at progress
  obtain ⟨v, overdue, atV, uses⟩ :=
    launched.exists_overdue atU progress unset (silent_of_awaiting atU shared)
  obtain ⟨w, job', ended, atW, closing⟩ :=
    overdue.exists_ended atV (congrArg _ disposing) (by rw [uses, free])
  exact ⟨w, ended, by simp only [Dispatcher.advance?, atW, closing]⟩

/-- Work that leaves its user one second. -/
def impatient : Operation := { service with timeout := some 1 }

/-- A command that gives up. -/
theorem sample_redirectOrTimeout :
    ∃ request launch launched t, t.dispatcher.advance? 0 = none ∧
      RedirectOrTimeout 0 1 request launch
        ((System.drawing drawnSeeds).asked impatient sampleParameters (.ofRandom []) 0) launched t
        [.awaited (some 1) none, .disposed] := by
  obtain ⟨request, built, -⟩ := sampleCompletion_agrees
  have drafted : (impatient.authorizationDraft sampleParameters).build drawnSeeds
      (some (Uuid.ofRandom []).render) = .ok request := built
  obtain ⟨t, paced, idle⟩ := exists_givenUp (launching_of_build drafted) rfl rfl
    (Uuid.ofRandom []).render 0
  rw [← Operation.supervised_interactive] at paced
  obtain ⟨_, launched, launch, -, -, -, -, -, holds⟩ :=
    Paced.redirectOrTimeout (System.drawing_isFresh drawnSeeds) .refl rfl paced
  exact ⟨request, launch, launched, t, idle, holds⟩

/-! ### A redirect that comes late -/

/-- A completion of the launch begins and is accepted, while the command is told nothing and no
time passes. -/
def AcceptsNext (n : Nat) (launch : Launch) (s t : System) : Prop :=
  Paced n s [] t ∧ t.dispatcher.clock = s.dispatcher.clock ∧
    ∃ k completion pending, (s.shared n).calls.length ≤ k ∧
      (t.shared n).calls[k]? =
        some (.complete browserFlow launch.token completion (.resolved pending))

/-- As long as nobody has answered, nothing keeps a completion from being accepted. -/
theorem exists_acceptsNext {bound : Option String} {launch : Launch}
    (found : t.dispatcher.jobs[n]? = some job)
    (shared : t.shared n = Shared.awaiting request bound)
    (only : (t.shared n).launches = [launch]) (completion : Completion) :
    ∃ u flow, AcceptsNext n launch t u ∧ u.dispatcher.jobs[n]? = some { job with flow } ∧
      flow.answer = some (completion.result request.state) ∧
      (u.uses n).workCall = (t.uses n).workCall := by
  obtain ⟨after, other, pending, run, launched, calls, told⟩ :=
    Shared.exists_completed request bound completion
  rw [shared] at only
  obtain rfl : other = launch := List.singleton_injective (launched.symm.trans only)
  rw [← shared] at run
  obtain ⟨u, shares, atU, there, same, others⟩ :=
    DealsUnder.start.exists_share (System.paces_of_still (n := n)) found run
  refine ⟨u, after.flow, ⟨shares, by rw [others], 1, completion, pending, ?_, ?_⟩, atU, told, same⟩
  · rw [shared]
    exact Nat.le_refl 1
  · rw [there, calls]
    rfl

/-- The flow of a command stays as it is while nobody calls on it. -/
theorem shared_eq_of_uses {job' : Job} (found : s.dispatcher.jobs[n]? = some job)
    (found' : t.dispatcher.jobs[n]? = some job') (flow : job'.flow = job.flow)
    (uses : t.uses = s.uses) : t.shared n = s.shared n := by
  rw [System.shared, System.shared, Dispatcher.flow_eq found', Dispatcher.flow_eq found, flow, uses]

section

variable {bound : Option String} {launch : Launch}
  {next : Option (Except Failure AuthorizationResult) → Program (Except Breakdown Acquisition)}

/-- A completion that is accepted when the time of a command is over is told to it, if it has not
looked yet. -/
theorem exists_honoured {completion : Completion} {tokenRequest : TokenRequest}
    {posted : Except Failure HttpResponse → Program (Except Breakdown Acquisition)}
    (found : s.dispatcher.jobs[n]? = some job)
    (progress : job.progress = .running (.await (some seconds) next))
    (unset : job.deadline = none) (shared : s.shared n = Shared.awaiting request bound)
    (only : (s.shared n).launches = [launch])
    (posting : next (some (completion.result request.state)) = .post tokenRequest posted) :
    ∃ due late told answer t,
      Paced n s [] due ∧ ¬ (due.shared n).Accepts launch.token ∧
      due.dispatcher.clock = s.dispatcher.clock + 1000 * seconds ∧
      AcceptsNext n launch due late ∧
      Paced n late [.awaited (some seconds) (some (completion.result request.state))] told ∧
      told.dispatcher.clock = due.dispatcher.clock ∧
      Paced n told [.posted tokenRequest answer] t := by
  obtain ⟨due, waited, atDue, clock, uses⟩ :=
    Paced.exists_due .start found progress unset (silent_of_awaiting found shared)
  have same := shared_eq_of_uses found atDue rfl uses
  obtain ⟨late, flow, accepts, atLate, answered, -⟩ :=
    exists_acceptsNext atDue (same.trans shared) (same ▸ only) completion
  obtain ⟨told, awaited, atTold, resumed⟩ :=
    DealsUnder.start.exists_awaited (System.paces_of_still (n := n)) atLate progress answered
  have still : told.dispatcher.clock = late.dispatcher.clock := by
    rw [resumed]
    rfl
  obtain ⟨answer, t, asked⟩ := DealsUnder.start.exists_posted
    (System.paces_of_still (n := n)) atTold (congrArg _ posting)
  refine ⟨due, late, told, answer, t, waited, ?_, clock, accepts, awaited,
    still.trans accepts.2.1, asked⟩
  rintro ⟨other, pending, member⟩
  rw [same, shared] at member
  cases List.mem_singleton.mp member

/-- When it has looked, one that is accepted before the flow is disposed of is lost. -/
theorem exists_lost {result : Except Breakdown Acquisition}
    (found : s.dispatcher.jobs[n]? = some job)
    (progress : job.progress = .running (.await (some seconds) next))
    (unset : job.deadline = none) (shared : s.shared n = Shared.awaiting request bound)
    (only : (s.shared n).launches = [launch]) (free : (s.uses n).workCall = none)
    (disposing : next none = .dispose (.done result)) (completion : Completion) :
    ∃ overdue late t job',
      Paced n s [.awaited (some seconds) none] overdue ∧ AcceptsNext n launch overdue late ∧
      Paced n late [.disposed] t ∧ t.dispatcher.jobs[n]? = some job' ∧
      job'.progress = .closing .ended result := by
  obtain ⟨overdue, looked, atOverdue, uses⟩ :=
    Paced.exists_overdue .start found progress unset (silent_of_awaiting found shared)
  have same := shared_eq_of_uses found atOverdue rfl uses
  obtain ⟨late, flow, accepts, atLate, -, busy⟩ :=
    exists_acceptsNext atOverdue (same.trans shared) (same ▸ only) completion
  obtain ⟨t, job', ended, atT, closing⟩ :=
    Paced.exists_ended .start atLate (congrArg _ disposing) (by rw [busy, uses, free])
  exact ⟨overdue, late, t, job', looked, accepts, ended, atT, closing⟩

end

/-- The clock does not tell a redirect in time from one that is late: a completion that is accepted
in the instant in which the time of a command is over may be told to it, and may be lost. -/
theorem late_redirect_accepted :
    ∃ request launched launch,
      Paced 0 ((System.drawing drawnSeeds).asked impatient sampleParameters (.ofRandom []) 0)
        [.seeds drawnSeeds, .launched request (.ok ())] launched ∧
      (launched.shared 0).launches = [launch] ∧
      (∃ due late told result tokenRequest answer t,
        Paced 0 launched [] due ∧ ¬ (due.shared 0).Accepts launch.token ∧
        due.dispatcher.clock = launched.dispatcher.clock + 1000 * 1 ∧
        AcceptsNext 0 launch due late ∧ Paced 0 late [.awaited (some 1) (some result)] told ∧
        told.dispatcher.clock = due.dispatcher.clock ∧
        Paced 0 told [.posted tokenRequest answer] t) ∧
      ∃ overdue late t job,
        Paced 0 launched [.awaited (some 1) none] overdue ∧ AcceptsNext 0 launch overdue late ∧
        Paced 0 late [.disposed] t ∧ t.dispatcher.jobs[0]? = some job ∧
        job.progress = .closing .ended (.error (.typed (Operation.timedOut 1))) := by
  obtain ⟨request, built, succeeded⟩ := sampleCompletion_agrees
  have drafted : (impatient.authorizationDraft sampleParameters).build drawnSeeds
      (some (Uuid.ofRandom []).render) = .ok request := built
  obtain ⟨s, job, launched, found, progress, unset, shared, free⟩ :=
    exists_waiting (launching_of_build drafted) (Uuid.ofRandom []).render 0
  rw [← Operation.supervised_interactive] at launched
  obtain ⟨_, launch, _, -, only, -⟩ :=
    Shared.exists_completed request (some (Uuid.ofRandom []).render) sampleCompletion
  rw [← shared] at only
  obtain ⟨due, late, told, answer, t, honoured⟩ := exists_honoured found progress unset shared only
    (posting_of_success succeeded rfl)
  exact ⟨request, s, launch, launched, only, ⟨due, late, told, _, _, answer, t, honoured⟩,
    exists_lost found progress unset shared only free rfl sampleCompletion⟩

end Dispatch

end TokenAcquisition
