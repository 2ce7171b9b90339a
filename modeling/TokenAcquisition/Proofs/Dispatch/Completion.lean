import TokenAcquisition.Proofs.Dispatch.Flows

/-!
No outcome is lost.  Once the work of a command has ended, all that is left to do for it can be
done, whatever has been going on.
-/

namespace TokenAcquisition.Dispatch

namespace System

variable {s t : System} {trace occurrences : List Occurrence} {n : Nat} {job : Job}
  {result : Except Breakdown Acquisition}

/-! ### The disposal by the lane -/

/-- The lane disposes of flows by calls of its own. -/
def LaneDisposes (s : System) : Prop :=
  ∀ n k, (s.uses n).laneCall = some k →
    ∃ progress, (s.uses n).calls[k]? = some (.dispose progress)

theorem LaneDisposes.update (disposes : s.LaneDisposes) {d : Dispatcher} {use : Use}
    (own : ∀ k, use.laneCall = some k → ∃ progress, use.calls[k]? = some (.dispose progress)) :
    LaneDisposes { dispatcher := d, uses := Function.update s.uses n use } := by
  intro m k calling
  by_cases here : m = n
  · subst here
    simp only [Function.update_self] at calling ⊢
    exact own k calling
  · simp only [Function.update_of_ne here] at calling ⊢
    exact disposes m k calling

theorem LaneDisposes.concat (disposes : s.LaneDisposes) (call : Flow.Call) {k : Nat}
    (calling : (s.uses n).laneCall = some k) :
    ∃ progress, ((s.uses n).calls ++ [call])[k]? = some (.dispose progress) := by
  obtain ⟨progress, found⟩ := disposes n k calling
  exact ⟨progress, by rw [List.getElem?_append_left (List.getElem?_eq_some_iff.mp found).1, found]⟩

theorem exists_disposing {contacts : List Flow.Contact} {flow flow' : Flow}
    {progress : Flow.Call.Disposing} {call' : Flow.Call}
    (step : Flow.Call.Step flow (.dispose progress) contacts flow' call') :
    ∃ progress', call' = .dispose progress' := by
  cases step <;> exact ⟨_, rfl⟩

theorem Step.laneDisposes (step : Step s occurrences t) (disposes : s.LaneDisposes) :
    t.LaneDisposes := by
  cases step with
  | beginLaunch | beginDispose =>
      exact disposes.update fun k calling => disposes.concat _ calling
  | endLaunch | endDispose => exact disposes.update fun k calling => disposes _ k calling
  | @call m _ job after found step =>
      refine disposes.update fun k calling => ?_
      obtain ⟨progress, before⟩ := disposes m k calling
      obtain ⟨call', atK, same | ⟨contacts, further⟩⟩ := step.call_cases before
      · exact ⟨progress, same ▸ atK⟩
      · obtain ⟨progress', rfl⟩ := exists_disposing further
        exact ⟨progress', atK⟩
  | endDisposal => exact disposes.update fun k calling => by cases calling
  | beginDisposal =>
      refine disposes.update fun k calling => ⟨.begun, ?_⟩
      obtain rfl := Option.some.inj calling
      simp
  | _ => exact disposes

theorem Run.laneDisposes (run : s.Run trace t) (fresh : s.IsFresh) : t.LaneDisposes := by
  induction run with
  | refl =>
      intro n k calling
      simp [fresh.uses] at calling
  | step _ last inductionHypothesis => exact last.laneDisposes inductionHypothesis

/-! ### The way to the outcome -/

/-- The outcome of a command can still be posted. -/
def CanPost (s : System) (n : Nat) : Prop :=
  ∃ more t job result, s.Run more t ∧ t.dispatcher.jobs[n]? = some job ∧
    job.progress = .closing .posted result

theorem Step.canPost (step : Step s occurrences t) (later : t.CanPost n) : s.CanPost n := by
  obtain ⟨more, u, job, result, run, found, progress⟩ := later
  exact ⟨occurrences ++ more, u, job, result, (Run.refl.step step).trans run, found, progress⟩

theorem canPost_of_recorded (found : s.dispatcher.jobs[n]? = some job)
    (progress : job.progress = .closing .recorded result)
    (served : s.dispatcher.IsServed job.lane) : s.CanPost n := by
  have step := Step.post found progress served
    (Dispatcher.post?_eq_some_iff.mpr ⟨job, result, found, progress, rfl⟩)
  exact step.canPost ⟨[], _, _, result, .refl, Dispatcher.getElem?_setJob _ found, rfl⟩

theorem canPost_of_settled (found : s.dispatcher.jobs[n]? = some job)
    (progress : job.progress = .closing job.lane.settled result)
    (served : s.dispatcher.IsServed job.lane) : s.CanPost n := by
  have step := Step.record found progress served
    (Dispatcher.record?_eq_some_iff.mpr ⟨job, result, found, progress, rfl⟩)
  exact step.canPost (canPost_of_recorded (Dispatcher.getElem?_setJob _ found) rfl served)

/-- The lane is disposing of the flow of a command, and its call is just so far. -/
def DisposesBy (s : System) (n k : Nat) (disposing : Flow.Call.Disposing) : Prop :=
  ∃ job result, s.dispatcher.laneIsOpen = true ∧ s.dispatcher.jobs[n]? = some job ∧
    job.lane = .interactive ∧ job.progress = .closing .unregistered result ∧
    (s.uses n).laneCall = some k ∧ (s.uses n).calls[k]? = some (.dispose disposing)

namespace DisposesBy

variable {k : Nat} {pending : Option Flow.Pending} {handle : Option AgentHandle}

theorem canPost {disposing disposing' : Flow.Call.Disposing} {contacts : List Flow.Contact}
    {flow : Flow} (disposes : s.DisposesBy n k disposing)
    (further : Flow.Call.Step (s.dispatcher.flow n) (.dispose disposing) contacts flow
      (.dispose disposing'))
    (later : ∀ {t : System}, t.DisposesBy n k disposing' → t.CanPost n) : s.CanPost n := by
  obtain ⟨job, result, isOpen, found, interactive, progress, mine, calling⟩ := disposes
  have inside := (List.getElem?_eq_some_iff.mp calling).1
  have step : Step s [] _ := .call found (.go (s := s.shared n) calling further)
  refine step.canPost (later ⟨{ job with flow }, result, isOpen,
    Dispatcher.getElem?_setJob _ found, interactive, progress, ?_, ?_⟩)
  · simpa [share] using mine
  · simpa [share, System.shared] using List.getElem?_set_self inside

theorem canPost_of_ended (disposes : s.DisposesBy n k (.ended pending)) : s.CanPost n := by
  obtain ⟨job, result, isOpen, found, interactive, progress, mine, ended⟩ := disposes
  have step := Step.endDisposal isOpen found progress mine ended
  have settled : (job.moved (.closing .disposed result)).progress =
      .closing (job.moved (.closing .disposed result)).lane.settled result := by
    simp [Job.moved, interactive, Lane.settled]
  exact step.canPost (canPost_of_settled (Dispatcher.getElem?_setJob _ found) settled
    fun _ => isOpen)

theorem canPost_of_released (disposes : s.DisposesBy n k (.released pending)) : s.CanPost n :=
  disposes.canPost .abandon canPost_of_ended

theorem canPost_of_closed (disposes : s.DisposesBy n k (.closed pending handle)) : s.CanPost n :=
  disposes.canPost .releaseClosed canPost_of_released

theorem canPost_of_begun (disposes : s.DisposesBy n k .begun) : s.CanPost n :=
  disposes.canPost (.close rfl) canPost_of_closed

end DisposesBy

theorem canPost_of_unregistered (isOpen : s.dispatcher.laneIsOpen = true)
    (found : s.dispatcher.jobs[n]? = some job) (interactive : job.lane = .interactive)
    (progress : job.progress = .closing .unregistered result) (disposes : s.LaneDisposes) :
    s.CanPost n := by
  cases mine : (s.uses n).laneCall with
  | none =>
      have step := Step.beginDisposal isOpen found progress mine
      refine step.canPost (DisposesBy.canPost_of_begun (k := (s.uses n).calls.length)
        ⟨job, result, isOpen, found, interactive, progress, ?_, ?_⟩) <;>
        simp [beginLaneCall]
  | some k =>
      obtain ⟨disposing, calling⟩ := disposes n k mine
      have disposes : s.DisposesBy n k disposing :=
        ⟨job, result, isOpen, found, interactive, progress, mine, calling⟩
      cases disposing with
      | begun => exact disposes.canPost_of_begun
      | closed pending handle => exact disposes.canPost_of_closed
      | released pending => exact disposes.canPost_of_released
      | ended pending => exact disposes.canPost_of_ended

theorem canPost_of_ended (found : s.dispatcher.jobs[n]? = some job)
    (progress : job.progress = .closing .ended result) (served : s.dispatcher.IsServed job.lane)
    (disposes : s.LaneDisposes) : s.CanPost n := by
  cases lane : job.lane with
  | interactive =>
      have step := Step.unregister (served lane)
        (Dispatcher.unregister?_eq_some_iff.mpr ⟨job, result, found, progress, lane, rfl⟩)
      exact step.canPost
        (canPost_of_unregistered (served lane) (Dispatcher.getElem?_setJob _ found) lane rfl
          disposes)
  | silent =>
      have settled : job.progress = .closing job.lane.settled result := by
        simp [lane, Lane.settled, progress]
      exact canPost_of_settled found settled served

/-- Whatever the work of a command has ended with, its outcome can be posted while there is a lane
for it. -/
theorem Run.canPost (run : s.Run trace t) (fresh : s.IsFresh)
    (found : t.dispatcher.jobs[n]? = some job) {stage : Closing}
    (progress : job.progress = .closing stage result)
    (served : t.dispatcher.IsServed job.lane) : t.CanPost n := by
  have disposes := run.laneDisposes fresh
  have fits := (run.traced fresh).orderly.fits _
    (List.mem_of_getElem? (Dispatcher.getElem?_entries found))
  have interactive (unregistered : .unregistered ∈ job.history) : job.lane = .interactive :=
    (fits.isLane unregistered (.inr rfl)).2
  cases stage with
  | ended => exact canPost_of_ended found progress served disposes
  | unregistered =>
      have lane : job.lane = .interactive :=
        interactive (by simp [Job.history, Job.closed, progress])
      exact canPost_of_unregistered (served lane) found lane progress disposes
  | disposed =>
      have lane : job.lane = .interactive :=
        interactive (by simp [Job.history, Job.closed, progress])
      have settled : job.progress = .closing job.lane.settled result := by
        simp [lane, Lane.settled, progress]
      exact canPost_of_settled found settled served
  | recorded => exact canPost_of_recorded found progress served
  | posted => exact ⟨[], t, job, result, .refl, found, progress⟩

end System

end TokenAcquisition.Dispatch
