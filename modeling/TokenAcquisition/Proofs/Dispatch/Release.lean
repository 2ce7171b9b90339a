import TokenAcquisition.Proofs.Dispatch.Flows
import TokenAcquisition.Proofs.Flow.Release

/-!
No command leaves anything bound.  Whatever becomes of its work, all that its launch bound is
released by the time its outcome is posted and the last call on its flow is over.
-/

namespace TokenAcquisition.Dispatch.System

variable {s t : System} {trace : List Occurrence}

theorem Run.disposed_of_posted (run : s.Run trace t) (fresh : s.IsFresh) {n : Nat} {job : Job}
    (found : t.dispatcher.jobs[n]? = some job) (lane : job.outline.IsLane) {reply : Nat}
    {outcome : Outcome} (posted : .posted reply outcome ∈ milestones n trace) :
    .disposed ∈ milestones n trace := by
  have traced := run.traced fresh
  have atN := Dispatcher.getElem?_entries found
  rw [traced.milestones_eq_history atN] at posted ⊢
  obtain ⟨result, whole⟩ :=
    (traced.orderly.fits _ (List.mem_of_getElem? atN)).isOver posted
  simp [whole, lane.life_eq]

/-- Every handle that a launch returned is released once: never twice, whatever the order of the
calls, and not never, if no call on the flow is in progress and either the flow has come to its end
or it is that of an interactive command whose outcome is posted. -/
theorem handles_released_once :
    (∀ {shared : Flow.Shared}, shared.Reachable →
      shared.released ⊆ shared.bound ∧
        (∀ handle, shared.released.count handle ≤ 1) ∧
        (shared.Quiet → shared.flow.stage = .completed ∨ shared.flow.stage = .disposed →
          ∀ handle ∈ shared.bound, shared.released.count handle = 1)) ∧
      ∀ {s t : System} {trace : List Occurrence}, s.IsFresh → s.Run trace t →
        ∀ {n : Nat} {job : Job}, t.dispatcher.jobs[n]? = some job → job.lane = .interactive →
          job.isAccepted = true →
          (∃ reply outcome, .posted reply outcome ∈ milestones n trace) → (t.shared n).Quiet →
          ∀ handle ∈ (t.shared n).bound, (t.shared n).released.count handle = 1 := by
  constructor
  · intro shared reached
    have coherent := reached.coherent
    exact ⟨coherent.released_subset, coherent.count_released_le, coherent.count_released_eq⟩
  · intro s t trace fresh run n job found interactive accepted ⟨reply, outcome, posted⟩ quiet
    have disposed := run.disposed_of_posted fresh found ⟨accepted, interactive⟩ posted
    have stage := run.stage_of_disposed fresh disposed
    exact fun _ => (run.shared_reachable fresh n).coherent.count_released_eq quiet (.inr stage)

theorem sample_handle_released :
    ∃ t, sample.Run sampleTrace t ∧ (t.shared 0).bound = [Flow.signInLaunch.handle] ∧
      (t.shared 0).released.count Flow.signInLaunch.handle = 1 := by
  obtain ⟨t, run, -, ⟨job, found, interactive, progress⟩, ⟨launch, pending, calls⟩, bound⟩ :=
    sample_run
  have quiet : (t.shared 0).Quiet := by
    simp [Flow.Shared.Quiet, calls, Flow.Call.IsOver]
  refine ⟨t, run, bound, handles_released_once.2 sample_isFresh run found interactive ?_
    ⟨0, .cancel, ?_⟩ quiet _ ?_⟩
  · simp [Job.isAccepted, progress]
  · simp [milestones, sampleTrace, Occurrence.milestone?]
  · simp [bound]

end TokenAcquisition.Dispatch.System
