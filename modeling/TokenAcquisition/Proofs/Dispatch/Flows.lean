import TokenAcquisition.Proofs.Dispatch.Refinement
import TokenAcquisition.Proofs.Flow.Coherence

/-!
The flows of commands.  Around a dispatcher, a flow and the calls on it come to nothing that they
could not come to by themselves, and a flow that its lane has disposed of stays so.
-/

namespace TokenAcquisition.Dispatch

namespace Dispatcher

variable {d d' : Dispatcher} {n : Nat} {job job' : Job}

theorem flow_eq (found : d.jobs[n]? = some job) : d.flow n = job.flow := by
  simp [flow, found]

theorem flow_setJob (found : d.jobs[n]? = some job) (same : job'.flow = job.flow) :
    (d.setJob n job').flow = d.flow := by
  funext m
  obtain ⟨inside, rfl⟩ := List.getElem?_eq_some_iff.mp found
  by_cases here : n = m
  · subst here
    simp [flow, setJob, inside, same]
  · simp [flow, setJob, List.getElem?_set_ne here]

theorem Works.flow_eq (works : d.Works n job d') (found : d.jobs[n]? = some job) :
    d'.flow = d.flow := by
  obtain ⟨job', jobs, -, same⟩ := works.jobs
  rw [← flow_setJob found same]
  funext m
  simp [flow, setJob, jobs]

theorem flow_enqueue (d : Dispatcher) (lane : Lane) (correlationId : String) (reply : Nat)
    (program : Program (Except Breakdown Acquisition)) :
    (d.enqueue lane correlationId reply program).flow = d.flow := by
  funext m
  simp only [flow, enqueue, List.getElem?_append]
  split
  next => rfl
  next outside =>
    have missing : d.jobs[m]? = none := List.getElem?_eq_none (by omega)
    rw [missing, List.getElem?_singleton]
    split <;> rfl

theorem flow_afterLaunch (found : d.jobs[n]? = some job)
    {program : Program (Except Breakdown Acquisition)} (progress : job.progress = .running program)
    (next : Except Failure Unit → Program (Except Breakdown Acquisition)) (started : Flow.Started) :
    (d.afterLaunch n job next started).flow = d.flow := by
  cases started with
  | awaiting => exact (works_resume progress).flow_eq found
  | refused failure => exact (works_resume progress).flow_eq found
  | panicked message => exact flow_setJob found rfl

end Dispatcher

namespace System

variable {s t : System} {trace occurrences : List Occurrence}

theorem shared_update {n m : Nat} (call : Flow.Call) (begun : call.IsBegun) {use : Use}
    (calls : use.calls = (s.uses n).calls ++ [call])
    (contacts : use.contacts = (s.uses n).contacts) :
    ({ s with uses := Function.update s.uses n use } : System).shared m = s.shared m ∨
      ∃ k, Flow.Shared.Step (s.shared m) k
        (({ s with uses := Function.update s.uses n use } : System).shared m) := by
  by_cases here : m = n
  · subst here
    refine .inr ⟨(s.shared m).calls.length, ?_⟩
    simp only [System.shared, Function.update_self, calls, contacts]
    exact Flow.Shared.Step.enter (s := s.shared m) call begun
  · exact .inl (by simp [System.shared, here])

/-- The end of a call is seen by whoever made it only. -/
theorem shared_endCall {n m : Nat} {d : Dispatcher} {use : Use}
    (same : d.flow = s.dispatcher.flow) (calls : use.calls = (s.uses n).calls)
    (contacts : use.contacts = (s.uses n).contacts) :
    ({ dispatcher := d, uses := Function.update s.uses n use } : System).shared m =
      s.shared m := by
  by_cases here : m = n
  · subst here
    simp [System.shared, same, calls, contacts]
  · simp [System.shared, same, here]

theorem shared_share {n m : Nat} {job : Job} {after : Flow.Shared}
    (found : s.dispatcher.jobs[n]? = some job) :
    (s.share n job after).shared m = if m = n then after else s.shared m := by
  have inside := (List.getElem?_eq_some_iff.mp found).1
  by_cases here : m = n
  · subst here
    simp [System.shared, share, Dispatcher.flow, Dispatcher.log, Dispatcher.setJob, inside]
  · simp [System.shared, share, Dispatcher.flow, Dispatcher.log, Dispatcher.setJob, here,
      List.getElem?_set_ne (Ne.symm here)]

/-- Whatever is done around a dispatcher, a flow stays as it is or one call on it begins or goes
on. -/
theorem Step.shared (step : Step s occurrences t) (n : Nat) :
    t.shared n = s.shared n ∨ ∃ k, Flow.Shared.Step (s.shared n) k (t.shared n) := by
  have quiet {d : Dispatcher} (same : d.flow = s.dispatcher.flow) :
      ({ s with dispatcher := d } : System).shared n = s.shared n := by
    simp [System.shared, same]
  cases step with
  | submit lane correlationId reply program => exact .inl (quiet (Dispatcher.flow_enqueue ..))
  | tell found told =>
      obtain ⟨job, found, -, rfl⟩ := Dispatcher.tell?_eq_some_iff.mp told
      exact .inl (quiet (Dispatcher.flow_setJob found rfl))
  | receive _ received =>
      obtain ⟨-, m, job, program, -, found, -, rfl⟩ := Dispatcher.receive?_eq_some_iff.mp received
      exact .inl (quiet (Dispatcher.flow_setJob found rfl))
  | register _ registered =>
      obtain ⟨job, program, found, -, rfl⟩ := Dispatcher.register?_eq_some_iff.mp registered
      exact .inl (quiet (Dispatcher.flow_setJob found rfl))
  | spawn _ spawned =>
      obtain ⟨job, program, found, -, rfl⟩ := Dispatcher.spawn?_eq_some_iff.mp spawned
      exact .inl (quiet (Dispatcher.flow_setJob found rfl))
  | startSilent started =>
      obtain ⟨job, program, found, -, -, rfl⟩ := Dispatcher.startSilent?_eq_some_iff.mp started
      exact .inl (quiet (Dispatcher.flow_setJob found rfl))
  | work found progress isLocal advanced =>
      exact .inl (quiet
        ((Dispatcher.advance?_works found progress isLocal advanced).flow_eq found))
  | finish found progress advanced =>
      simp only [Dispatcher.advance?, found, progress, Option.some.injEq] at advanced
      subst advanced
      exact .inl (quiet (Dispatcher.flow_setJob found rfl))
  | @beginLaunch m job request next =>
      exact shared_update (n := m) (.request request Flow.byState _ .begun) trivial rfl rfl
  | beginDispose | beginDisposal =>
      exact shared_update (.dispose .begun) trivial rfl rfl
  | @endLaunch _ _ job _ next _ started found progress =>
      exact .inl (shared_endCall (Dispatcher.flow_afterLaunch found progress next started) rfl rfl)
  | endDispose found progress =>
      exact .inl (shared_endCall ((Dispatcher.works_resume progress).flow_eq found) rfl rfl)
  | acquire acquired =>
      obtain rfl := Dispatcher.eq_of_acquire? acquired
      exact .inl rfl
  | endWrite ended =>
      obtain ⟨cache, write, rfl⟩ := Dispatcher.exists_eq_of_endWrite? ended
      exact .inl rfl
  | @call m k job after found step =>
      rw [shared_share found]
      split
      next here => exact .inr ⟨k, here ▸ step⟩
      next => exact .inl rfl
  | unregister _ unregistered =>
      obtain ⟨job, result, found, -, -, rfl⟩ :=
        Dispatcher.unregister?_eq_some_iff.mp unregistered
      exact .inl (quiet (Dispatcher.flow_setJob found rfl))
  | endDisposal _ found =>
      exact .inl (shared_endCall (Dispatcher.flow_setJob found rfl) rfl rfl)
  | record _ _ _ recorded =>
      obtain ⟨job, result, found, -, rfl⟩ := Dispatcher.record?_eq_some_iff.mp recorded
      exact .inl (quiet (Dispatcher.flow_setJob found rfl))
  | post _ _ _ posted =>
      obtain ⟨job, result, found, -, rfl⟩ := Dispatcher.post?_eq_some_iff.mp posted
      exact .inl (quiet (Dispatcher.flow_setJob found rfl))
  | deliver _ found next delivered =>
      simp only [Dispatcher.deliver?, found, next, Option.some.injEq] at delivered
      subst delivered
      exact .inl rfl
  | closeLane | pass | orphan | closeLoop => exact .inl rfl

theorem Run.shared_reachable (run : s.Run trace t) (fresh : s.IsFresh) (n : Nat) :
    (t.shared n).Reachable := by
  induction run with
  | refl =>
      have new : s.shared n = {} := by
        simp [System.shared, Dispatcher.flow, fresh.jobs, fresh.uses]
      rw [new]
      exact .refl
  | step _ last inductionHypothesis =>
      rcases last.shared n with same | ⟨k, step⟩
      · rwa [same]
      · exact inductionHypothesis.step step

/-- Around a dispatcher, a flow comes to what the calls on it come to by themselves. -/
theorem Run.shared_run (run : s.Run trace t) (n : Nat) :
    Flow.Shared.Run (s.shared n) (t.shared n) := by
  induction run with
  | refl => exact .refl
  | step _ last inductionHypothesis =>
      rcases last.shared n with same | ⟨k, step⟩
      · rwa [same]
      · exact inductionHypothesis.tail ⟨k, step⟩

/-- The lane says that a flow is disposed of once its call has ended. -/
theorem Step.exists_disposal (step : Step s occurrences t) {n : Nat}
    (disposed : .disposed ∈ milestones n occurrences) :
    ∃ pending, .dispose (.ended pending) ∈ (s.uses n).calls := by
  cases step with
  | @endDisposal m k job result pending _ found closing called ended =>
      obtain rfl : m = n := by
        by_contra other
        simp [milestones, Occurrence.milestone?, other] at disposed
      exact ⟨pending, List.mem_of_getElem? ended⟩
  | @endLaunch _ _ _ _ _ _ started =>
      cases started <;> simp [milestones, Occurrence.milestone?, afterLaunch] at disposed
  | _ => simp [milestones, Occurrence.milestone?] at disposed

theorem Step.stage_of_disposed (step : Step s occurrences t) {n : Nat}
    (reached : (s.shared n).Reachable) (disposed : (s.dispatcher.flow n).stage = .disposed) :
    (t.dispatcher.flow n).stage = .disposed := by
  have before : (s.shared n).flow.stage = .disposed := disposed
  show (t.shared n).flow.stage = .disposed
  rcases step.shared n with same | ⟨k, step⟩
  · rwa [same]
  · exact step.stage_of_disposed reached.coherent.consistent before

theorem Run.stage_of_disposed (run : s.Run trace t) (fresh : s.IsFresh) {n : Nat}
    (disposed : .disposed ∈ milestones n trace) : (t.dispatcher.flow n).stage = .disposed := by
  induction run with
  | refl => cases disposed
  | step before last inductionHypothesis =>
      have reached := before.shared_reachable fresh n
      refine last.stage_of_disposed reached ?_
      rw [milestones, List.filterMap_append] at disposed
      rcases List.mem_append.mp disposed with earlier | now
      · exact inductionHypothesis earlier
      · -- A disposal that has ended left the flow disposed of, or found it so.
        obtain ⟨pending, ended⟩ := last.exists_disposal now
        exact reached.coherent.sound _ ended

end System

end TokenAcquisition.Dispatch
