import TokenAcquisition.Proofs.Flow.Resolution

/-!
The course of a flow.  A step starts a flow that was never started, or takes it further in the order
of its stages: nothing is asked for again, and the token of the launch stays.  So a flow is started
once at most, whoever calls, and what is disposed of stays so.
-/

namespace TokenAcquisition.Flow

/-- How far a stage is from the beginning. -/
def Stage.place : Stage → Nat
  | .idle => 0
  | .dispatched => 1
  | .awaitingRedirect => 2
  | .completed => 3
  | .disposed => 4

theorem Stage.eq_disposed {stage : Stage} (last : disposed.place ≤ stage.place) :
    stage = .disposed := by
  cases stage <;> first | rfl | exact absurd last (by decide)

/-- A flow that was never started is started: its token and the request that awaits a completion
are set together. -/
structure Starts (flow : Flow) (token : Uuid) (flow' : Flow) : Prop where
  idle : flow.stage = .idle
  unset : flow.token = none
  unasked : flow.pending = none
  dispatched : flow'.stage = .dispatched
  set : flow'.token = some token
  asked : flow'.pending.isSome = true

/-- A flow is not started but goes on, or stays as it is. -/
structure GoesOn (flow flow' : Flow) : Prop where
  forward : flow.stage.place ≤ flow'.stage.place
  unstarted : flow'.stage = .dispatched → flow.stage = .dispatched
  token : flow'.token = flow.token
  pending : flow'.pending = flow.pending ∨ flow'.pending = none

variable {flow flow' : Flow} {call call' : Call} {contacts : List Contact} {token : Uuid}

theorem GoesOn.refl (flow : Flow) : flow.GoesOn flow :=
  ⟨Nat.le_refl _, id, rfl, .inl rfl⟩

theorem Consistent.token_of_idle (consistent : Consistent flow) (idle : flow.stage = .idle) :
    flow.token = none := by
  by_contra set
  have asked := consistent.token_iff.mp (Option.isSome_iff_ne_none.mpr set)
  exact asked (consistent.channels_of_idle idle)

theorem Consistent.starts (consistent : Consistent flow) (idle : flow.stage = .idle)
    (request : AuthorizationRequest) (classify : Classifier) (token : Uuid) :
    flow.Starts token (flow.dispatched request classify token) where
  idle := idle
  unset := consistent.token_of_idle idle
  unasked := consistent.pending_eq_none (by simp [idle]) (by simp [idle])
  dispatched := rfl
  set := rfl
  asked := rfl

/-! ### Where the steps lead -/

theorem goesOn_keep (dispatched : flow.stage = .dispatched) (handle : AgentHandle) :
    flow.GoesOn { flow with stage := .awaitingRedirect, handle := some handle } where
  forward := by simp [dispatched, Stage.place]
  unstarted := nofun
  token := rfl
  pending := .inl rfl

/-- Only what is pending is completed, so the flow is not disposed of yet. -/
theorem Consistent.goesOn_completed (consistent : Consistent flow) {pending : Pending}
    (held : flow.pending = some pending) : flow.GoesOn flow.completed where
  forward := by
    show flow.stage.place ≤ Stage.completed.place
    rcases consistent.pending_iff.mp (by simp [held]) with stage | stage
    · rw [stage]
      decide
    · rw [stage]
      decide
  unstarted := nofun
  token := rfl
  pending := .inr rfl

theorem Stage.place_le_disposed (stage : Stage) : stage.place ≤ disposed.place := by
  cases stage <;> decide

theorem goesOn_launchFailed (flow : Flow) : flow.GoesOn flow.launchFailed where
  forward := flow.stage.place_le_disposed
  unstarted := nofun
  token := by simp [launchFailed]
  pending := .inr rfl

theorem goesOn_closed (flow : Flow) : flow.GoesOn flow.closed where
  forward := flow.stage.place_le_disposed
  unstarted := nofun
  token := rfl
  pending := .inr rfl

theorem goesOn_abandon (flow : Flow) (pending : Option Pending) :
    flow.GoesOn (flow.abandon pending) where
  forward := by simp
  unstarted := by simp
  token := by simp
  pending := by simp

/-- A step of a call starts the flow by a launch, or launches nothing and lets the flow go on. -/
theorem Call.Step.starts_or_goesOn (step : Call.Step flow call contacts flow' call')
    (consistent : Consistent flow) :
    (∃ launch, contacts = [.launch launch] ∧ flow.Starts launch.token flow') ∨
      contacts.filterMap Contact.launch? = [] ∧ flow.GoesOn flow' := by
  cases step with
  | dispatch token dispatch =>
      obtain ⟨idle, rfl, rfl⟩ := dispatch_eq_ok_iff.mp dispatch
      exact .inl ⟨_, rfl, consistent.starts idle _ _ _⟩
  | keep kept =>
      obtain ⟨dispatched, rfl⟩ := launched_eq_kept kept
      exact .inr ⟨rfl, goesOn_keep dispatched _⟩
  | keepNot given =>
      obtain ⟨-, rfl, -⟩ := launched_eq_surplus given
      exact .inr ⟨rfl, .refl _⟩
  | giveUp => exact .inr ⟨rfl, flow.goesOn_launchFailed⟩
  | take took =>
      obtain ⟨-, -, held, -, rfl⟩ := take?_eq_some_iff.mp took
      exact .inr ⟨rfl, consistent.goesOn_completed held⟩
  | resolve => exact .inr ⟨rfl, Nat.le_refl _, id, rfl, .inl rfl⟩
  | close closing =>
      obtain ⟨-, -, -, rfl⟩ | ⟨-, -, -, rfl⟩ := close_eq_cases closing
      · exact .inr ⟨rfl, .refl _⟩
      · exact .inr ⟨rfl, flow.goesOn_closed⟩
  | abandon => exact .inr ⟨rfl, flow.goesOn_abandon _⟩
  | releaseTaken | releaseClosed => exact .inr ⟨by simp, .refl _⟩
  | _ => exact .inr ⟨rfl, .refl _⟩

namespace Shared

variable {s t u v : Shared} {n m : Nat}

theorem Coherent.starts_or_goesOn (coherent : s.Coherent) (step : Step s n t) :
    (∃ launch, t.contacts = s.contacts ++ [.launch launch] ∧
        s.flow.Starts launch.token t.flow) ∨
      t.launches = s.launches ∧ s.flow.GoesOn t.flow := by
  cases step with
  | enter => exact .inr ⟨rfl, .refl _⟩
  | go _ step =>
      rcases step.starts_or_goesOn coherent.consistent with
        ⟨launch, rfl, starts⟩ | ⟨silent, goesOn⟩
      · exact .inl ⟨launch, rfl, starts⟩
      · exact .inr ⟨by simp [Shared.launches, silent], goesOn⟩

/-- The token is that of the only launch there was. -/
theorem Coherent.token_eq_some_iff (coherent : s.Coherent) :
    s.flow.token = some token ↔ ∃ launch, s.launches = [launch] ∧ launch.token = token := by
  -- Whoever dispatched the flow has launched, and the flow has the token of that launch.
  have own {call : Call} (inside : call ∈ s.calls) {launch : Launch}
      (launched : launch ∈ call.launches) : s.flow.token = some launch.token := by
    have sound := coherent.sound call inside
    rcases call with ⟨_, _, _, _ | _ | _ | _ | _ | _⟩ | _ | _ <;> simp [Call.launches] at launched
    subst launched
    exact sound.2.1
  constructor
  · intro set
    have asked := coherent.consistent.token_iff.mp (by simp [set])
    have size := coherent.length_opened
    obtain ⟨call, inside, opened⟩ : ∃ call ∈ s.calls, call.opened ≠ [] := by
      by_contra nobody
      push Not at nobody
      rw [List.flatMap_eq_nil_iff.mpr nobody] at size
      exact asked (List.length_eq_zero_iff.mp size.symm)
    obtain ⟨launch, launched⟩ : ∃ launch, launch ∈ call.launches := by
      refine List.exists_mem_of_length_pos ?_
      rw [call.length_launches]
      exact List.length_pos_iff.mpr opened
    refine ⟨launch, coherent.launches_eq_singleton inside launched, ?_⟩
    exact Option.some.inj ((own inside launched).symm.trans set)
  · rintro ⟨launch, only, rfl⟩
    have launched := coherent.launches.mem_iff.mp (only ▸ List.mem_singleton_self launch)
    obtain ⟨call, inside, launched⟩ := List.mem_flatMap.mp launched
    exact own inside launched

/-! ### Where runs lead -/

theorem Reachable.stage_le (reached : s.Reachable) (run : Run s t) :
    s.flow.stage.place ≤ t.flow.stage.place := by
  induction run with
  | refl => exact Nat.le_refl _
  | tail before last inductionHypothesis =>
      obtain ⟨n, last⟩ := last
      rcases (reached.run before).coherent.starts_or_goesOn last with
        ⟨launch, -, starts⟩ | ⟨-, goesOn⟩
      · rw [starts.idle] at inductionHypothesis
        exact inductionHypothesis.trans (Nat.zero_le _)
      · exact inductionHypothesis.trans goesOn.forward

theorem Reachable.token_final (reached : s.Reachable) (run : Run s t)
    (set : s.flow.token = some token) : t.flow.token = some token := by
  induction run with
  | refl => exact set
  | tail before last inductionHypothesis =>
      obtain ⟨n, last⟩ := last
      rcases (reached.run before).coherent.starts_or_goesOn last with
        ⟨launch, -, starts⟩ | ⟨-, goesOn⟩
      · cases starts.unset.symm.trans inductionHypothesis
      · exact goesOn.token.trans inductionHypothesis

/-- What the stage of a flow says of its other parts, and how they may change from then on. -/
structure RunsForward (s : Shared) : Prop where
  pending_iff :
    s.flow.pending.isSome = true ↔
      s.flow.stage = .dispatched ∨ s.flow.stage = .awaitingRedirect
  awaiting_of_handle : s.flow.handle.isSome = true → s.flow.stage = .awaitingRedirect
  token_iff : ∀ token,
    s.flow.token = some token ↔ ∃ launch, s.launches = [launch] ∧ launch.token = token
  /-- A step starts a flow that was never started, or lets it go on. -/
  next : ∀ {n t}, Step s n t →
    (∃ launch, t.contacts = s.contacts ++ [.launch launch] ∧
        s.flow.Starts launch.token t.flow) ∨
      t.launches = s.launches ∧ s.flow.GoesOn t.flow
  forward : ∀ {t}, Run s t → s.flow.stage.place ≤ t.flow.stage.place
  /-- Once it is set the token neither changes nor goes away. -/
  token_kept : ∀ {t token}, Run s t → s.flow.token = some token → t.flow.token = some token
  disposed_final : ∀ {t}, Run s t → s.flow.stage = .disposed → t.flow.stage = .disposed
  launches_le : s.launches.length ≤ 1
  /-- A flow that was started is never started again. -/
  startedOnce : ∀ {n m t u v token token'}, Step s n t → s.flow.Starts token t.flow →
    Run t u → Step u m v → ¬ u.flow.Starts token' v.flow

theorem Reachable.runsForward (reached : s.Reachable) : s.RunsForward where
  pending_iff := reached.coherent.consistent.pending_iff
  awaiting_of_handle := reached.coherent.consistent.awaiting_of_handle
  token_iff _ := reached.coherent.token_eq_some_iff
  next := reached.coherent.starts_or_goesOn
  forward := reached.stage_le
  token_kept := reached.token_final
  disposed_final run disposed := Stage.eq_disposed (disposed ▸ reached.stage_le run)
  launches_le := reached.coherent.length_launches_le
  startedOnce first starts run _ again := by
    cases again.unset.symm.trans ((reached.step first).token_final run starts.set)

theorem hasty_runsForward : hasty.Reachable ∧ hasty.RunsForward :=
  ⟨hasty_reachable, hasty_reachable.runsForward⟩

end Shared

end TokenAcquisition.Flow
