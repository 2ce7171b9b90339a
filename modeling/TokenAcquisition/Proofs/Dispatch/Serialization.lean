import TokenAcquisition.Proofs.Dispatch.Flows

/-!
Interactive commands run one at a time, in the order of their submission.
-/

namespace TokenAcquisition.Dispatch.System

variable {s t : System} {trace occurrences : List Occurrence} {n : Nat}

/-- The lane of the interactive commands has taken the command of a number. -/
def IsInteractive (s : System) (n : Nat) : Prop :=
  ∃ job, s.dispatcher.jobs[n]? = some job ∧ job.lane = .interactive ∧ job.isAccepted = true

/-- Everything has been done for a command that the lane took, in its order. -/
def IsFinished (trace : List Occurrence) (n : Nat) : Prop :=
  ∃ result label reply outcome, milestones n trace =
    [.received, .registered, .started, .ended result, .unregistered, .disposed, .recorded label,
      .posted reply outcome]

theorem isInteractive_iff :
    s.IsInteractive n ↔ ∃ o, s.dispatcher.lanes.entries[n]? = some o ∧ o.IsLane := by
  constructor
  · rintro ⟨job, found, interactive, accepted⟩
    exact ⟨job.outline, Dispatcher.getElem?_entries found, accepted, interactive⟩
  · rintro ⟨o, found, accepted, interactive⟩
    obtain ⟨job, atN, rfl⟩ := Dispatcher.exists_job found
    exact ⟨job, atN, interactive, accepted⟩

/-- How the interactive commands of a dispatcher run. -/
structure Serialized (trace : List Occurrence) (s : System) : Prop where
  in_order : ∀ {n}, s.IsInteractive n → ∃ result label reply outcome, milestones n trace <+:
    [.received, .registered, .started, .ended result, .unregistered, .disposed, .recorded label,
      .posted reply outcome]
  /-- Nothing is done for a command before everything has been done for those submitted before,
  whose flows are disposed of. -/
  one_at_a_time : ∀ {m n milestone t}, Step s [.reached n milestone] t → s.IsInteractive n →
    m < n → s.IsInteractive m → IsFinished trace m ∧ (s.dispatcher.flow m).stage = .disposed
  /-- There is no session when one is registered. -/
  no_stale_session : ∀ {n t}, Step s [.reached n .registered] t → s.dispatcher.session = none
  /-- The session is that of the command that the lane is at work on. -/
  session_current : ∀ {session}, s.dispatcher.session = some session →
    s.dispatcher.current = some session.id ∧ s.IsInteractive session.id ∧
      .registered ∈ milestones session.id trace ∧ .unregistered ∉ milestones session.id trace
  /-- Only the registration and the end of an interactive command change the session. -/
  session_change : ∀ {occurrences t}, Step s occurrences t →
    t.dispatcher.session ≠ s.dispatcher.session →
    ∃ n, s.IsInteractive n ∧
      (occurrences = [.reached n .registered] ∨ occurrences = [.reached n .unregistered])

theorem Step.reached {milestone : Milestone} (step : Step s [.reached n milestone] t)
    (orderly : s.dispatcher.lanes.Orderly) :
    ∃ o, s.dispatcher.lanes.entries[n]? = some o ∧ o.Next milestone ∧
      (milestone = .received → s.dispatcher.lanes.IsFree n) := by
  rcases step.lanes orderly with step | ⟨nothing, -⟩
  · exact step.reached
  · cases nothing

theorem Run.serialized (fresh : s.IsFresh) (run : s.Run trace t) : Serialized trace t := by
  have traced := run.traced fresh
  have orderly := traced.orderly
  constructor
  · intro n interactive
    obtain ⟨o, found, lane⟩ := isInteractive_iff.mp interactive
    obtain ⟨result, first⟩ := orderly.fits o (List.mem_of_getElem? found)
    rw [lane.life_eq, ← traced.milestones_eq_history found] at first
    exact ⟨result, _, _, _, first⟩
  · intro m n milestone u step interactive earlier interactive'
    obtain ⟨o, found, next, free⟩ := step.reached orderly
    obtain ⟨o', found', lane⟩ := isInteractive_iff.mp interactive
    obtain ⟨first, atFirst, lane'⟩ := isInteractive_iff.mp interactive'
    obtain rfl : o = o' := Option.some.inj (found.symm.trans found')
    obtain ⟨result, whole⟩ := orderly.isOver_of_next found next free lane earlier atFirst lane'
    have all := traced.milestones_eq_history atFirst
    rw [whole, lane'.life_eq] at all
    exact ⟨⟨_, _, _, _, all⟩, run.stage_of_disposed fresh (by simp [all])⟩
  · intro n u step
    obtain ⟨o, found, next, -⟩ := step.reached orderly
    exact orderly.session_eq_none found next
  · intro session registered
    obtain ⟨o, found, has, -⟩ := orderly.hasSession registered
    refine ⟨orderly.current_of_session registered, isInteractive_iff.mpr ⟨o, found, has.1⟩, ?_⟩
    rw [traced.milestones_eq_history found]
    exact has.2
  · intro occurrences u step changed
    rcases step.lanes orderly with step | ⟨-, same⟩
    · obtain ⟨n, o, found, lane, seen⟩ := step.session_cases changed
      exact ⟨n, isInteractive_iff.mpr ⟨o, found, lane⟩, seen⟩
    · exact absurd (congrArg Lanes.session same) changed

theorem sample_serialized :
    ∃ t, sample.Run sampleTrace t ∧ (∃ u, Step t [.reached 1 .started] u) ∧
      Serialized sampleTrace t := by
  obtain ⟨t, run, started, -⟩ := sample_run
  exact ⟨t, run, started, Run.serialized sample_isFresh run⟩

end TokenAcquisition.Dispatch.System
