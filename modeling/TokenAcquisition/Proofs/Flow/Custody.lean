import Mathlib.Data.List.Perm.Basic
import Mathlib.Tactic.Tauto
import TokenAcquisition.Proofs.Flow.Calls
import TokenAcquisition.Proofs.Lists

/-!
Who holds what.  At any time each handle that a launch returned is with the call that launched,
with the flow, with a call that took it from the flow, or released; and each request that was
dispatched is pending in the flow or with the one call that took it.  Every step of a call only
moves them on, so nothing of either is lost or doubled.
-/

namespace TokenAcquisition.Flow

/-- What the parts of a flow have to do with one another. -/
structure Consistent (flow : Flow) : Prop where
  pending_iff :
    flow.pending.isSome = true ↔ flow.stage = .dispatched ∨ flow.stage = .awaitingRedirect
  awaiting_of_handle : flow.handle.isSome = true → flow.stage = .awaitingRedirect
  token_iff : flow.token.isSome = true ↔ flow.channels ≠ []
  channels_of_idle : flow.stage = .idle → flow.channels = []
  channels_length : flow.channels.length ≤ 1

namespace Consistent

variable {flow : Flow}

theorem initial : Consistent {} := by
  constructor <;> simp

theorem handle_eq_none (consistent : Consistent flow) (elsewhere : flow.stage ≠ .awaitingRedirect) :
    flow.handle = none := by
  by_contra held
  exact elsewhere (consistent.awaiting_of_handle (Option.isSome_iff_ne_none.mpr held))

theorem pending_eq_none (consistent : Consistent flow) (first : flow.stage ≠ .dispatched)
    (second : flow.stage ≠ .awaitingRedirect) : flow.pending = none := by
  by_contra held
  have := consistent.pending_iff.mp (Option.isSome_iff_ne_none.mpr held)
  tauto

theorem dispatched (consistent : Consistent flow) (idle : flow.stage = .idle)
    (request : AuthorizationRequest) (classify : Classifier) (token : Uuid) :
    Consistent (flow.dispatched request classify token) where
  pending_iff := by simp [Flow.dispatched]
  awaiting_of_handle := by
    simp [Flow.dispatched, consistent.handle_eq_none (by simp [idle])]
  token_iff := by simp [Flow.dispatched]
  channels_of_idle := by simp [Flow.dispatched]
  channels_length := by simp [Flow.dispatched, consistent.channels_of_idle idle]

theorem keep (consistent : Consistent flow) (dispatched : flow.stage = .dispatched)
    (handle : AgentHandle) :
    Consistent { flow with stage := .awaitingRedirect, handle := some handle } where
  pending_iff := by simp [consistent.pending_iff, dispatched]
  awaiting_of_handle := by simp
  token_iff := consistent.token_iff
  channels_of_idle := by simp
  channels_length := consistent.channels_length

theorem put (consistent : Consistent flow) (channel : Nat) (content : Channel) :
    Consistent (flow.put channel content) where
  pending_iff := consistent.pending_iff
  awaiting_of_handle := consistent.awaiting_of_handle
  token_iff := by simp [Flow.put, consistent.token_iff]
  channels_of_idle idle := by simp [Flow.put, consistent.channels_of_idle idle]
  channels_length := by simp [Flow.put, consistent.channels_length]

theorem abandon (consistent : Consistent flow) (pending : Option Pending) :
    Consistent (flow.abandon pending) := by
  cases pending with
  | none => exact consistent
  | some pending => exact consistent.put _ _

theorem completed (consistent : Consistent flow) : Consistent flow.completed where
  pending_iff := by simp [Flow.completed]
  awaiting_of_handle := by simp [Flow.completed]
  token_iff := consistent.token_iff
  channels_of_idle := by simp [Flow.completed]
  channels_length := consistent.channels_length

theorem closed (consistent : Consistent flow) : Consistent flow.closed where
  pending_iff := by simp [Flow.closed]
  awaiting_of_handle := by simp [Flow.closed]
  token_iff := consistent.token_iff
  channels_of_idle := by simp [Flow.closed]
  channels_length := consistent.channels_length

theorem close (consistent : Consistent flow) : Consistent flow.close.2.2 := by
  unfold Flow.close
  split
  · exact consistent
  · exact consistent.closed

/-- A launch that fails leaves no handle behind, unless another one bound it. -/
theorem launchFailed (consistent : Consistent flow) (unbound : flow.stage ≠ .awaitingRedirect) :
    Consistent flow.launchFailed := by
  have abandoned := consistent.abandon flow.pending
  constructor
  · simp [Flow.launchFailed]
  · simp [Flow.launchFailed, consistent.handle_eq_none unbound]
  · exact abandoned.token_iff
  · simp [Flow.launchFailed]
  · exact abandoned.channels_length

end Consistent

/-- What the channel of a request holds while the flow keeps the request. -/
def kept (flow : Flow) : List Channel :=
  flow.pending.toList.map fun _ => .waiting

/-! ### What a step does to the flow -/

namespace Call

variable {flow flow' : Flow} {call call' : Call} {contacts : List Contact}

/-- The launch has begun, and the flow does not know its end. -/
def Launching.IsOpen : Launching → Prop
  | .launching => True
  | .bound _ => True
  | .failing _ => True
  | _ => False

/-- What holds of a call whenever it stands still. -/
def Sound (flow : Flow) : Call → Prop
  | .request authorization _ bound (.dispatched launch channel progress) =>
      channel = 0 ∧ flow.token = some launch.token ∧
        (∃ agent, launch = launchOf authorization agent launch.token bound) ∧
        (progress.IsOpen → flow.stage ≠ .awaitingRedirect)
  | .complete requestCode token _ progress =>
      match progress with
      | .begun | .ignored => True
      | _ => requestCode = browserFlow ∧ flow.token = some token
  | .dispose progress =>
      match progress with
      | .begun => True
      | _ => flow.stage = .disposed
  | _ => True

theorem Sound.of_isBegun (begun : call.IsBegun) : call.Sound flow := by
  rcases call with ⟨_, _, _, _ | _⟩ | ⟨_, _, _, _ | _⟩ | ⟨_ | _⟩ <;> simp_all [IsBegun, Sound]

theorem Step.consistent (step : Step flow call contacts flow' call')
    (consistent : Consistent flow) (sound : call.Sound flow) : Consistent flow' := by
  cases step with
  | dispatch token dispatched =>
      obtain ⟨idle, -, rfl⟩ := dispatch_eq_ok_iff.mp dispatched
      exact consistent.dispatched idle _ _ _
  | keep kept =>
      obtain ⟨dispatched, rfl⟩ := launched_eq_kept kept
      exact consistent.keep dispatched _
  | keepNot given =>
      obtain ⟨-, rfl, -⟩ := launched_eq_surplus given
      exact consistent
  | giveUp => exact consistent.launchFailed (sound.2.2.2 trivial)
  | take took =>
      obtain ⟨-, -, -, -, rfl⟩ := take?_eq_some_iff.mp took
      exact consistent.completed
  | resolve => exact consistent.put _ _
  | close closed =>
      have := consistent.close
      rwa [closed] at this
  | abandon => exact consistent.abandon _
  | _ => exact consistent

/-- A step moves handles from the agent to the call, between the call and the flow, or back to the
agent. -/
theorem Step.countP_handles (step : Step flow call contacts flow' call')
    (consistent : Consistent flow) (p : AgentHandle → Bool) :
    (contacts.filterMap Contact.bound?).countP p + call.held.countP p +
        flow.handle.toList.countP p =
      (contacts.filterMap Contact.released?).countP p + call'.held.countP p +
        flow'.handle.toList.countP p := by
  cases step with
  | dispatch token dispatch =>
      obtain ⟨-, -, rfl⟩ := dispatch_eq_ok_iff.mp dispatch
      simp [held, Flow.dispatched, List.filterMap_cons]
  | keep kept =>
      obtain ⟨dispatched, rfl⟩ := launched_eq_kept kept
      have unbound := consistent.handle_eq_none (by simp [dispatched])
      simp [held, unbound]
  | keepNot given =>
      obtain ⟨-, rfl, rfl⟩ := launched_eq_surplus given
      simp [held]
  | take took =>
      obtain ⟨-, -, -, rfl, rfl⟩ := take?_eq_some_iff.mp took
      simp [held, completed]
  | close closing =>
      obtain ⟨-, -, rfl, rfl⟩ | ⟨-, -, rfl, rfl⟩ := close_eq_cases closing
      · simp [held]
      · simp [held, closed]
  | _ => simp [held, launchFailed, Flow.resolve, Flow.put]

/-- A step moves a request from the call that dispatched it to the flow, or from the flow to the
call that takes it. -/
theorem Step.countP_pendings (step : Step flow call contacts flow' call')
    (consistent : Consistent flow) (p : Pending → Bool) :
    call'.opened.countP p + flow.pending.toList.countP p + call.taken.countP p =
      call.opened.countP p + flow'.pending.toList.countP p + call'.taken.countP p := by
  cases step with
  | dispatch token dispatch =>
      obtain ⟨idle, -, rfl⟩ := dispatch_eq_ok_iff.mp dispatch
      have unset := consistent.pending_eq_none (by simp [idle]) (by simp [idle])
      simp [opened, taken, dispatched, unset]
  | keep kept =>
      obtain ⟨-, rfl⟩ := launched_eq_kept kept
      simp [opened, taken]
  | keepNot given =>
      obtain ⟨-, rfl, -⟩ := launched_eq_surplus given
      simp [opened, taken]
  | take took =>
      obtain ⟨-, -, held, -, rfl⟩ := take?_eq_some_iff.mp took
      simp [opened, taken, completed, held]
  | close closing =>
      obtain ⟨-, rfl, -, rfl⟩ | ⟨-, rfl, -, rfl⟩ := close_eq_cases closing
      · simp [opened, taken]
      · simp [opened, taken, closed]
  | _ => simp [opened, taken, launchFailed, Flow.resolve, Flow.put]

theorem Step.countP_launches (step : Step flow call contacts flow' call') (p : Launch → Bool) :
    (contacts.filterMap Contact.launch?).countP p + call.launches.countP p =
      call'.launches.countP p := by
  cases step <;> simp [launches, List.filterMap_cons]

theorem Step.length_bound (step : Step flow call contacts flow' call') :
    (contacts.filterMap Contact.bound?).length + call.returned.length =
      call'.returned.length := by
  cases step <;> simp [returned, List.filterMap_cons]

/-- A channel comes with the request that dispatches the flow. -/
theorem Step.length_channels (step : Step flow call contacts flow' call') :
    call.opened.length + flow'.channels.length = call'.opened.length + flow.channels.length := by
  cases step with
  | dispatch token dispatch =>
      obtain ⟨-, -, rfl⟩ := dispatch_eq_ok_iff.mp dispatch
      simp [opened, dispatched, Nat.add_comm]
  | keep kept =>
      obtain ⟨-, rfl⟩ := launched_eq_kept kept
      simp [opened]
  | keepNot given =>
      obtain ⟨-, rfl, -⟩ := launched_eq_surplus given
      simp [opened]
  | giveUp => cases held : flow.pending <;> simp [opened, launchFailed, Flow.abandon, put, held]
  | take took =>
      obtain ⟨-, -, -, -, rfl⟩ := take?_eq_some_iff.mp took
      simp [opened, completed]
  | resolve => simp [opened, Flow.resolve, put]
  | close closing =>
      obtain ⟨-, -, -, rfl⟩ | ⟨-, -, -, rfl⟩ := close_eq_cases closing <;> simp [opened, closed]
  | abandon =>
      next pending => cases pending <;> simp [opened, Flow.abandon, put]
  | _ => simp [opened]

theorem Step.token_eq (step : Step flow call contacts flow' call') (consistent : Consistent flow)
    {token : Uuid} (set : flow.token = some token) : flow'.token = some token := by
  cases step with
  | dispatch _ dispatch =>
      obtain ⟨idle, -, -⟩ := dispatch_eq_ok_iff.mp dispatch
      have := consistent.token_iff.mp (by simp [set])
      exact absurd (consistent.channels_of_idle idle) this
  | keep kept =>
      obtain ⟨-, rfl⟩ := launched_eq_kept kept
      exact set
  | keepNot given =>
      obtain ⟨-, rfl, -⟩ := launched_eq_surplus given
      exact set
  | giveUp => simpa [launchFailed] using set
  | take took =>
      obtain ⟨-, -, -, -, rfl⟩ := take?_eq_some_iff.mp took
      exact set
  | close closing =>
      obtain ⟨-, -, -, rfl⟩ | ⟨-, -, -, rfl⟩ := close_eq_cases closing <;> exact set
  | abandon => simpa using set
  | _ => exact set

theorem Step.stage_of_disposed (step : Step flow call contacts flow' call')
    (consistent : Consistent flow) (disposed : flow.stage = .disposed) :
    flow'.stage = .disposed := by
  cases step with
  | dispatch _ dispatch =>
      obtain ⟨idle, -, -⟩ := dispatch_eq_ok_iff.mp dispatch
      simp [idle] at disposed
  | keep kept =>
      obtain ⟨dispatched, -⟩ := launched_eq_kept kept
      simp [dispatched] at disposed
  | keepNot given =>
      obtain ⟨-, rfl, -⟩ := launched_eq_surplus given
      exact disposed
  | giveUp => rfl
  | take took =>
      obtain ⟨-, -, held, -, -⟩ := take?_eq_some_iff.mp took
      have := consistent.pending_eq_none (by simp [disposed]) (by simp [disposed])
      simp [this] at held
  | close closing =>
      obtain ⟨-, -, -, rfl⟩ | ⟨-, -, -, rfl⟩ := close_eq_cases closing
      · exact disposed
      · rfl
  | abandon => simpa using disposed
  | _ => exact disposed

/-- Only the request that dispatched the flow brings it to await its redirect. -/
theorem Step.stage_of_awaiting (step : Step flow call contacts flow' call')
    (awaiting : flow'.stage = .awaitingRedirect) :
    flow.stage = .awaitingRedirect ∨ call.opened ≠ [] := by
  cases step with
  | dispatch _ dispatch =>
      obtain ⟨-, -, rfl⟩ := dispatch_eq_ok_iff.mp dispatch
      cases awaiting
  | keep => exact .inr (by simp [opened])
  | keepNot given =>
      obtain ⟨-, rfl, -⟩ := launched_eq_surplus given
      exact .inl awaiting
  | giveUp => cases awaiting
  | take took =>
      obtain ⟨-, -, -, -, rfl⟩ := take?_eq_some_iff.mp took
      cases awaiting
  | close closing =>
      obtain ⟨-, -, -, rfl⟩ | ⟨-, -, -, rfl⟩ := close_eq_cases closing
      · exact .inl awaiting
      · cases awaiting
  | abandon => exact .inl (by simpa using awaiting)
  | _ => exact .inl awaiting

/-- A call stays sound by its own steps. -/
theorem Step.sound (step : Step flow call contacts flow' call') (consistent : Consistent flow)
    (sound : call.Sound flow) : call'.Sound flow' := by
  cases step with
  | dispatch token dispatch =>
      obtain ⟨idle, rfl, rfl⟩ := dispatch_eq_ok_iff.mp dispatch
      refine ⟨by simp [consistent.channels_of_idle idle], rfl, ⟨_, rfl⟩, ?_⟩
      simp [dispatched]
  | bind => exact ⟨sound.1, sound.2.1, sound.2.2.1, fun _ => sound.2.2.2 trivial⟩
  | fail => exact ⟨sound.1, sound.2.1, sound.2.2.1, fun _ => sound.2.2.2 trivial⟩
  | panic => exact ⟨sound.1, sound.2.1, sound.2.2.1, False.elim⟩
  | keep kept =>
      obtain ⟨-, rfl⟩ := launched_eq_kept kept
      exact ⟨sound.1, sound.2.1, sound.2.2.1, False.elim⟩
  | keepNot given =>
      obtain ⟨-, rfl, -⟩ := launched_eq_surplus given
      exact ⟨sound.1, sound.2.1, sound.2.2.1, False.elim⟩
  | giveBack => exact ⟨sound.1, sound.2.1, sound.2.2.1, False.elim⟩
  | giveUp =>
      exact ⟨sound.1, by simpa [launchFailed] using sound.2.1, sound.2.2.1, False.elim⟩
  | take took =>
      obtain ⟨known, own, -, -, rfl⟩ := take?_eq_some_iff.mp took
      exact ⟨known, own⟩
  | close closing =>
      obtain ⟨disposed, -, -, rfl⟩ | ⟨-, -, -, rfl⟩ := close_eq_cases closing
      · exact disposed
      · rfl
  | abandon =>
      next pending => exact (abandon_stage flow pending).trans sound
  | check | refuse | select | selectNone | selectPanic | refuseLate | ignore => trivial
  | releaseTaken | resolve | releaseClosed => exact sound

/-- A call stays sound by the steps of others; not both dispatched the flow. -/
theorem Sound.frame {other : Call} (sound : other.Sound flow)
    (step : Step flow call contacts flow' call') (consistent : Consistent flow)
    (single : call.opened = [] ∨ other.opened = []) : other.Sound flow' := by
  cases other with
  | request authorization classify bound progress =>
      cases progress with
      | dispatched launch channel progress =>
          obtain ⟨number, own, built, unbound⟩ := sound
          refine ⟨number, step.token_eq consistent own, built, fun isOpen awaiting => ?_⟩
          rcases step.stage_of_awaiting awaiting with before | mine
          · exact unbound isOpen before
          · exact single.elim mine (by simp [opened])
      | _ => trivial
  | complete requestCode token completion progress =>
      cases progress with
      | begun | ignored => trivial
      | _ => exact ⟨sound.1, step.token_eq consistent sound.2⟩
  | dispose progress =>
      cases progress with
      | begun => trivial
      | _ => exact step.stage_of_disposed consistent sound

/-- A step puts the answer of a request into the channel that waits for it. -/
theorem Step.countP_channels (step : Step flow call contacts flow' call')
    (consistent : Consistent flow)
    (keeps : ∀ pending, flow.pending = some pending →
      flow.channels[pending.channel]? = some .waiting)
    (waits : .waiting ∈ call.contents → ∀ pending ∈ call.taken,
      flow.channels[pending.channel]? = some .waiting)
    (p : Channel → Bool) :
    flow'.channels.countP p + flow.kept.countP p + call.contents.countP p =
      flow.channels.countP p + flow'.kept.countP p + call'.contents.countP p := by
  cases step with
  | dispatch token dispatch =>
      obtain ⟨idle, -, rfl⟩ := dispatch_eq_ok_iff.mp dispatch
      have unset := consistent.pending_eq_none (by simp [idle]) (by simp [idle])
      simp [contents, dispatched, kept, unset]
  | keep given =>
      obtain ⟨-, rfl⟩ := launched_eq_kept given
      simp [contents, kept]
  | keepNot given =>
      obtain ⟨-, rfl, -⟩ := launched_eq_surplus given
      simp [contents]
  | giveUp =>
      cases held : flow.pending with
      | none => simp [contents, launchFailed, Flow.abandon, kept, held]
      | some pending =>
          have := Lists.countP_set .dropped p (keeps pending held)
          simpa [contents, launchFailed, Flow.abandon, put, kept, held] using this
  | take took =>
      obtain ⟨-, -, held, -, rfl⟩ := take?_eq_some_iff.mp took
      simp [contents, completed, kept, held]
  | @resolve _ _ completion pending =>
      have waiting := waits (by simp [contents]) pending (by simp [taken])
      have := Lists.countP_set (.sent (pending.classify completion pending.request)) p waiting
      simp only [contents, Flow.resolve, put, kept]
      omega
  | close closing =>
      obtain ⟨-, rfl, -, rfl⟩ | ⟨-, rfl, -, rfl⟩ := close_eq_cases closing
      · simp [contents]
      · simp [contents, closed, kept]
  | @abandon pending =>
      cases pending with
      | none => simp [contents, Flow.abandon]
      | some pending =>
          have waiting := waits (by simp [contents]) pending (by simp [taken])
          have := Lists.countP_set .dropped p waiting
          simp only [contents, Flow.abandon, put, kept, Option.toList_some, List.map_cons,
            List.map_nil]
          omega
  | _ => simp [contents]

end Call

theorem Shared.Step.stage_of_disposed {s t : Shared} {n : Nat} (step : Step s n t)
    (consistent : s.flow.Consistent) (disposed : s.flow.stage = .disposed) :
    t.flow.stage = .disposed := by
  cases step with
  | enter => exact disposed
  | go _ step => exact step.stage_of_disposed consistent disposed

end TokenAcquisition.Flow
