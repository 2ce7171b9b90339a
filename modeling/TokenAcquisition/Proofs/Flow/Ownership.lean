import TokenAcquisition.Proofs.Flow.Resolution
import TokenAcquisition.Proofs.Program.Attribution

/-!
Whose correlation id a flow deals with.  As long as all requests on a flow are made under one id,
so is what it launches; and nothing that a flow or a completion of it fails with has an id on it.
Only who chooses and launches agents may hand over a failure that has one.
-/

namespace TokenAcquisition.Flow

theorem failsBare_ensureIdle (flow : Flow) : FailsBare flow.ensureIdle := by
  unfold ensureIdle
  split
  next => exact .ok ()
  next => exact .client _ _
  next => exact .client _ _

namespace Call

def IsRequest : Call → Prop
  | .request _ _ _ _ => True
  | _ => False

/-- The failure that a request has come to. -/
def failure? : Call → Option Failure
  | .request _ _ _ (.refused failure) => some failure
  | .request _ _ _ (.dispatched _ _ (.failing failure)) => some failure
  | .request _ _ _ (.dispatched _ _ (.failed failure _)) => some failure
  | _ => none

/-- The failure that a request was handed between two states of it, while an agent was chosen or
launched. -/
def handed? : Call → Call → Option Failure
  | .request _ _ _ .selecting, .request _ _ _ (.refused failure) => some failure
  | .request _ _ _ (.dispatched _ _ .launching),
      .request _ _ _ (.dispatched _ _ (.failing failure)) => some failure
  | _, _ => none

/-- If it is a request, the call is made under the id, and has come to no failure but one of a
kind. -/
def IsOwn (kind : Failure → Prop) (id : Uuid) : Call → Prop
  | .request authorization classify bound progress =>
      authorization.correlation = some id ∧ classify = byState ∧ bound = some id.render ∧
        ∀ failure, (request authorization classify bound progress).failure? = some failure →
          kind failure
  | _ => True

variable {kind kind' : Failure → Prop} {id : Uuid} {flow flow' : Flow} {call call' : Call}
  {contacts : List Contact}

theorem IsOwn.mono (own : call.IsOwn kind id)
    (implies : ∀ {failure : Failure}, kind failure → kind' failure) : call.IsOwn kind' id := by
  cases call with
  | request =>
      obtain ⟨asked, platform, named, fails⟩ := own
      exact ⟨asked, platform, named, fun failure failed => implies (fails failure failed)⟩
  | _ => exact trivial

theorem IsOwn.of_not_isRequest (other : ¬ call.IsRequest) : call.IsOwn kind id := by
  cases call with
  | request => exact absurd trivial other
  | _ => exact trivial

theorem isRequest_of_handed? {failure : Failure} (now : call.handed? call' = some failure) :
    call.IsRequest := by
  unfold handed? at now
  split at now
  next => exact trivial
  next => exact trivial
  next => cases now

@[simp]
theorem handed?_self (call : Call) : call.handed? call = none := by
  cases call with
  | request _ _ _ progress =>
      cases progress with
      | dispatched _ _ start => cases start <;> rfl
      | _ => rfl
  | _ => rfl

theorem Step.isRequest (step : Step flow call contacts flow' call') (request : call.IsRequest) :
    call'.IsRequest := by
  cases step <;> exact request

/-- What a request has come to in a step it was handed in it, had come to before, or is a refusal
of the flow. -/
theorem Step.failure?_cases (step : Step flow call contacts flow' call') {failure : Failure}
    (failed : call'.failure? = some failure) :
    call.handed? call' = some failure ∨ call.failure? = some failure ∨ failure.IsBare := by
  cases step with
  | refuse refused =>
      obtain rfl := Option.some.inj failed
      exact .inr (.inr (flow.failsBare_ensureIdle _ refused))
  | refuseLate refused =>
      obtain rfl := Option.some.inj failed
      exact .inr (.inr (flow.failsBare_ensureIdle _ refused))
  | selectNone | fail => exact .inl failed
  | giveUp => exact .inr (.inl failed)
  | _ => cases failed

theorem IsOwn.step (own : call.IsOwn kind id) (step : Step flow call contacts flow' call')
    (bare : ∀ {failure : Failure}, failure.IsBare → kind failure)
    (handed : ∀ failure, call.handed? call' = some failure → kind failure) :
    call'.IsOwn kind id := by
  cases call with
  | request authorization classify bound progress =>
      obtain ⟨asked, platform, named, fails⟩ := own
      have fails (failure : Failure) (failed : call'.failure? = some failure) : kind failure := by
        rcases step.failure?_cases failed with now | before | refused
        · exact handed failure now
        · exact fails failure before
        · exact bare refused
      cases step <;> exact ⟨asked, platform, named, fails⟩
  | _ => cases step <;> exact trivial

end Call

namespace Shared

variable {kind : Failure → Prop} {id : Uuid} {s t : Shared} {n : Nat}

theorem Step.length_calls_le (step : Step s n t) : s.calls.length ≤ t.calls.length := by
  cases step <;> simp

/-- The failures that requests were handed between two states of the calls on a flow. -/
def handed (before after : List Call) : List Failure :=
  (before.zip after).filterMap fun calls => calls.1.handed? calls.2

theorem exists_of_mem_handed {before after : List Call} {failure : Failure}
    (member : failure ∈ handed before after) :
    ∃ (k : Nat) (call call' : Call), before[k]? = some call ∧ after[k]? = some call' ∧
      call.handed? call' = some failure := by
  obtain ⟨⟨call, call'⟩, both, now⟩ := List.mem_filterMap.mp member
  obtain ⟨k, atK⟩ := List.mem_iff_getElem?.mp both
  obtain ⟨found, found'⟩ := List.getElem?_zip_eq_some.mp atK
  exact ⟨k, call, call', found, found', now⟩

theorem mem_handed {before after : List Call} {call call' : Call} {failure : Failure}
    (found : before[n]? = some call) (found' : after[n]? = some call')
    (now : call.handed? call' = some failure) : failure ∈ handed before after := by
  have both : (before.zip after)[n]? = some (call, call') :=
    List.getElem?_zip_eq_some.mpr ⟨found, found'⟩
  exact List.mem_filterMap.mpr ⟨_, List.mem_of_getElem? both, now⟩

/-- All requests on a flow are made under the id, and have come to no failure but of a kind. -/
def IsOwn (kind : Failure → Prop) (id : Uuid) (s : Shared) : Prop :=
  ∀ call ∈ s.calls, call.IsOwn kind id

theorem IsOwn.step (own : s.IsOwn kind id) (step : Step s n t)
    (bare : ∀ {failure : Failure}, failure.IsBare → kind failure)
    (begun : ∀ {k : Nat} {call : Call}, call.IsBegun → s.calls[k]? = none →
      t.calls[k]? = some call → call.IsOwn kind id)
    (fails : ∀ failure ∈ handed s.calls t.calls, kind failure) : t.IsOwn kind id := by
  cases step with
  | enter call new =>
      intro other member
      rcases List.mem_append.mp member with before | last
      · exact own other before
      · obtain rfl := List.mem_singleton.mp last
        exact begun new (List.getElem?_eq_none (Nat.le_refl _)) List.getElem?_concat_length
  | @go _ call contacts flow call' found step =>
      have inside := (List.getElem?_eq_some_iff.mp found).1
      intro other member
      obtain rfl | ⟨m, -, atOther⟩ := Lists.mem_set_cases member
      · refine (own call (List.mem_of_getElem? found)).step step bare fun failure now => ?_
        exact fails failure (mem_handed found (List.getElem?_set_self inside) now)
      · exact own other (List.mem_of_getElem? atOther)

theorem IsOwn.of_refused (own : s.IsOwn kind id) {call : Call} (member : call ∈ s.calls)
    {failure : Failure} (refused : call.started? = some (.refused failure)) : kind failure := by
  have own := own call member
  unfold Call.started? at refused
  split at refused
  next =>
    cases refused
    exact own.2.2.2 _ rfl
  next => cases refused
  next => cases refused
  next =>
    cases refused
    exact own.2.2.2 _ rfl
  next => cases refused
  next => cases refused

namespace Coherent

/-- What is launched for requests under an id has the id on it. -/
theorem correlationId_eq (coherent : s.Coherent) (own : s.IsOwn kind id) {launch : Launch}
    (launched : launch ∈ s.launches) : launch.correlationId = some id.render := by
  obtain ⟨call, member, dispatched⟩ :=
    List.mem_flatMap.mp (coherent.launches.mem_iff.mp launched)
  rcases call with ⟨_, _, bound, _ | _ | _ | _ | _ | ⟨other, channel, progress⟩⟩ | _ | _ <;>
    simp [Call.launches] at dispatched
  subst dispatched
  obtain ⟨-, -, ⟨agent, made⟩, -⟩ := coherent.sound _ member
  rw [made]
  exact (own _ member).2.2.1

/-- Whoever awaits the redirect of a request is told no failure that has an id on it. -/
theorem failsBare_answer (coherent : s.Coherent) (own : s.IsOwn kind id)
    {answer : Except Failure AuthorizationResult} (told : s.flow.answer = some answer) :
    FailsBare answer := by
  obtain ⟨content, present, told⟩ := Option.bind_eq_some_iff.mp told
  cases content with
  | waiting => cases told
  | dropped =>
      obtain rfl := Option.some.inj told
      exact .client _ _
  | sent answer' =>
      obtain rfl : answer' = answer := Option.some.inj told
      have left := coherent.channels.mem_iff.mp (List.mem_of_getElem? present)
      rcases List.mem_append.mp left with unanswered | left
      · obtain ⟨_, -, same⟩ := List.mem_map.mp unanswered
        cases same
      · obtain ⟨call, member, left⟩ := List.mem_flatMap.mp left
        rcases Call.answer_cases left told with
          ⟨failure, dropped, _, _, _, _, _, rfl⟩ | ⟨_, _, completion, pending, rfl, rfl⟩ |
            ⟨pending, rfl, rfl⟩
        · obtain ⟨_, -, same⟩ := List.mem_map.mp left
          cases same
        · -- The completion was classified as whoever made the request had asked.
          have taken : pending ∈ s.calls.flatMap Call.taken :=
            List.mem_flatMap.mpr ⟨_, member, List.mem_singleton_self _⟩
          obtain ⟨_, _, _, opener⟩ := coherent.exists_opener taken
          rw [(own _ opener).2.1]
          exact completion.failsBare_result _
        · exact .client _ _

end Coherent

end Shared

end TokenAcquisition.Flow
