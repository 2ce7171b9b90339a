import TokenAcquisition.Proofs.Flow.Coherence

/-!
A flow is resolved once.  Whoever awaits a redirect is told the result of the one completion that
took the request, or that a disposal took it; a completion that takes nothing changes nothing.
-/

namespace TokenAcquisition.Flow

namespace Call

/-- A completion that has taken nothing, and will not unless it has still to begin. -/
def TookNothing : Call → Prop
  | .complete _ _ _ .begun => True
  | .complete _ _ _ .ignored => True
  | _ => False

/-- A completion that is known to take nothing by its step has not changed the flow. -/
theorem Step.tookNothing {flow flow' : Flow} {call call' : Call} {contacts : List Contact}
    (step : Step flow call contacts flow' call') (nothing : call'.TookNothing) :
    call.TookNothing ∧ flow' = flow := by
  cases step <;> simp_all [TookNothing]

def HasResolved : Call → Prop
  | .complete _ _ _ (.resolved _) => True
  | _ => False

theorem HasResolved.taken_ne_nil {call : Call} (resolved : call.HasResolved) :
    call.taken ≠ [] := by
  unfold HasResolved at resolved
  split at resolved
  next => simp [taken]
  next => cases resolved

/-- What a call has left in a channel, if that tells anything. -/
theorem answer_cases {call : Call} {content : Channel} (left : content ∈ call.contents)
    {answer : Except Failure AuthorizationResult} (told : content.poll = some answer) :
    (∃ failure dropped authorization classify bound launch channel,
      call = .request authorization classify bound
        (.dispatched launch channel (.failed failure dropped))) ∨
      (∃ requestCode token completion pending,
        call = .complete requestCode token completion (.resolved pending) ∧
          answer = pending.classify completion pending.request) ∨
      ∃ pending, call = .dispose (.ended (some pending)) ∧ answer = .error abandoned := by
  unfold contents at left
  split at left
  next => exact .inl ⟨_, _, _, _, _, _, _, rfl⟩
  next =>
    obtain rfl := List.mem_singleton.mp left
    cases told
  next =>
    obtain rfl := List.mem_singleton.mp left
    cases told
  next pending =>
    obtain rfl := List.mem_singleton.mp left
    exact .inr (.inl ⟨_, _, _, pending, rfl, (Option.some.inj told).symm⟩)
  next =>
    obtain ⟨_, -, rfl⟩ := List.mem_map.mp left
    cases told
  next =>
    obtain ⟨_, -, rfl⟩ := List.mem_map.mp left
    cases told
  next pending =>
    obtain ⟨dropped, held, rfl⟩ := List.mem_map.mp left
    obtain rfl : pending = some dropped := by simpa using held
    exact .inr (.inr ⟨dropped, rfl, (Option.some.inj told).symm⟩)
  next => cases left

/-- Whoever took a request and is over has told something. -/
theorem exists_told {call : Call} (isOver : call.IsOver) {pending : Pending}
    (taken : pending ∈ call.taken) :
    ∃ content ∈ call.contents, ∃ answer, content.poll = some answer := by
  unfold Call.taken at taken
  split at taken
  next => exact ⟨.dropped, List.mem_map.mpr ⟨pending, taken, rfl⟩, _, rfl⟩
  next => cases isOver
  next => cases isOver
  next => exact ⟨_, List.mem_singleton_self _, _, rfl⟩
  next => cases isOver
  next => cases isOver
  next => exact ⟨.dropped, List.mem_map.mpr ⟨pending, taken, rfl⟩, _, rfl⟩
  next => cases taken

theorem length_launches (call : Call) : call.launches.length = call.opened.length := by
  rcases call with ⟨_, _, _, _ | _ | _ | _ | _ | _⟩ | _ | _ <;> rfl

end Call

namespace Shared

variable {s t : Shared} {n : Nat} {call call' : Call}

theorem Run.tookNothing (run : Run s t) (before : s.calls[n]? = some call)
    (after : t.calls[n]? = some call') (nothing : call'.TookNothing) : call.TookNothing := by
  induction run using Relation.ReflTransGen.head_induction_on generalizing call with
  | refl =>
      obtain rfl : call = call' := Option.some.inj (before.symm.trans after)
      exact nothing
  | head first _ inductionHypothesis =>
      obtain ⟨m, first⟩ := first
      obtain ⟨next, atNext, rfl | ⟨contacts, step⟩⟩ := first.call_cases before
      · exact inductionHypothesis atNext
      · exact (step.tookNothing (inductionHypothesis atNext)).1

theorem Step.flow_eq_of_tookNothing {u : Shared} (step : Step s n t) (run : Run t u)
    (after : u.calls[n]? = some call') (nothing : call'.TookNothing) : t.flow = s.flow := by
  cases step with
  | enter => rfl
  | @go _ before contacts flow next found step =>
      have inside := (List.getElem?_eq_some_iff.mp found).1
      have here : (s.calls.set n next)[n]? = some next := by simp [inside]
      exact (step.tookNothing (run.tookNothing here after nothing)).2

namespace Coherent

theorem length_launches_le (coherent : s.Coherent) : s.launches.length ≤ 1 := by
  have : (s.calls.flatMap Call.launches).length = (s.calls.flatMap Call.opened).length := by
    simp [List.length_flatMap, Call.length_launches]
  rw [coherent.launches.length_eq, this]
  exact coherent.length_opened_le

theorem launches_eq_singleton (coherent : s.Coherent) {call : Call} (member : call ∈ s.calls)
    {launch : Launch} (launched : launch ∈ call.launches) : s.launches = [launch] := by
  refine Lists.eq_singleton_of_mem coherent.length_launches_le ?_
  exact coherent.launches.mem_iff.mpr (List.mem_flatMap.mpr ⟨call, member, launched⟩)

/-- What was taken from the flow is what was dispatched. -/
theorem exists_opener (coherent : s.Coherent) {pending : Pending}
    (taken : pending ∈ s.calls.flatMap Call.taken) :
    ∃ launch bound progress, .request pending.request pending.classify bound
      (.dispatched launch pending.channel progress) ∈ s.calls := by
  have opened := coherent.pendings.mem_iff.mpr (List.mem_append_right _ taken)
  obtain ⟨call, member, opened⟩ := List.mem_flatMap.mp opened
  rcases call with ⟨_, _, _, _ | _ | _ | _ | _ | _⟩ | _ | _ <;> simp [Call.opened] at opened
  subst opened
  exact ⟨_, _, _, member⟩

/-- Nothing but what a request dispatched is with the flow or was taken from it. -/
theorem pending_eq (coherent : s.Coherent) {call : Call} (member : call ∈ s.calls)
    {own pending : Pending} (opened : own ∈ call.opened)
    (dispatched : pending ∈ s.flow.pending.toList ++ s.calls.flatMap Call.taken) :
    pending = own := by
  have only := Lists.eq_singleton_of_mem coherent.length_opened_le
    (List.mem_flatMap.mpr ⟨call, member, opened⟩)
  have inside := coherent.pendings.mem_iff.mpr dispatched
  simpa [only] using inside

theorem poll_eq (coherent : s.Coherent) {content : Channel}
    (left : content ∈ s.flow.kept ++ s.calls.flatMap Call.contents) :
    s.flow.poll 0 = content.poll := by
  simp [poll, coherent.channels_eq_singleton left]

/-- Whoever awaits a redirect is told what the one call that took the request has to tell. -/
theorem poll_eq_some_iff (coherent : s.Coherent) {authorization : AuthorizationRequest}
    {classify : Classifier} {bound : Option String} {launch : Launch} {channel : Nat}
    (member : .request authorization classify bound (.dispatched launch channel .awaiting) ∈
      s.calls) (answer : Except Failure AuthorizationResult) :
    s.flow.poll channel = some answer ↔
      (∃ requestCode token completion,
        .complete requestCode token completion
          (.resolved { request := authorization, classify, channel }) ∈ s.calls ∧
        answer = classify completion authorization) ∨
      (.dispose (.ended (some { request := authorization, classify, channel })) ∈ s.calls ∧
        answer = .error abandoned) := by
  obtain rfl : channel = 0 := (coherent.sound _ member).1
  have own {pending : Pending} {call : Call} (inside : call ∈ s.calls)
      (taken : pending ∈ call.taken) :
      pending = { request := authorization, classify, channel := 0 } :=
    coherent.pending_eq member (by simp [Call.opened])
      (List.mem_append_right _ (List.mem_flatMap.mpr ⟨call, inside, taken⟩))
  constructor
  · intro told
    obtain ⟨content, present⟩ : ∃ content, content ∈ s.flow.channels := by
      refine List.exists_mem_of_ne_nil _ fun nothing => ?_
      simp [poll, nothing] at told
    have left := coherent.channels.mem_iff.mp present
    rw [coherent.poll_eq left] at told
    rcases List.mem_append.mp left with unanswered | left
    · obtain ⟨pending, -, rfl⟩ := List.mem_map.mp unanswered
      cases told
    · obtain ⟨call, inside, left⟩ := List.mem_flatMap.mp left
      rcases Call.answer_cases left told with
        ⟨failure, dropped, _, _, _, _, _, rfl⟩ |
          ⟨requestCode, token, completion, pending, rfl, rfl⟩ | ⟨pending, rfl, rfl⟩
      · -- The request has returned a channel to wait at, so it has not failed.
        have := coherent.opener_eq member inside (by simp [Call.opened])
          (by simp [Call.opened])
        simp at this
      · obtain rfl := own inside (List.mem_singleton_self pending)
        exact .inl ⟨_, _, _, inside, rfl⟩
      · obtain rfl := own inside (List.mem_singleton_self pending)
        exact .inr ⟨inside, rfl⟩
  · have holds {call : Call} {content : Channel} (inside : call ∈ s.calls)
        (left : content ∈ call.contents) : s.flow.poll 0 = content.poll :=
      coherent.poll_eq (List.mem_append_right _ (List.mem_flatMap.mpr ⟨call, inside, left⟩))
    rintro (⟨requestCode, token, completion, inside, rfl⟩ | ⟨inside, rfl⟩)
    · exact holds inside (List.mem_singleton_self _)
    · exact holds inside (List.mem_singleton_self _)

theorem exists_told (coherent : s.Coherent) {authorization : AuthorizationRequest}
    {classify : Classifier} {bound : Option String} {launch : Launch} {channel : Nat}
    (member : .request authorization classify bound (.dispatched launch channel .awaiting) ∈
      s.calls) (quiet : s.Quiet) (nothing : s.flow.pending = none) :
    ∃ answer, s.flow.poll channel = some answer := by
  obtain rfl : channel = 0 := (coherent.sound _ member).1
  have opened : { request := authorization, classify, channel := 0 } ∈
      s.calls.flatMap Call.opened :=
    List.mem_flatMap.mpr ⟨_, member, List.mem_singleton_self _⟩
  have taken := coherent.pendings.mem_iff.mp opened
  rw [nothing] at taken
  obtain ⟨call, inside, taken⟩ := List.mem_flatMap.mp taken
  obtain ⟨content, left, answer, told⟩ := Call.exists_told (quiet call inside) taken
  refine ⟨answer, ?_⟩
  rw [coherent.poll_eq (List.mem_append_right _ (List.mem_flatMap.mpr ⟨call, inside, left⟩))]
  exact told

theorem resolver_known (coherent : s.Coherent) {requestCode : Int} {token : Uuid}
    {completion : Completion} {pending : Pending}
    (member : .complete requestCode token completion (.resolved pending) ∈ s.calls) :
    requestCode = browserFlow ∧
      ∃ launch, s.launches = [launch] ∧ launch.requestCode = requestCode ∧
        launch.token = token := by
  have ⟨known, own⟩ : requestCode = browserFlow ∧ s.flow.token = some token :=
    coherent.sound _ member
  have taken : pending ∈ s.calls.flatMap Call.taken :=
    List.mem_flatMap.mpr ⟨_, member, List.mem_singleton_self _⟩
  obtain ⟨launch, bound, progress, inside⟩ := coherent.exists_opener taken
  have ⟨_, set, ⟨agent, built⟩, _⟩ := coherent.sound _ inside
  refine ⟨known, launch, coherent.launches_eq_singleton inside (List.mem_singleton_self _), ?_, ?_⟩
  · rw [built, known]
    rfl
  · exact Option.some.inj (set.symm.trans own)

/-- The launch of a request that awaits a redirect is the only one. -/
theorem launched (coherent : Coherent s) {authorization : AuthorizationRequest}
    {classify : Classifier} {bound : Option String} {launch : Launch} {channel : Nat}
    (member : .request authorization classify bound (.dispatched launch channel .awaiting) ∈
      s.calls) :
    s.launches = [launch] ∧ ∃ agent, launch = launchOf authorization agent launch.token bound :=
  ⟨coherent.launches_eq_singleton member (by simp [Call.launches]),
    (coherent.sound _ member).2.2.1⟩

end Coherent

theorem Run.mem_of_isOver (run : Run s t) (member : call ∈ s.calls) (isOver : call.IsOver) :
    call ∈ t.calls := by
  obtain ⟨n, found⟩ := List.mem_iff_getElem?.mp member
  exact List.mem_of_getElem? (run.call_over found isOver)

/-- One launch, one completion at most that resolves the flow, one answer. -/
structure ResolvedOnce (s : Shared) : Prop where
  length_launches_le : s.launches.length ≤ 1
  resolver_unique : ∀ {i j : Nat} {first second : Call}, s.calls[i]? = some first →
    s.calls[j]? = some second → first.HasResolved → second.HasResolved → i = j
  /-- The completion that resolves the flow carries the code and the token of the launch. -/
  resolver_known : ∀ {requestCode token completion pending},
    .complete requestCode token completion (.resolved pending) ∈ s.calls →
    requestCode = browserFlow ∧
      ∃ launch, s.launches = [launch] ∧ launch.requestCode = requestCode ∧ launch.token = token
  /-- The request that was launched is the one whose caller awaits a redirect. -/
  launched : ∀ {authorization classify bound launch channel},
    .request authorization classify bound (.dispatched launch channel .awaiting) ∈ s.calls →
    s.launches = [launch] ∧ ∃ agent, launch = launchOf authorization agent launch.token bound
  /-- The caller is told what becomes of the completion that took the request, or that a disposal
  took it, and nothing else. -/
  told_iff : ∀ {authorization classify bound launch channel},
    .request authorization classify bound (.dispatched launch channel .awaiting) ∈ s.calls →
    ∀ answer, s.flow.poll channel = some answer ↔
      (∃ requestCode token completion,
        .complete requestCode token completion
          (.resolved { request := authorization, classify, channel }) ∈ s.calls ∧
        answer = classify completion authorization) ∨
      (.dispose (.ended (some { request := authorization, classify, channel })) ∈ s.calls ∧
        answer = .error abandoned)
  /-- The caller has been told once the request was taken and no call is in progress. -/
  told : ∀ {authorization classify bound launch channel},
    .request authorization classify bound (.dispatched launch channel .awaiting) ∈ s.calls →
    s.Quiet → s.flow.pending = none → ∃ answer, s.flow.poll channel = some answer
  /-- What the caller is told is never taken back. -/
  told_final : ∀ {authorization classify bound launch channel answer t},
    .request authorization classify bound (.dispatched launch channel .awaiting) ∈ s.calls →
    s.flow.poll channel = some answer → Run s t → t.flow.poll channel = some answer
  /-- No step of a completion that returns that it resolved nothing changes the flow. -/
  ignored : ∀ {n requestCode token completion t u}, Step s n t → Run t u →
    u.calls[n]? = some (.complete requestCode token completion .ignored) → t.flow = s.flow

theorem Reachable.resolvedOnce (reached : s.Reachable) : s.ResolvedOnce where
  length_launches_le := reached.coherent.length_launches_le
  resolver_unique atFirst atSecond some more :=
    reached.coherent.taker_unique atFirst atSecond some.taken_ne_nil more.taken_ne_nil
  resolver_known member := reached.coherent.resolver_known member
  launched member := reached.coherent.launched member
  told_iff := reached.coherent.poll_eq_some_iff
  told := reached.coherent.exists_told
  told_final := by
    intro authorization classify bound launch channel answer t member told run
    have later := (reached.run run).coherent
    refine (later.poll_eq_some_iff (run.mem_of_isOver member trivial) answer).mpr ?_
    rcases (reached.coherent.poll_eq_some_iff member answer).mp told with
      ⟨requestCode, token, completion, inside, same⟩ | ⟨inside, same⟩
    · exact .inl ⟨requestCode, token, completion, run.mem_of_isOver inside trivial, same⟩
    · exact .inr ⟨run.mem_of_isOver inside trivial, same⟩
  ignored step run after := step.flow_eq_of_tookNothing run after trivial

/-- A completion of a token has returned that it resolved the flow. -/
def Accepts (s : Shared) (token : Uuid) : Prop :=
  ∃ completion pending, .complete browserFlow token completion (.resolved pending) ∈ s.calls

/-- Whoever has disposed of the flow took the request from it. -/
def IsAbandoned (s : Shared) : Prop :=
  ∃ pending, .dispose (.ended (some pending)) ∈ s.calls

theorem Run.accepts {token : Uuid} (run : Run s t) (accepts : s.Accepts token) :
    t.Accepts token := by
  obtain ⟨completion, pending, member⟩ := accepts
  exact ⟨completion, pending, run.mem_of_isOver member trivial⟩

/-- A flow that somebody has resolved is not abandoned. -/
theorem Reachable.not_isAbandoned_of_resolved {call : Call} (reached : s.Reachable)
    (member : call ∈ s.calls) (resolved : call.HasResolved) : ¬ s.IsAbandoned := by
  rintro ⟨dropped, disposed⟩
  obtain ⟨i, atFirst⟩ := List.mem_iff_getElem?.mp member
  obtain ⟨j, atSecond⟩ := List.mem_iff_getElem?.mp disposed
  obtain rfl := reached.coherent.taker_unique atFirst atSecond resolved.taken_ne_nil
    (by simp [Call.taken])
  obtain rfl := Option.some.inj (atFirst.symm.trans atSecond)
  cases resolved

theorem Reachable.not_isAbandoned {token : Uuid} (reached : s.Reachable)
    (accepts : s.Accepts token) : ¬ s.IsAbandoned := by
  obtain ⟨completion, pending, resolved⟩ := accepts
  exact reached.not_isAbandoned_of_resolved resolved trivial

section

variable {request : AuthorizationRequest} {bound : Option String} {launch : Launch} {channel : Nat}

/-- The caller of a request is told what a completion of its launch brought, or that the flow is
abandoned. -/
theorem Reachable.told_cases (reached : s.Reachable)
    (member : .request request byState bound (.dispatched launch channel .awaiting) ∈ s.calls)
    {answer : Except Failure AuthorizationResult} (told : s.flow.answer = some answer) :
    (∃ completion pending,
        .complete browserFlow launch.token completion (.resolved pending) ∈ s.calls ∧
          completion.result request.state = answer) ∨
      s.IsAbandoned ∧ answer = .error abandoned := by
  have coherent := reached.coherent
  obtain rfl : channel = 0 := (coherent.sound _ member).1
  rcases (coherent.poll_eq_some_iff member _).mp told with
    ⟨requestCode, token, completion, resolved, same⟩ | ⟨disposed, same⟩
  · obtain ⟨rfl, other, launched, -, rfl⟩ := coherent.resolver_known resolved
    have own := (coherent.launched member).1
    obtain rfl : other = launch := by
      rw [launched] at own
      exact List.singleton_injective own
    exact .inl ⟨completion, _, resolved, same.symm⟩
  · exact .inr ⟨⟨_, disposed⟩, same⟩

/-- The caller of a request is told nothing until a completion of its launch is accepted or the
flow is disposed of. -/
theorem Reachable.answer_eq_none_iff (reached : s.Reachable)
    (member : .request request byState bound (.dispatched launch channel .awaiting) ∈ s.calls) :
    s.flow.answer = none ↔ ¬ s.Accepts launch.token ∧ ¬ s.IsAbandoned := by
  have coherent := reached.coherent
  obtain rfl : channel = 0 := (coherent.sound _ member).1
  have own {pending : Pending} {call : Call} (inside : call ∈ s.calls)
      (taken : pending ∈ call.taken) :
      pending = { request, classify := byState, channel := 0 } :=
    coherent.pending_eq member (by simp [Call.opened])
      (List.mem_append_right _ (List.mem_flatMap.mpr ⟨call, inside, taken⟩))
  constructor
  · intro silent
    have untold (answer : Except Failure AuthorizationResult) : s.flow.poll 0 ≠ some answer := by
      intro told
      cases silent.symm.trans told
    constructor
    · rintro ⟨completion, pending, resolved⟩
      obtain rfl := own resolved (List.mem_singleton_self _)
      exact untold _ ((coherent.poll_eq_some_iff member _).mpr (.inl ⟨_, _, _, resolved, rfl⟩))
    · rintro ⟨pending, disposed⟩
      obtain rfl := own disposed (List.mem_singleton_self _)
      exact untold _ ((coherent.poll_eq_some_iff member _).mpr (.inr ⟨disposed, rfl⟩))
  · rintro ⟨unaccepted, held⟩
    cases answer : s.flow.answer with
    | none => rfl
    | some result =>
        rcases reached.told_cases member answer with
          ⟨completion, pending, resolved, -⟩ | ⟨abandoned, -⟩
        · exact absurd ⟨completion, pending, resolved⟩ unaccepted
        · exact absurd abandoned held

end

/-- What comes of a flow that the user cancels before the launch has returned. -/
def hasty : Shared :=
  { flow :=
      { stage := .completed
        token := some signInLaunch.token
        channels := [.sent (.ok .cancel)] }
    calls :=
      [.request signIn byState none (.dispatched signInLaunch 0 .awaiting),
       .complete browserFlow signInLaunch.token { code := .cancel, payload := {} }
         (.resolved { request := signIn, classify := byState, channel := 0 })]
    contacts :=
      [.launch signInLaunch, .bound signInLaunch.handle, .release signInLaunch.handle] }

theorem hasty_reachable : hasty.Reachable := by
  have begun : Run {} _ := .single ⟨_, .enter (.request signIn byState none .begun) trivial⟩
  have checked := begun.tail ⟨0, .go rfl (.check rfl)⟩
  have selected := checked.tail ⟨0, .go rfl (.select { name := "browser" })⟩
  have dispatched := selected.tail ⟨0, .go rfl (.dispatch signInLaunch.token rfl)⟩
  have cancelled := dispatched.tail ⟨1, .enter (.complete browserFlow signInLaunch.token
    { code := .cancel, payload := {} } .begun) trivial⟩
  have taken := cancelled.tail ⟨1, .go rfl (.take (take?_eq_some_iff.mpr
    ⟨rfl, rfl, rfl, rfl, rfl⟩))⟩
  have bound := taken.tail ⟨0, .go rfl (.bind signInLaunch.handle)⟩
  have released := bound.tail ⟨1, .go rfl .releaseTaken⟩
  have resolved := released.tail ⟨1, .go rfl .resolve⟩
  have surplus := resolved.tail ⟨0, .go rfl (.keepNot rfl)⟩
  exact surplus.tail ⟨0, .go rfl .giveBack⟩

theorem hasty_resolvedOnce :
    hasty.Reachable ∧ hasty.flow.poll 0 = some (.ok .cancel) ∧ hasty.ResolvedOnce :=
  ⟨hasty_reachable, rfl, hasty_reachable.resolvedOnce⟩

end Shared

end TokenAcquisition.Flow
