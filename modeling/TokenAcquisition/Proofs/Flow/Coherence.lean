import TokenAcquisition.Proofs.Flow.Custody

/-!
What holds of a flow and of all calls on it together, whatever the order of their steps.
-/

namespace TokenAcquisition.Flow

/-- The flow and the calls on it have one account of what was dispatched, bound and answered. -/
structure Shared.Coherent (s : Shared) : Prop where
  consistent : s.flow.Consistent
  sound : ∀ call ∈ s.calls, call.Sound s.flow
  launches : s.launches.Perm (s.calls.flatMap Call.launches)
  length_bound : s.bound.length = (s.calls.flatMap Call.returned).length
  /-- What was bound is with the flow, with a call or released. -/
  handles : s.bound.Perm (s.released ++ s.flow.handle.toList ++ s.calls.flatMap Call.held)
  length_opened : (s.calls.flatMap Call.opened).length = s.flow.channels.length
  /-- What was dispatched is with the flow or was taken by one call. -/
  pendings : (s.calls.flatMap Call.opened).Perm
    (s.flow.pending.toList ++ s.calls.flatMap Call.taken)
  channels : s.flow.channels.Perm (s.flow.kept ++ s.calls.flatMap Call.contents)

namespace Shared.Coherent

variable {s : Shared}

theorem initial : Coherent {} := by
  constructor <;> simp [Consistent.initial, Shared.launches, bound, released, kept]

theorem length_opened_le (coherent : s.Coherent) : (s.calls.flatMap Call.opened).length ≤ 1 := by
  rw [coherent.length_opened]
  exact coherent.consistent.channels_length

theorem length_taken_le (coherent : s.Coherent) : (s.calls.flatMap Call.taken).length ≤ 1 := by
  have := coherent.pendings.length_eq
  have := coherent.length_opened_le
  simp only [List.length_append] at *
  omega

theorem opener_unique (coherent : s.Coherent) {i j : Nat} {first second : Call}
    (atFirst : s.calls[i]? = some first) (atSecond : s.calls[j]? = some second)
    (some : first.opened ≠ []) (more : second.opened ≠ []) : i = j :=
  Lists.eq_of_flatMap_length_le coherent.length_opened_le atFirst atSecond some more

theorem opener_eq (coherent : s.Coherent) {first second : Call} (atFirst : first ∈ s.calls)
    (atSecond : second ∈ s.calls) (some : first.opened ≠ []) (more : second.opened ≠ []) :
    first = second := by
  obtain ⟨i, atFirst⟩ := List.mem_iff_getElem?.mp atFirst
  obtain ⟨j, atSecond⟩ := List.mem_iff_getElem?.mp atSecond
  obtain rfl := coherent.opener_unique atFirst atSecond some more
  exact Option.some.inj (atFirst.symm.trans atSecond)

theorem taker_unique (coherent : s.Coherent) {i j : Nat} {first second : Call}
    (atFirst : s.calls[i]? = some first) (atSecond : s.calls[j]? = some second)
    (some : first.taken ≠ []) (more : second.taken ≠ []) : i = j :=
  Lists.eq_of_flatMap_length_le coherent.length_taken_le atFirst atSecond some more

theorem channel_eq_zero (coherent : s.Coherent) {pending : Pending}
    (dispatched : pending ∈ s.flow.pending.toList ++ s.calls.flatMap Call.taken) :
    pending.channel = 0 := by
  have opened := coherent.pendings.mem_iff.mpr dispatched
  obtain ⟨call, member, opened⟩ := List.mem_flatMap.mp opened
  have sound := coherent.sound call member
  rcases call with ⟨_, _, _, _ | _ | _ | _ | _ | _⟩ | _ | _ <;> simp [Call.opened] at opened
  next channel _ =>
    have : channel = 0 := sound.1
    rw [opened, this]

/-- There is one channel, and it holds what is left in it by whoever has the request. -/
theorem channels_eq_singleton (coherent : s.Coherent) {content : Channel}
    (left : content ∈ s.flow.kept ++ s.calls.flatMap Call.contents) :
    s.flow.channels = [content] :=
  Lists.eq_singleton_of_mem coherent.consistent.channels_length
    (coherent.channels.mem_iff.mpr left)

theorem waiting_of_pending (coherent : s.Coherent) {pending : Pending}
    (held : s.flow.pending = some pending) :
    s.flow.channels[pending.channel]? = some .waiting := by
  rw [coherent.channel_eq_zero (by simp [held]), coherent.channels_eq_singleton]
  · rfl
  · simp [kept, held]

theorem waiting_of_taken (coherent : s.Coherent) {call : Call} (member : call ∈ s.calls)
    (waits : .waiting ∈ call.contents) {pending : Pending} (taken : pending ∈ call.taken) :
    s.flow.channels[pending.channel]? = some .waiting := by
  rw [coherent.channel_eq_zero, coherent.channels_eq_singleton]
  · rfl
  · exact List.mem_append_right _ (List.mem_flatMap.mpr ⟨call, member, waits⟩)
  · exact List.mem_append_right _ (List.mem_flatMap.mpr ⟨call, member, taken⟩)

/-- A call that has only begun has nothing yet. -/
theorem enter (coherent : s.Coherent) {call : Call} (begun : call.IsBegun) :
    Coherent { s with calls := s.calls ++ [call] } := by
  obtain ⟨launches, returned, held, opened, taken, contents⟩ :
      call.launches = [] ∧ call.returned = [] ∧ call.held = [] ∧ call.opened = [] ∧
        call.taken = [] ∧ call.contents = [] := by
    rcases call with ⟨_, _, _, _ | _⟩ | ⟨_, _, _, _ | _⟩ | ⟨_ | _⟩ <;>
      simp_all [Call.IsBegun, Call.launches, Call.returned, Call.held, Call.opened, Call.taken,
        Call.contents]
  constructor
  · exact coherent.consistent
  · intro other member
    rcases List.mem_append.mp member with before | new
    · exact coherent.sound other before
    · exact Call.Sound.of_isBegun (List.mem_singleton.mp new ▸ begun)
  · simpa [Shared.launches, launches] using coherent.launches
  · simpa [bound, returned] using coherent.length_bound
  · simpa [bound, released, held] using coherent.handles
  · simpa [opened] using coherent.length_opened
  · simpa [opened, taken] using coherent.pendings
  · simpa [contents] using coherent.channels

theorem go (coherent : s.Coherent) {n : Nat} {call call' : Call} {contacts : List Contact}
    {flow : Flow} (found : s.calls[n]? = some call)
    (step : Call.Step s.flow call contacts flow call') :
    Coherent { flow, calls := s.calls.set n call', contacts := s.contacts ++ contacts } := by
  have consistent := coherent.consistent
  have member := List.mem_of_getElem? found
  have sound := coherent.sound call member
  constructor
  · exact step.consistent consistent sound
  · intro other inside
    obtain rfl | ⟨m, different, atOther⟩ := Lists.mem_set_cases inside
    · exact step.sound consistent sound
    · refine (coherent.sound other (List.mem_of_getElem? atOther)).frame step consistent ?_
      by_contra both
      obtain ⟨mine, others⟩ := not_or.mp both
      exact different (coherent.opener_unique atOther found others mine)
  · refine Lists.perm_of_countP fun p => ?_
    have := coherent.launches.countP_eq p
    have := step.countP_launches p
    have := Lists.countP_flatMap_set call' Call.launches p found
    simp only [Shared.launches, List.filterMap_append, List.countP_append] at *
    omega
  · have := coherent.length_bound
    have := step.length_bound
    have := Lists.countP_flatMap_set call' Call.returned (fun _ => true) found
    simp only [bound, List.filterMap_append, List.length_append, List.countP_true] at *
    omega
  · refine Lists.perm_of_countP fun p => ?_
    have := coherent.handles.countP_eq p
    have := step.countP_handles consistent p
    have := Lists.countP_flatMap_set call' Call.held p found
    simp only [bound, released, List.filterMap_append, List.countP_append] at *
    omega
  · have := coherent.length_opened
    have := step.length_channels
    have := Lists.countP_flatMap_set call' Call.opened (fun _ => true) found
    simp only [List.countP_true] at *
    omega
  · refine Lists.perm_of_countP fun p => ?_
    have := coherent.pendings.countP_eq p
    have := step.countP_pendings consistent p
    have := Lists.countP_flatMap_set call' Call.opened p found
    have := Lists.countP_flatMap_set call' Call.taken p found
    simp only [List.countP_append] at *
    omega
  · refine Lists.perm_of_countP fun p => ?_
    have := coherent.channels.countP_eq p
    have := step.countP_channels consistent (fun _ => coherent.waiting_of_pending)
      (fun waits _ => coherent.waiting_of_taken member waits) p
    have := Lists.countP_flatMap_set call' Call.contents p found
    simp only [List.countP_append] at *
    omega

theorem step (coherent : s.Coherent) {n : Nat} {t : Shared} (step : Step s n t) : t.Coherent := by
  cases step with
  | enter _ begun => exact coherent.enter begun
  | go found step => exact coherent.go found step

end Shared.Coherent

theorem Shared.Reachable.coherent {s : Shared} (reached : Reachable s) : s.Coherent :=
  reached.induct Coherent.initial fun _ coherent step => coherent.step step

end TokenAcquisition.Flow
