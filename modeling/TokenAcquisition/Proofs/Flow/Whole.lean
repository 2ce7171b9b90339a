import TokenAcquisition.Proofs.Flow.Calls

/-!
Whole calls.  A call that goes on from start to end, with nothing between its steps but what others
do while an agent is chosen or launched, comes to what the functions of a flow come to at once.
-/

namespace TokenAcquisition.Flow

namespace Shared

variable {s t : Shared} {n : Nat} {flow flow' : Flow} {call call' : Call} {events : List Event}

def told (s : Shared) : List Event :=
  s.contacts.filterMap Contact.event?

/-- Some calls go on, but not that of a number. -/
def Aside (n : Nat) : Shared → Shared → Prop :=
  Relation.ReflTransGen fun s t => ∃ m, m ≠ n ∧ Step s m t

theorem Aside.run (aside : Aside n s t) : Run s t :=
  Relation.ReflTransGen.mono (fun _ _ ⟨m, _, step⟩ => ⟨m, step⟩) _ _ aside

theorem Aside.call_eq (aside : Aside n s t) (found : s.calls[n]? = some call) :
    t.calls[n]? = some call := by
  induction aside with
  | refl => exact found
  | tail _ last inductionHypothesis =>
      obtain ⟨m, other, last⟩ := last
      have inside := (List.getElem?_eq_some_iff.mp inductionHypothesis).1
      cases last with
      | enter => simpa [List.getElem?_append_left inside] using inductionHypothesis
      | go => simpa [List.getElem?_set_ne other] using inductionHypothesis

/-- Others do this to the flow, whatever has been done to it. -/
def Does (n : Nat) (effect : Flow → Flow × List Event) : Prop :=
  ∀ s : Shared, ∃ t, Aside n s t ∧ t.flow = (effect s.flow).1 ∧
    t.told = s.told ++ (effect s.flow).2

theorem does_undisturbed (n : Nat) : Does n undisturbed :=
  fun s => ⟨s, .refl, rfl, by simp [undisturbed]⟩

theorem does_answering (n : Nat) (answer : LaunchAnswer) (launch : Launch) :
    Does n fun flow => (answering answer launch flow).1 :=
  does_undisturbed n

/-- The call of a number can come to a point, where the flow is such and the user agent has been
told such things. -/
def Leads (s : Shared) (n : Nat) (flow : Flow) (call : Call) (events : List Event) : Prop :=
  ∃ t, Run s t ∧ t.flow = flow ∧ t.calls[n]? = some call ∧ t.told = s.told ++ events

namespace Leads

theorem start (found : s.calls[n]? = some call) : Leads s n s.flow call [] :=
  ⟨s, .refl, rfl, found, by simp⟩

/-- A call that is still to begin leads wherever it leads once it has begun. -/
theorem enter (call : Call) (begun : call.IsBegun)
    (leads : Leads { s with calls := s.calls ++ [call] } n flow call' events) :
    Leads s n flow call' events := by
  obtain ⟨t, run, own, found, told⟩ := leads
  exact ⟨t, .head ⟨_, .enter call begun⟩ run, own, found, told⟩

theorem step {contacts : List Contact} (leads : Leads s n flow call events)
    (further : Call.Step flow call contacts flow' call') :
    Leads s n flow' call' (events ++ contacts.filterMap Contact.event?) := by
  obtain ⟨t, run, rfl, found, told⟩ := leads
  have inside := (List.getElem?_eq_some_iff.mp found).1
  refine ⟨_, run.tail ⟨n, .go found further⟩, rfl, by simp [inside], ?_⟩
  simp only [Shared.told, List.filterMap_append] at *
  rw [told, List.append_assoc]

theorem aside {effect : Flow → Flow × List Event} (leads : Leads s n flow call events)
    (others : Does n effect) : Leads s n (effect flow).1 call (events ++ (effect flow).2) := by
  obtain ⟨t, run, rfl, found, told⟩ := leads
  obtain ⟨u, aside, same, more⟩ := others t
  refine ⟨u, run.trans aside.run, same, aside.call_eq found, ?_⟩
  rw [more, told, List.append_assoc]

end Leads

theorem filterMap_event?_release (handle : Option AgentHandle) :
    (handle.toList.map Contact.release).filterMap Contact.event? = Flow.released handle := by
  cases handle <;> rfl

@[simp]
theorem filterMap_event?_launch (launch : Launch) :
    [Contact.launch launch].filterMap Contact.event? = [.launch launch] := rfl

@[simp]
theorem filterMap_event?_bound (handle : AgentHandle) :
    [Contact.bound handle].filterMap Contact.event? = [] := rfl

@[simp]
theorem filterMap_event?_surplus (handle : AgentHandle) :
    [Contact.release handle].filterMap Contact.event? = [.release handle] := rfl

theorem leads_complete? {requestCode : Int} {token : Uuid} {completion : Completion}
    {handle : Option AgentHandle} (own : s.flow = flow)
    (found : s.calls[n]? = some (.complete requestCode token completion .begun))
    (completed : flow.complete? requestCode token completion = some (flow', handle)) :
    ∃ pending, Leads s n flow' (.complete requestCode token completion (.resolved pending))
      (Flow.released handle) := by
  subst own
  obtain ⟨⟨pending, _, after⟩, taken, same⟩ := Option.map_eq_some_iff.mp completed
  obtain ⟨rfl, rfl⟩ := Prod.mk.inj same
  have took := (Leads.start found).step (.take taken)
  have released := took.step .releaseTaken
  have resolved := released.step .resolve
  refine ⟨pending, ?_⟩
  simpa only [filterMap_event?_release, List.filterMap_nil, List.nil_append, List.append_nil]
    using resolved

theorem leads_ignored {requestCode : Int} {token : Uuid} {completion : Completion}
    (found : s.calls[n]? = some (.complete requestCode token completion .begun))
    (ignored : s.flow.complete? requestCode token completion = none) :
    Leads s n s.flow (.complete requestCode token completion .ignored) [] :=
  (Leads.start found).step (.ignore (Option.map_eq_none_iff.mp ignored))

theorem leads_dispose (own : s.flow = flow) (found : s.calls[n]? = some (.dispose .begun)) :
    ∃ pending, Leads s n flow.dispose.1 (.dispose (.ended pending))
      (Flow.released flow.dispose.2) := by
  subst own
  have parts : s.flow.close = (s.flow.close.1, s.flow.close.2.1, s.flow.close.2.2) := rfl
  have closed := (Leads.start found).step (.close parts)
  have released := closed.step .releaseClosed
  have abandoned := released.step .abandon
  refine ⟨s.flow.close.1, ?_⟩
  simpa only [dispose, filterMap_event?_release, List.filterMap_nil, List.nil_append,
    List.append_nil] using abandoned

theorem leads_request {agents : List Agent} {authorization : AuthorizationRequest} {token : Uuid}
    {bound : Option String} {whileSelecting : Flow → Flow × List Event}
    {whileLaunching : Launch → Flow → (Flow × List Event) × LaunchAnswer} {started : Started}
    (own : s.flow = flow) (found : s.calls[n]? = some (.request authorization byState bound .begun))
    (selecting : Does n whileSelecting)
    (launching : ∀ launch, Does n fun flow => (whileLaunching launch flow).1)
    (requested : flow.request agents authorization token bound whileSelecting whileLaunching =
      (started, flow', events)) :
    ∃ call, Leads s n flow' call events ∧ call.started? = some started := by
  subst own
  have begun := Leads.start found
  unfold request at requested
  split at requested
  next failure busy =>
    cases requested
    exact ⟨_, begun.step (.refuse busy), rfl⟩
  next idle =>
    have checked := (begun.step (.check idle)).aside selecting
    split at requested
    next flow₁ events₁ during =>
      rw [during] at checked
      split at requested
      next failure _ =>
        cases requested
        exact ⟨_, by simpa using checked.step (.selectNone failure), rfl⟩
      next agent _ =>
        have selected := checked.step (.select agent)
        split at requested
        next failure busy =>
          cases requested
          have refused := selected.step (.refuseLate (dispatch_eq_error_iff.mp busy))
          exact ⟨_, by simpa using refused, rfl⟩
        next launch flow₂ dispatched =>
          have launched := (selected.step (.dispatch token dispatched)).aside (launching launch)
          split at requested
          next flow₃ events₃ answer during =>
            rw [during] at launched
            split at requested
            next =>
              have bound := launched.step (.bind launch.handle)
              split at requested
              next flow₄ handle kept =>
                cases requested
                cases handle with
                | none => exact ⟨_, by simpa [Flow.released] using bound.step (.keep kept), rfl⟩
                | some surplus =>
                    have surplus := bound.step (.keepNot kept)
                    exact ⟨_, by simpa [Flow.released] using surplus.step .giveBack, rfl⟩
            next failure =>
              cases requested
              have failing := launched.step (.fail failure)
              exact ⟨_, by simpa using failing.step .giveUp, rfl⟩
            next message =>
              cases requested
              exact ⟨_, by simpa using launched.step (.panic message), rfl⟩

end Shared

end TokenAcquisition.Flow
