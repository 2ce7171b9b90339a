import TokenAcquisition.Proofs.Dispatch.System

/-!
The life of a command: what is done for it, in which order.  How far it is follows from what has
been done for it so far.
-/

namespace TokenAcquisition

instance : Inhabited Breakdown :=
  ⟨.panic Breakdown.wordlessPanic⟩

namespace Dispatch

def Lane.before : Lane → List Milestone
  | .interactive => [.received, .registered]
  | .silent => []

/-- What is done for a command of a lane after it has ended, before its outcome is recorded. -/
def Lane.after : Lane → List Milestone
  | .interactive => [.unregistered, .disposed]
  | .silent => []

def Milestone.isPosted : Milestone → Bool
  | .posted _ _ => true
  | _ => false

/-- A command as it was submitted, and what has been done for it. -/
structure Outline where
  correlationId : String
  lane : Lane
  reply : Nat
  /-- There was a lane for it. -/
  isAccepted : Bool
  history : List Milestone

namespace Outline

variable {o : Outline} {milestone : Milestone}

def outcome (o : Outline) (result : Except Breakdown Acquisition) : Outcome :=
  .ofWork (some o.correlationId) result

/-- All that is done for a command whose work has a result. -/
def life (o : Outline) (result : Except Breakdown Acquisition) : List Milestone :=
  if o.isAccepted then
    o.lane.before ++ .started :: .ended result :: o.lane.after ++
      [.recorded (o.outcome result).label, .posted o.reply (o.outcome result)]
  else [.posted o.reply (Dispatcher.refusal o.correlationId)]

def extend (o : Outline) (milestone : Milestone) : Outline :=
  { o with history := o.history ++ [milestone] }

@[simp]
theorem extend_history (o : Outline) (milestone : Milestone) :
    (o.extend milestone).history = o.history ++ [milestone] := rfl

@[simp]
theorem extend_isAccepted (o : Outline) (milestone : Milestone) :
    (o.extend milestone).isAccepted = o.isAccepted := rfl

@[simp]
theorem extend_lane (o : Outline) (milestone : Milestone) :
    (o.extend milestone).lane = o.lane := rfl

@[simp]
theorem extend_reply (o : Outline) (milestone : Milestone) :
    (o.extend milestone).reply = o.reply := rfl

@[simp]
theorem extend_correlationId (o : Outline) (milestone : Milestone) :
    (o.extend milestone).correlationId = o.correlationId := rfl

@[simp]
theorem extend_outcome (o : Outline) (milestone : Milestone)
    (result : Except Breakdown Acquisition) :
    (o.extend milestone).outcome result = o.outcome result := rfl

/-- What can be done next for a command. -/
inductive Next (o : Outline) : Milestone → Prop where
  | tell :
      o.isAccepted = false → o.history = [] →
      Next o (.posted o.reply (Dispatcher.refusal o.correlationId))
  | receive :
      o.isAccepted = true → o.lane = .interactive → o.history = [] → Next o .received
  | register :
      o.isAccepted = true → o.lane = .interactive → o.history = [.received] →
      Next o .registered
  | start : o.isAccepted = true → o.history = o.lane.before → Next o .started
  | finish (result : Except Breakdown Acquisition) :
      o.isAccepted = true → o.history = o.lane.before ++ [.started] → Next o (.ended result)
  | unregister (result : Except Breakdown Acquisition) :
      o.isAccepted = true → o.lane = .interactive →
      o.history = o.lane.before ++ [.started, .ended result] → Next o .unregistered
  | dispose (result : Except Breakdown Acquisition) :
      o.isAccepted = true → o.lane = .interactive →
      o.history = o.lane.before ++ [.started, .ended result, .unregistered] → Next o .disposed
  | record (result : Except Breakdown Acquisition) :
      o.isAccepted = true →
      o.history = o.lane.before ++ .started :: .ended result :: o.lane.after →
      Next o (.recorded (o.outcome result).label)
  | post (result : Except Breakdown Acquisition) :
      o.isAccepted = true →
      o.history = o.lane.before ++ .started :: .ended result :: o.lane.after ++
        [.recorded (o.outcome result).label] →
      Next o (.posted o.reply (o.outcome result))

/-- What has been done is what comes first in some life of the command. -/
def Fits (o : Outline) : Prop :=
  ∃ result, o.history <+: o.life result

/-- Everything has been done. -/
def IsOver (o : Outline) : Prop :=
  ∃ result, o.history = o.life result

/-- The lane of the interactive commands has taken the command. -/
def IsLane (o : Outline) : Prop :=
  o.isAccepted = true ∧ o.lane = .interactive

/-- The lane has turned to the command and is not done with it. -/
def IsUnderway (o : Outline) : Prop :=
  o.IsLane ∧ o.history ≠ [] ∧ ¬ o.IsOver

def HasSession (o : Outline) : Prop :=
  o.IsLane ∧ .registered ∈ o.history ∧ .unregistered ∉ o.history

theorem Next.fits (next : o.Next milestone) : (o.extend milestone).Fits := by
  cases next with
  | tell refused nothing => exact ⟨default, by simp [life, refused, nothing]⟩
  | receive accepted lane past | register accepted lane past =>
      exact ⟨default, by simp [life, Lane.before, accepted, lane, past]⟩
  | start accepted past => exact ⟨default, by simp [life, accepted, past]⟩
  | finish result accepted past => exact ⟨result, by simp [life, accepted, past]⟩
  | unregister result accepted lane past | dispose result accepted lane past =>
      exact ⟨result, by simp [life, Lane.before, Lane.after, accepted, lane, past]⟩
  | record result accepted past => exact ⟨result, by simp [life, accepted, past]⟩
  | post result accepted past => exact ⟨result, by simp [life, accepted, past]⟩

/-- Only the lane of the interactive commands turns to one, registers it and gives it up. -/
theorem Fits.isLane (fits : o.Fits) (member : milestone ∈ o.history)
    (own : milestone = .received ∨ milestone = .unregistered) : o.IsLane := by
  obtain ⟨result, first⟩ := fits
  have member := first.subset member
  cases accepted : o.isAccepted <;> cases lane : o.lane <;>
    rcases own with rfl | rfl <;>
    simp_all [IsLane, life, Lane.before, Lane.after]

/-- The outcome is posted last, and everything else has been done before. -/
theorem Fits.isOver (fits : o.Fits) {reply : Nat} {outcome : Outcome}
    (posted : .posted reply outcome ∈ o.history) : o.IsOver := by
  obtain ⟨result, first⟩ := fits
  obtain ⟨earlier, last, all, unposted⟩ : ∃ earlier last, o.life result = earlier ++ [last] ∧
      .posted reply outcome ∉ earlier := by
    cases accepted : o.isAccepted with
    | false => exact ⟨[], _, by simp [life, accepted]; rfl, by simp⟩
    | true =>
        refine ⟨o.lane.before ++ .started :: .ended result :: o.lane.after ++
          [.recorded (o.outcome result).label], _, by simp [life, accepted]; rfl, ?_⟩
        cases o.lane <;> simp [Lane.before, Lane.after]
  rw [all, List.prefix_concat_iff] at first
  rcases first with whole | part
  · exact ⟨result, by rw [all, whole]⟩
  · exact absurd (part.subset posted) unposted

theorem IsLane.life_eq (lane : o.IsLane) (result : Except Breakdown Acquisition) :
    o.life result =
      [.received, .registered, .started, .ended result, .unregistered, .disposed,
        .recorded (o.outcome result).label, .posted o.reply (o.outcome result)] := by
  simp [life, lane.1, lane.2, Lane.before, Lane.after]

theorem countP_isPosted_life (o : Outline) (result : Except Breakdown Acquisition) :
    (o.life result).countP Milestone.isPosted = 1 := by
  unfold life
  split
  · cases o.lane <;> simp [Lane.before, Lane.after, Milestone.isPosted]
  · simp [Milestone.isPosted]

theorem Fits.countP_isPosted_le (fits : o.Fits) : o.history.countP Milestone.isPosted ≤ 1 := by
  obtain ⟨result, first⟩ := fits
  have := first.sublist.countP_le (p := Milestone.isPosted)
  rwa [countP_isPosted_life] at this

theorem IsOver.countP_isPosted_eq (isOver : o.IsOver) :
    o.history.countP Milestone.isPosted = 1 := by
  obtain ⟨result, whole⟩ := isOver
  rw [whole, countP_isPosted_life]

/-- Nothing is done any more for a command for which everything has been done. -/
theorem Next.not_isOver (next : o.Next milestone) : ¬ o.IsOver := by
  rintro ⟨result, whole⟩
  cases next <;> cases lane : o.lane <;> simp_all [life, Lane.before, Lane.after]

theorem Next.isOver_extend_iff (next : o.Next milestone) :
    (o.extend milestone).IsOver ↔ ∃ reply outcome, milestone = .posted reply outcome := by
  cases next <;> cases lane : o.lane <;> simp_all [IsOver, life, Lane.before, Lane.after]

theorem Next.eq_received (next : o.Next milestone) (lane : o.IsLane) (nothing : o.history = []) :
    milestone = .received := by
  obtain ⟨accepted, interactive⟩ := lane
  cases next <;> simp_all [Lane.before]

theorem Next.isLane_of_received (next : o.Next .received) : o.IsLane ∧ o.history = [] := by
  cases next with
  | receive accepted lane nothing => exact ⟨⟨accepted, lane⟩, nothing⟩

theorem Next.isLane_of_registered (next : o.Next .registered) :
    o.IsLane ∧ o.history = [.received] := by
  cases next with
  | register accepted lane past => exact ⟨⟨accepted, lane⟩, past⟩

theorem Next.isLane_of_unregistered (next : o.Next .unregistered) : o.IsLane := by
  cases next with
  | unregister _ accepted lane _ => exact ⟨accepted, lane⟩

/-- The lane is at work on whatever it goes on with. -/
theorem Next.isUnderway (next : o.Next milestone) (lane : o.IsLane)
    (later : milestone ≠ .received) : o.IsUnderway :=
  ⟨lane, fun nothing => later (next.eq_received lane nothing), next.not_isOver⟩

/-- The lane stays at work until the outcome is posted. -/
theorem Next.isUnderway_extend (next : o.Next milestone) (lane : o.IsLane)
    (early : ∀ reply outcome, milestone ≠ .posted reply outcome) :
    (o.extend milestone).IsUnderway := by
  refine ⟨lane, by simp, fun isOver => ?_⟩
  obtain ⟨reply, outcome, posted⟩ := next.isOver_extend_iff.mp isOver
  exact early reply outcome posted

theorem HasSession.isUnderway (session : o.HasSession) : o.IsUnderway := by
  obtain ⟨lane, registered, unregistered⟩ := session
  refine ⟨lane, List.ne_nil_of_mem registered, fun ⟨result, whole⟩ => unregistered ?_⟩
  simp [whole, lane.life_eq]

theorem HasSession.extend (session : o.HasSession) (kept : milestone ≠ .unregistered) :
    (o.extend milestone).HasSession := by
  obtain ⟨lane, registered, unregistered⟩ := session
  exact ⟨lane, by simp [registered], by simp [unregistered, kept.symm]⟩

theorem Next.hasSession_extend (next : o.Next .registered) :
    (o.extend .registered).HasSession := by
  obtain ⟨lane, past⟩ := next.isLane_of_registered
  exact ⟨lane, by simp, by simp [past]⟩

end Outline

end Dispatch

end TokenAcquisition
