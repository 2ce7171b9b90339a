import TokenAcquisition.Proofs.Dispatch.Lives
import TokenAcquisition.Proofs.Lists

/-!
The lanes alone: what has been done for each command, which one the lane of the interactive
commands is at work on, whose session is registered, what is counted and what is posted.  Nothing
of a program is left here but its result.
-/

namespace TokenAcquisition.Dispatch

/-- What a dispatcher is to its lanes. -/
structure Lanes where
  /-- The commands in the order of their submission. -/
  entries : List Outline
  current : Option Nat
  session : Option Session
  /-- The lane and the outcome of each command that was counted. -/
  counted : List (String × String)
  replies : List (ReplyLoop Delivery)

namespace Lanes

def reach (l : Lanes) (n : Nat) (o : Outline) (milestone : Milestone) : Lanes where
  entries := l.entries.set n (o.extend milestone)
  current :=
    match milestone with
    | .received => some n
    | .posted _ _ => l.current.filter fun running => running ≠ n
    | _ => l.current
  session :=
    match milestone with
    | .registered => some { id := n, correlationId := o.correlationId }
    | .unregistered => l.session.filter fun session => session.id ≠ n
    | _ => l.session
  counted :=
    match milestone with
    | .recorded label => l.counted ++ [(o.lane.label, label)]
    | _ => l.counted
  replies :=
    match milestone with
    | .posted reply outcome =>
        l.replies.modify reply fun loop => loop.post { job := n, outcome }
    | _ => l.replies

@[simp]
theorem entries_reach (l : Lanes) (n : Nat) (o : Outline) (milestone : Milestone) :
    (l.reach n o milestone).entries = l.entries.set n (o.extend milestone) := rfl

/-- The lane can turn to a command: it is at work on nothing, and has turned to all that were
submitted before. -/
def IsFree (l : Lanes) (n : Nat) : Prop :=
  l.current = none ∧
    ∀ m < n, ∀ o, l.entries[m]? = some o → o.IsLane → o.history ≠ []

/-- One step of the lanes, with what is to be seen of it. -/
inductive Step : Lanes → List Occurrence → Lanes → Prop where
  | submit {l : Lanes} {o} :
      o.history = [] → Step l [] { l with entries := l.entries ++ [o] }
  | reach {l : Lanes} {n o milestone} :
      l.entries[n]? = some o → o.Next milestone → (milestone = .received → l.IsFree n) →
      Step l [.reached n milestone] (l.reach n o milestone)
  | deliver {l : Lanes} {reply loop delivery rest} :
      l.replies[reply]? = some loop → loop.runOnce = (.ran delivery, rest) →
      Step l ((delivery.outcome.deliver .noting).map (.reacted reply delivery.job))
        { l with replies := l.replies.set reply rest }
  | closeLoop {l : Lanes} (reply : Nat) :
      Step l [] { l with replies := l.replies.modify reply ReplyLoop.close }

theorem Step.reached {l l' : Lanes} {n : Nat} {milestone : Milestone}
    (step : Step l [.reached n milestone] l') :
    ∃ o, l.entries[n]? = some o ∧ o.Next milestone ∧ (milestone = .received → l.IsFree n) := by
  generalize seen : [Occurrence.reached n milestone] = occurrences at step
  cases step with
  | submit => cases seen
  | reach found next free =>
      cases seen
      exact ⟨_, found, next, free⟩
  | @deliver _ _ delivery =>
      have member : .reached n milestone ∈ [Occurrence.reached n milestone] :=
        List.mem_singleton_self _
      simp [seen] at member
  | closeLoop => cases seen

theorem Step.session_cases {l l' : Lanes} {occurrences : List Occurrence}
    (step : Step l occurrences l') (changed : l'.session ≠ l.session) :
    ∃ n o, l.entries[n]? = some o ∧ o.IsLane ∧
      (occurrences = [.reached n .registered] ∨ occurrences = [.reached n .unregistered]) := by
  cases step with
  | @reach n o milestone found next =>
      cases milestone with
      | registered => exact ⟨n, o, found, next.isLane_of_registered.1, .inl rfl⟩
      | unregistered => exact ⟨n, o, found, next.isLane_of_unregistered, .inr rfl⟩
      | _ => exact absurd rfl changed
  | _ => exact absurd rfl changed

/-- The lanes do one thing after another, in the order of submission. -/
structure Orderly (l : Lanes) : Prop where
  fits : ∀ o ∈ l.entries, o.Fits
  current_of_isUnderway : ∀ {n o}, l.entries[n]? = some o → o.IsUnderway → l.current = some n
  isUnderway_of_current : ∀ {n}, l.current = some n → ∃ o, l.entries[n]? = some o ∧ o.IsUnderway
  /-- Whatever was submitted before a command that the lane has turned to is over. -/
  isOver_of_lt : ∀ {m n : Nat} {first second : Outline}, m < n → l.entries[m]? = some first →
    l.entries[n]? = some second → first.IsLane → second.IsLane → second.history ≠ [] →
    first.IsOver
  hasSession : ∀ {session}, l.session = some session →
    ∃ o, l.entries[session.id]? = some o ∧ o.HasSession ∧
      o.correlationId = session.correlationId

namespace Orderly

variable {l : Lanes} {n : Nat} {o : Outline} {milestone : Milestone}

theorem submit (orderly : l.Orderly) (nothing : o.history = []) :
    Orderly { l with entries := l.entries ++ [o] } := by
  have kept {n : Nat} {o' : Outline} (found : l.entries[n]? = some o') :
      (l.entries ++ [o])[n]? = some o' := by
    rw [List.getElem?_append_left (List.getElem?_eq_some_iff.mp found).1, found]
  constructor
  · intro o' member
    rcases List.mem_append.mp member with before | new
    · exact orderly.fits o' before
    · exact ⟨default, by simp [List.mem_singleton.mp new, nothing]⟩
  · intro n o' found underway
    rcases Lists.getElem?_concat_cases found with before | ⟨-, rfl⟩
    · exact orderly.current_of_isUnderway before underway
    · exact absurd nothing underway.2.1
  · intro n current
    obtain ⟨o', found, underway⟩ := orderly.isUnderway_of_current current
    exact ⟨o', kept found, underway⟩
  · intro m n first second earlier atFirst atSecond lane lane' turned
    rcases Lists.getElem?_concat_cases atSecond with before | ⟨-, rfl⟩
    · rcases Lists.getElem?_concat_cases atFirst with before' | ⟨last, -⟩
      · exact orderly.isOver_of_lt earlier before' before lane lane' turned
      · have := (List.getElem?_eq_some_iff.mp before).1
        omega
    · exact absurd nothing turned
  · intro session registered
    obtain ⟨o', found, has⟩ := orderly.hasSession registered
    exact ⟨o', kept found, has⟩

theorem initial (entries : l.entries = []) (current : l.current = none)
    (session : l.session = none) : l.Orderly := by
  constructor <;> simp [entries, current, session]

theorem isLane (orderly : l.Orderly) (found : l.entries[n]? = some o)
    (member : milestone ∈ o.history)
    (own : milestone = .received ∨ milestone = .unregistered) : o.IsLane :=
  (orderly.fits o (List.mem_of_getElem? found)).isLane member own

/-- Reply loops are no matter of the lanes. -/
theorem replies (orderly : l.Orderly) (replies : List (ReplyLoop Delivery)) :
    Orderly { l with replies } :=
  ⟨orderly.fits, orderly.current_of_isUnderway, orderly.isUnderway_of_current,
    orderly.isOver_of_lt, orderly.hasSession⟩

theorem current_of_session (orderly : l.Orderly) {session : Session}
    (registered : l.session = some session) : l.current = some session.id := by
  obtain ⟨o, found, has, -⟩ := orderly.hasSession registered
  exact orderly.current_of_isUnderway found has.isUnderway

theorem session_eq_none (orderly : l.Orderly) (found : l.entries[n]? = some o)
    (next : o.Next .registered) : l.session = none := by
  obtain ⟨lane, past⟩ := next.isLane_of_registered
  have mine := orderly.current_of_isUnderway found (next.isUnderway lane (by simp))
  by_contra registered
  obtain ⟨session, registered⟩ := Option.ne_none_iff_exists'.mp registered
  have others := orderly.current_of_session registered
  obtain ⟨o', found', has, -⟩ := orderly.hasSession registered
  have same : session.id = n := Option.some.inj (others.symm.trans mine)
  obtain rfl : o' = o := by
    rw [same, found] at found'
    exact (Option.some.inj found').symm
  simpa [past] using has.2.1

theorem isOver_of_next (orderly : l.Orderly) (found : l.entries[n]? = some o)
    (next : o.Next milestone) (free : milestone = .received → l.IsFree n) (lane : o.IsLane)
    {m : Nat} (earlier : m < n) {first : Outline} (before : l.entries[m]? = some first)
    (lane' : first.IsLane) : first.IsOver := by
  by_cases nothing : o.history = []
  · obtain ⟨idle, turned⟩ := free (next.eq_received lane nothing)
    by_contra unfinished
    have := orderly.current_of_isUnderway before
      ⟨lane', turned m earlier first before lane', unfinished⟩
    simp [idle] at this
  · exact orderly.isOver_of_lt earlier before found lane' lane nothing

theorem reach (orderly : l.Orderly) (found : l.entries[n]? = some o) (next : o.Next milestone)
    (free : milestone = .received → l.IsFree n) : (l.reach n o milestone).Orderly := by
  have inside := (List.getElem?_eq_some_iff.mp found).1
  have changed : (l.reach n o milestone).entries[n]? = some (o.extend milestone) := by
    simp [Lanes.reach, inside]
  have kept {k : Nat} (other : k ≠ n) : (l.reach n o milestone).entries[k]? = l.entries[k]? := by
    simp [Lanes.reach, List.getElem?_set_ne (Ne.symm other)]
  constructor
  · intro o' member
    obtain rfl | ⟨m, -, before⟩ := Lists.mem_set_cases member
    · exact next.fits
    · exact orderly.fits o' (List.mem_of_getElem? before)
  · intro k o' atK underway
    rcases Lists.getElem?_set_cases atK with ⟨rfl, rfl⟩ | ⟨other, before⟩
    · cases milestone with
      | received => rfl
      | posted reply outcome =>
          exact absurd (next.isOver_extend_iff.mpr ⟨reply, outcome, rfl⟩) underway.2.2
      | _ => exact orderly.current_of_isUnderway found (next.isUnderway underway.1 (by simp))
    · -- Another command is underway, so the lane cannot have turned to this one.
      have current := orderly.current_of_isUnderway before underway
      cases milestone with
      | received => simp [(free rfl).1] at current
      | posted => simp [Lanes.reach, current, other]
      | _ => exact current
  · intro k current
    by_cases same : k = n
    · subst same
      refine ⟨_, changed, ?_⟩
      cases milestone with
      | received => exact next.isUnderway_extend next.isLane_of_received.1 (by simp)
      | posted => simp [Lanes.reach] at current
      | _ =>
          obtain ⟨o', atK, underway⟩ := orderly.isUnderway_of_current current
          obtain rfl : o = o' := Option.some.inj (found.symm.trans atK)
          exact next.isUnderway_extend underway.1 (by simp)
    · rw [kept same]
      refine orderly.isUnderway_of_current ?_
      cases milestone with
      | received => exact absurd (Option.some.inj current).symm same
      | posted => simpa [Lanes.reach, same] using current
      | _ => exact current
  · intro m k first second earlier atFirst atSecond lane lane' turned
    rcases Lists.getElem?_set_cases atSecond with ⟨rfl, rfl⟩ | ⟨-, before⟩
    · rw [kept (by omega)] at atFirst
      exact orderly.isOver_of_next found next free lane' earlier atFirst lane
    · rcases Lists.getElem?_set_cases atFirst with ⟨rfl, rfl⟩ | ⟨-, before'⟩
      · exact absurd (orderly.isOver_of_lt earlier found before lane lane' turned) next.not_isOver
      · exact orderly.isOver_of_lt earlier before' before lane lane' turned
  · intro session registered
    by_cases same : session.id = n
    · rw [same]
      refine ⟨_, changed, ?_⟩
      have own (before : l.session = some session) (stays : milestone ≠ .unregistered) :
          (o.extend milestone).HasSession ∧ o.correlationId = session.correlationId := by
        obtain ⟨o', atId, has, named⟩ := orderly.hasSession before
        rw [same] at atId
        obtain rfl : o = o' := Option.some.inj (found.symm.trans atId)
        exact ⟨has.extend stays, named⟩
      cases milestone with
      | registered =>
          obtain rfl := Option.some.inj registered
          exact ⟨next.hasSession_extend, rfl⟩
      | unregistered => simp [Lanes.reach, same] at registered
      | _ => exact own registered (by simp)
    · rw [kept same]
      refine orderly.hasSession ?_
      cases milestone with
      | registered =>
          obtain rfl := Option.some.inj registered
          exact absurd rfl same
      | unregistered => simpa [Lanes.reach, same] using registered
      | _ => exact registered

end Orderly

end Lanes

end TokenAcquisition.Dispatch
